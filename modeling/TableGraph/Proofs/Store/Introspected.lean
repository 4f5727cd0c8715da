import TableGraph.Proofs.Store.Writing
import TableGraph.Store.Introspection

/-! # What introspection finds

The schema that is read shows every table of the namespace that is not left out, and its foreign keys lead to tables
that it shows (`Introspected`). It shows more only where a foreign key spells a table in another way than the table
itself (`Introspected.showsOnly`).
-/
namespace TableGraph.Store.Database
open Chain
variable {db : Database} {exclude names : List String} {n : String} {s : Schema}

/-! ## Tables that foreign keys lead to -/

theorem mem_foldl_new {new : List String} :
    n ∈ new.foldl (fun names n => if n ∈ names then names else names ++ [n]) names ↔ n ∈ names ∨ n ∈ new := by
  induction new generalizing names with
  | nil => simp
  | cons m rest ih =>
    rw [List.foldl_cons, ih]
    split
    · rename_i hm
      constructor
      · rintro (h | h)
        · exact .inl h
        · exact .inr (List.mem_cons_of_mem m h)
      · rintro (h | h)
        · exact .inl h
        · rcases List.mem_cons.1 h with rfl | h
          · exact .inl hm
          · exact .inr h
    · simp only [List.mem_append, List.mem_cons, List.not_mem_nil, or_false, or_assoc]

theorem mem_extend : n ∈ db.extend names ↔ n ∈ names ∨ ∃ m ∈ names, n ∈ db.targets m := by
  rw [extend, mem_foldl_new, List.mem_flatMap]

/-- What holds of some names and of all that foreign keys lead to holds of all names that are reached from them. -/
theorem reach_all {P : String → Prop} (hnames : ∀ m ∈ names, P m) (htargets : ∀ m, ∀ k ∈ db.targets m, P k) :
    ∀ m ∈ db.reach names, P m := by
  unfold reach
  induction List.range db.keyCount generalizing names with
  | nil => exact hnames
  | cons i rest ih =>
    rw [List.foldl_cons]
    refine ih fun m hm => ?_
    rcases mem_extend.1 hm with hm | ⟨k, -, hm⟩
    · exact hnames m hm
    · exact htargets k m hm

theorem mem_reach (h : n ∈ names) : n ∈ db.reach names := by
  unfold reach
  induction List.range db.keyCount generalizing names with
  | nil => exact h
  | cons i rest ih =>
    rw [List.foldl_cons]
    exact ih (mem_extend.2 (.inl h))

theorem mem_targets {m : String} :
    n ∈ db.targets m ↔ ∃ t, db.table? m = some t ∧ ∃ f ∈ t.foreignKeys, f.referencedTable = n := by
  unfold targets
  cases db.table? m with
  | none => simp
  | some t => simp

/-! ## Descriptions -/

theorem foreignKeyOf_ok {own : List String} {f g : ForeignKey} (h : db.foreignKeyOf own f = .ok (some g)) :
    g.referencedTable ∈ own := by
  unfold foreignKeyOf at h
  split at h
  · cases h
  · split at h
    · have h := Except.ok.inj h
      split at h
      · rename_i hown
        obtain rfl := Option.some.inj h
        exact hown
      · cases h
    · cases h

theorem describe_ok {own : List String} {d : SchemaTable} (h : db.describe own n = .ok d) :
    d.name = n ∧ ∀ f ∈ d.foreignKeys, f.referencedTable ∈ own := by
  unfold describe at h
  split at h
  · cases h
  · obtain ⟨keys, hkeys, h⟩ := bind_eq_ok.1 h
    obtain rfl := Except.ok.inj h
    refine ⟨rfl, fun f hf => ?_⟩
    obtain ⟨found, hfound, rfl⟩ := List.mem_filterMap.1 hf
    obtain ⟨g, -, hg⟩ := exists_of_mem_result hkeys hfound
    exact foreignKeyOf_ok hg

theorem names_of_describe {own : List String} {tables : List SchemaTable}
    (h : names.mapM (db.describe own) = .ok tables) : tables.map (·.name) = names := by
  induction names generalizing tables with
  | nil =>
    obtain rfl := Except.ok.inj h
    rfl
  | cons m rest ih =>
    obtain ⟨d, more, hd, hmore, rfl⟩ := mapM_cons_ok.1 h
    rw [List.map_cons, ih hmore, (describe_ok hd).1]

/-! ## The schema of a namespace -/

/-- The names of the tables of a schema. -/
abbrev namesOf (s : Schema) : List String := s.tables.map (·.name)

/-- The tables of a namespace: those of the database in the main one, and none in that for temporary tables. -/
def tablesIn (db : Database) : Option String → List StoredTable
  | none => db.tables
  | some space => if sameName space "main" then db.tables else []

/-- The names of the tables of a namespace that are not to be left out. -/
def wanted (db : Database) (space : Option String) (exclude : List String) : List String :=
  ((db.tablesIn space).map (·.name)).filter fun n => !(n ∈ exclude)

/-- A schema as introspection reads it: its tables are those that are reached and not left out, in order, and its
foreign keys lead to them. -/
structure Introspected (db : Database) (space : Option String) (exclude : List String) (s : Schema) : Prop where
  present : ∀ n ∈ db.reach (db.wanted space exclude), ∃ t, db.table? n = some t
  names : ∀ n, n ∈ namesOf s ↔ n ∈ db.reach (db.wanted space exclude) ∧ n ∉ exclude
  ordered : (namesOf s).Pairwise fun m n => m < n
  closed : ∀ t ∈ s.tables, ∀ f ∈ t.foreignKeys, f.referencedTable ∈ namesOf s

theorem introspected_of_main {space : Option String} (htables : db.tablesIn space = db.tables)
    (h : db.introspectMain exclude = .ok s) : db.Introspected space exclude s := by
  have hwanted : db.wanted space exclude = (db.tables.map (·.name)).filter fun n => !(n ∈ exclude) := by
    rw [wanted, htables]
  unfold introspectMain at h
  rw [← hwanted] at h
  dsimp only at h
  split at h
  · cases h
  · rename_i hpresent
    obtain ⟨tables, hdescribed, h⟩ := bind_eq_ok.1 h
    obtain rfl := Except.ok.inj h
    have hnames := names_of_describe hdescribed
    refine ⟨fun n hn => ?_, fun n => ?_, ?_, fun t ht f hf => ?_⟩
    · rw [Bool.not_eq_true, List.any_eq_false] at hpresent
      exact Option.ne_none_iff_exists'.1 (by simpa using hpresent n hn)
    · simp only [namesOf, hnames]
      rw [mem_ascending_iff (fun a b hab => by simpa using hab), List.mem_filter]
      simp
    · simp only [namesOf, hnames]
      refine (pairwise_ascending _ _).imp fun {a b} hab => ?_
      simpa [List.cons_lt_cons_iff] using hab
    · obtain ⟨m, -, hm⟩ := exists_of_mem_result hdescribed ht
      simp only [namesOf, hnames]
      exact (describe_ok hm).2 f hf

theorem tablesIn_cases (db : Database) (space : Option String) :
    db.tablesIn space = db.tables ∨ db.tablesIn space = [] := by
  unfold tablesIn
  split
  · exact .inl rfl
  · split
    · exact .inl rfl
    · exact .inr rfl

theorem reach_nil : db.reach [] = [] := by
  unfold reach
  induction List.range db.keyCount with
  | nil => rfl
  | cons i rest ih => exact ih

theorem introspected {space : Option String} (h : db.introspect space exclude = .ok s) :
    db.Introspected space exclude s := by
  unfold introspect at h
  split at h
  · exact introspected_of_main rfl h
  · rename_i space
    split at h
    · rename_i hmain
      exact introspected_of_main (if_pos hmain) h
    · rename_i hmain
      split at h
      · obtain rfl := Except.ok.inj h
        have hreach : db.reach (db.wanted (some space) exclude) = [] := by
          rw [wanted, tablesIn, if_neg hmain]
          exact reach_nil
        refine ⟨fun n hn => ?_, fun n => ?_, List.Pairwise.nil, fun t ht => absurd ht List.not_mem_nil⟩
        · rw [hreach] at hn
          cases hn
        · simp [namesOf, hreach]
      · cases h

/-- Every table that is wanted is shown. -/
theorem Introspected.shows {space : Option String} (h : db.Introspected space exclude s) {t : StoredTable}
    (ht : t ∈ db.tablesIn space) (hn : t.name ∉ exclude) : t.name ∈ namesOf s := by
  refine (h.names t.name).2 ⟨mem_reach ?_, hn⟩
  simpa [wanted, hn] using ⟨t, ht, rfl⟩

/-! ## Names as tables spell them -/

/-- No two tables have the same name. -/
def Distinct (db : Database) : Prop := (db.tables.map fun t => upperAscii t.name).Nodup

/-- Every foreign key spells the table that it leads to as the table itself does. -/
def SpellsTables (db : Database) : Prop :=
  ∀ t ∈ db.tables, ∀ f ∈ t.foreignKeys, ∀ u, db.table? f.referencedTable = some u → f.referencedTable = u.name

/-- A schema shows just the tables of a namespace that are not left out. -/
def ShowsOnly (db : Database) (space : Option String) (exclude : List String) (s : Schema) : Prop :=
  ∀ n, n ∈ namesOf s ↔ n ∉ exclude ∧ ∃ t ∈ db.tablesIn space, t.name = n

theorem mem_tables_of_table? {t : StoredTable} (h : db.table? n = some t) : t ∈ db.tables := List.mem_of_find?_eq_some h

theorem mem_tables_of_tablesIn {space : Option String} {t : StoredTable} (h : t ∈ db.tablesIn space) :
    t ∈ db.tables := by
  rcases db.tablesIn_cases space with htables | htables
  · exact htables ▸ h
  · rw [htables] at h
    cases h

/-- A table is found by its own name. -/
theorem Distinct.table?_eq (hd : db.Distinct) {t u : StoredTable} (ht : t ∈ db.tables) (h : db.table? t.name = some u) :
    u = t := by
  have hsame : upperAscii u.name = upperAscii t.name := by simpa [sameName] using sameName_of_table? h
  exact List.inj_on_of_nodup_map hd (mem_tables_of_table? h) ht hsame

theorem reach_spelled (hspells : db.SpellsTables) (hnames : ∀ m ∈ names, ∃ t ∈ db.tables, t.name = m) :
    ∀ m ∈ db.reach names, ∀ u, db.table? m = some u → ∃ t ∈ db.tables, t.name = m := by
  refine reach_all (fun m hm u _ => hnames m hm) fun m k hk u hu => ?_
  obtain ⟨t, ht, f, hf, rfl⟩ := mem_targets.1 hk
  exact ⟨u, mem_tables_of_table? hu, (hspells t (mem_tables_of_table? ht) f hf u hu).symm⟩

/-- Where foreign keys spell the tables as they are, nothing is shown but what is wanted. -/
theorem Introspected.showsOnly {space : Option String} (h : db.Introspected space exclude s)
    (hspells : db.SpellsTables) : db.ShowsOnly space exclude s := by
  intro n
  constructor
  · intro hn
    obtain ⟨hreached, hexclude⟩ := (h.names n).1 hn
    obtain ⟨u, hu⟩ := h.present n hreached
    refine ⟨hexclude, ?_⟩
    rcases db.tablesIn_cases space with htables | htables
    · rw [htables]
      refine reach_spelled hspells (fun m hm => ?_) n hreached u hu
      rw [wanted, htables] at hm
      exact List.mem_map.1 (List.mem_filter.1 hm).1
    · rw [wanted, htables, List.map_nil, List.filter_nil, reach_nil] at hreached
      cases hreached
  · rintro ⟨hexclude, t, ht, rfl⟩
    exact h.shows ht hexclude

end TableGraph.Store.Database
