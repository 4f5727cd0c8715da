import Mathlib.Data.List.Nodup
import Mathlib.Data.List.Perm.Subperm
import TableGraph.Catalog.Namer

/-! # Histories of a namer

A namer is asked to reserve names and to assign them, in any order and for any tables. What it has
done so far decides which names are taken (`TakenBy`), and its state is exactly that record
(`Records`). A name that is new for its column was never taken before, and the search for it ends
after at most as many rounds as there are taken names.
-/
namespace TableGraph.Namer

inductive Step where
  | reserve (table : String) (names : List String)
  | assign (table column referencedTable : String)

/-- What a step did: names were reserved for a table, or a column of it was given one. -/
inductive Event where
  | reserved (table : String) (names : List String)
  | given (table column name : String)

def perform (n : Namer) : Step → Event × Namer
  | .reserve table names => (.reserved table names, n.reserve table names)
  | .assign table column referencedTable =>
    (.given table column (n.assign table column referencedTable).1, (n.assign table column referencedTable).2)

def run (n : Namer) (steps : List Step) : Namer := steps.foldl (fun m step => (m.perform step).2) n

def history (n : Namer) : List Step → List Event
  | [] => []
  | step :: rest => (n.perform step).1 :: (n.perform step).2.history rest

/-- A name is taken for a table if it is the table's own, was reserved for it, or was given to one of
its columns. -/
def TakenBy (past : List Event) (table name : String) : Prop :=
  name = sanitizeName table ∨ (∃ names, .reserved table names ∈ past ∧ name ∈ names) ∨
    ∃ column, .given table column name ∈ past

/-! ## The search for a free name -/

def extended (suffix : Nat → String) (salt : Nat) (name : String) : Nat → String
  | 0 => name
  | rounds + 1 => extended suffix (salt + 1) (name ++ "_" ++ suffix (salt + 1)) rounds

theorem length_add_le_extended (suffix : Nat → String) (salt : Nat) (name : String) (rounds : Nat) :
    name.length + rounds ≤ (extended suffix salt name rounds).length := by
  induction rounds generalizing salt name with
  | zero => exact Nat.le_refl _
  | succ rounds ih =>
    have h := ih (salt + 1) (name ++ "_" ++ suffix (salt + 1))
    have hlen : (name ++ "_" ++ suffix (salt + 1)).length = name.length + 1 + (suffix (salt + 1)).length := by
      rw [String.length_append, String.length_append]
      rfl
    rw [extended]
    omega

theorem extended_length_lt (suffix : Nat → String) (salt : Nat) (name : String) {i j : Nat} (h : i < j) :
    (extended suffix salt name i).length < (extended suffix salt name j).length := by
  induction i generalizing j salt name with
  | zero =>
    have hj := length_add_le_extended suffix salt name j
    rw [extended]
    omega
  | succ i ih =>
    cases j with
    | zero => omega
    | succ j => exact ih (salt + 1) (name ++ "_" ++ suffix (salt + 1)) (Nat.lt_of_succ_lt_succ h)

theorem freeName_eq_extended (taken : List String) (suffix : Nat → String) (salt : Nat) (name : String) :
    ∃ rounds, freeName taken suffix salt name = extended suffix salt name rounds ∧
      ∀ i < rounds, extended suffix salt name i ∈ taken := by
  fun_induction freeName taken suffix salt name with
  | case1 salt name h ih =>
    obtain ⟨rounds, he, hr⟩ := ih
    refine ⟨rounds + 1, he, ?_⟩
    intro i hi
    cases i with
    | zero => exact h
    | succ i => exact hr i (Nat.lt_of_succ_lt_succ hi)
  | case2 salt name h => exact ⟨0, rfl, by simp⟩

/-- The names passed over grow, so they are different members of the taken ones. -/
theorem rounds_le_length {taken : List String} {suffix : Nat → String} {salt : Nat} {name : String} {rounds : Nat}
    (h : ∀ i < rounds, extended suffix salt name i ∈ taken) : rounds ≤ taken.length := by
  let passed := (List.range rounds).map (extended suffix salt name)
  have hnodup : passed.Nodup := by
    rw [List.nodup_map_iff_inj_on List.nodup_range]
    intro i _ j _ he
    rcases Nat.lt_trichotomy i j with hij | hij | hij
    · exact absurd (congrArg String.length he) (Nat.ne_of_lt (extended_length_lt suffix salt name hij))
    · exact hij
    · exact absurd (congrArg String.length he) (Nat.ne_of_gt (extended_length_lt suffix salt name hij))
  have hsub : passed ⊆ taken := by
    intro s hs
    obtain ⟨i, hi, rfl⟩ := List.mem_map.1 hs
    exact h i (List.mem_range.1 hi)
  simpa [passed] using (hnodup.subperm hsub).length_le

/-! ## The names held -/

/-- The names that the columns of a table hold are taken, none of them is among `own`, which were
taken before, and no two columns hold one name. -/
structure Coherent (own : List String) (table : String) (n : Namer) : Prop where
  seeded : ∀ name ∈ own, name ∈ n.takenFor table
  held : ∀ column name, n.lookup table column = some name → name ∈ n.takenFor table ∧ name ∉ own
  apart : ∀ column other name, n.lookup table column = some name → n.lookup table other = some name →
    column = other

theorem Coherent.reserve {own : List String} {table : String} {n : Namer} (h : Coherent own table n)
    (other : String) (names : List String) : Coherent own table (n.reserve other names) := by
  have hmono : ∀ name ∈ n.takenFor table, name ∈ (n.reserve other names).takenFor table := by
    intro name hn
    rw [takenFor_reserve]
    split
    · rename_i he
      exact List.mem_append_left _ (he ▸ hn)
    · exact hn
  exact ⟨fun name hn => hmono name (h.seeded name hn),
    fun column name hl => ⟨hmono name (h.held column name hl).1, (h.held column name hl).2⟩, h.apart⟩

theorem Coherent.give {own : List String} {table : String} {n : Namer} (h : Coherent own table n)
    {other column name : String} (hname : name ∉ n.takenFor other) :
    Coherent own table (n.give other column name) := by
  have hmono : ∀ s ∈ n.takenFor table, s ∈ (n.give other column name).takenFor table := by
    intro s hs
    rw [takenFor_give]
    split
    · rename_i he
      exact List.mem_append_left _ (he ▸ hs)
    · exact hs
  refine ⟨fun s hs => hmono s (h.seeded s hs), ?_, ?_⟩
  · intro c s hl
    rw [lookup_give] at hl
    split at hl
    · rename_i he
      obtain ⟨rfl, rfl⟩ := he
      cases hl
      refine ⟨?_, fun ho => hname (h.seeded name ho)⟩
      rw [takenFor_give, if_pos rfl]
      exact List.mem_append_right _ (List.mem_singleton.2 rfl)
    · exact ⟨hmono s (h.held c s hl).1, (h.held c s hl).2⟩
  · intro c d s hc hd
    rw [lookup_give] at hc hd
    -- a name held before is taken, so it is not the one given now
    split at hc <;> split at hd
    · rename_i hc' hd'
      exact hc'.2.symm.trans hd'.2
    · rename_i hc' _
      cases hc
      exact absurd (hc'.1 ▸ (h.held d name hd).1) hname
    · rename_i _ hd'
      cases hd
      exact absurd (hd'.1 ▸ (h.held c name hc).1) hname
    · exact h.apart c d s hc hd

theorem Coherent.assign {own : List String} {table : String} {n : Namer} (h : Coherent own table n)
    (other column referencedTable : String) :
    Coherent own table (n.assign other column referencedTable).2 := by
  cases hl : n.lookup other column with
  | some name =>
    rw [assign_of_held hl]
    exact h
  | none =>
    rw [assign_of_new hl]
    exact h.give (n.choose_not_mem other column referencedTable)

theorem lookup_assign (n : Namer) (table column referencedTable other column' : String) :
    (n.assign table column referencedTable).2.lookup other column' =
      if table = other ∧ column = column' then some (n.assign table column referencedTable).1
      else n.lookup other column' := by
  cases hl : n.lookup table column with
  | some name =>
    rw [assign_of_held hl]
    split
    · rename_i he
      rw [← he.1, ← he.2, hl]
    · rfl
  | none => rw [assign_of_new hl, lookup_give]

/-! ## The state as a record of what was done -/

/-- The state of a namer holds exactly what its past says. -/
structure Records (past : List Event) (n : Namer) : Prop where
  taken : ∀ table name, name ∈ n.takenFor table ↔ TakenBy past table name
  held : ∀ table column name, n.lookup table column = some name ↔ .given table column name ∈ past
  coherent : ∀ table, Coherent [] table n

theorem Records.start (hashLength : Int) : Records [] { hashLength } where
  taken table name := by simp [takenFor, TakenBy]
  held table column name := by simp [lookup]
  coherent table := ⟨by simp, by simp [lookup], by simp [lookup]⟩

theorem TakenBy.append {past : List Event} {table name : String} {e : Event} :
    TakenBy (past ++ [e]) table name ↔
      TakenBy past table name ∨ (∃ names, e = .reserved table names ∧ name ∈ names) ∨
        ∃ column, e = .given table column name := by
  simp only [TakenBy, List.mem_append, List.mem_singleton]
  constructor
  · rintro (h | ⟨names, h | h, hn⟩ | ⟨column, h | h⟩)
    · exact .inl (.inl h)
    · exact .inl (.inr (.inl ⟨names, h, hn⟩))
    · exact .inr (.inl ⟨names, h.symm, hn⟩)
    · exact .inl (.inr (.inr ⟨column, h⟩))
    · exact .inr (.inr ⟨column, h.symm⟩)
  · rintro ((h | ⟨names, h, hn⟩ | ⟨column, h⟩) | ⟨names, h, hn⟩ | ⟨column, h⟩)
    · exact .inl h
    · exact .inr (.inl ⟨names, .inl h, hn⟩)
    · exact .inr (.inr ⟨column, .inl h⟩)
    · exact .inr (.inl ⟨names, .inr h.symm, hn⟩)
    · exact .inr (.inr ⟨column, .inr h.symm⟩)

theorem Records.reserve {past : List Event} {n : Namer} (h : Records past n) (table : String)
    (names : List String) : Records (past ++ [.reserved table names]) (n.reserve table names) where
  taken other name := by
    rw [takenFor_reserve, TakenBy.append, ← h.taken]
    split
    · rename_i he
      subst he
      simp
    · rename_i he
      simp [he]
  held other column name := by
    rw [show (n.reserve table names).lookup other column = n.lookup other column from rfl, h.held]
    simp
  coherent other := (h.coherent other).reserve table names

theorem Records.assign {past : List Event} {n : Namer} (h : Records past n)
    (table column referencedTable : String) :
    Records (past ++ [.given table column (n.assign table column referencedTable).1])
      (n.assign table column referencedTable).2 where
  taken other name := by
    cases hl : n.lookup table column with
    | some held =>
      -- the name is given again, and it was taken already
      have ht := ((h.coherent table).held column held hl).1
      rw [assign_of_held hl, TakenBy.append, ← h.taken]
      constructor
      · exact .inl
      · rintro (hn | ⟨names, he, -⟩ | ⟨c, he⟩)
        · exact hn
        · cases he
        · cases he
          exact ht
    | none =>
      rw [assign_of_new hl, takenFor_give, TakenBy.append, ← h.taken]
      split
      · rename_i he
        subst he
        simp [eq_comm]
      · rename_i he
        simp [he]
  held other column' name := by
    rw [lookup_assign, List.mem_append, ← h.held, List.mem_singleton]
    split
    · rename_i he
      obtain ⟨rfl, rfl⟩ := he
      cases hl : n.lookup table column with
      | some held => simp [assign_of_held hl, eq_comm]
      | none => simp [eq_comm]
    · rename_i he
      constructor
      · exact .inl
      · rintro (hn | hn)
        · exact hn
        · cases hn
          exact absurd ⟨rfl, rfl⟩ he
  coherent other := (h.coherent other).assign table column referencedTable

theorem Records.perform {past : List Event} {n : Namer} (h : Records past n) (step : Step) :
    Records (past ++ [(n.perform step).1]) (n.perform step).2 := by
  cases step with
  | reserve table names => exact h.reserve table names
  | assign table column referencedTable => exact h.assign table column referencedTable

theorem Records.run {past : List Event} {n : Namer} (h : Records past n) (steps : List Step) :
    Records (past ++ n.history steps) (n.run steps) := by
  induction steps generalizing past n with
  | nil => simpa [history, Namer.run] using h
  | cons step rest ih =>
    have hr := ih (h.perform step)
    rw [List.append_assoc] at hr
    exact hr

/-- What an assignment answers, whatever was done before: the name that the column was given earlier,
or else one that was not taken. The search for it is over after a bounded number of rounds. -/
structure Answers (past : List Event) (n : Namer) (table column referencedTable : String) : Prop where
  kept : ∀ earlier, .given table column earlier ∈ past → (n.assign table column referencedTable).1 = earlier
  fresh : (∀ earlier, .given table column earlier ∉ past) →
    ¬ TakenBy past table (n.assign table column referencedTable).1
  ends : ∃ rounds ≤ (n.takenFor table).length,
    n.choose table column referencedTable =
      extended (n.salted table column referencedTable) 0 (n.candidate table column referencedTable) rounds

theorem Records.answers {past : List Event} {n : Namer} (h : Records past n)
    (table column referencedTable : String) : Answers past n table column referencedTable where
  kept earlier he := by rw [assign_of_held ((h.held table column earlier).2 he)]
  fresh hnew := by
    have hl : n.lookup table column = none := by
      rw [Option.eq_none_iff_forall_ne_some]
      exact fun name hs => hnew name ((h.held table column name).1 hs)
    rw [assign_of_new hl, ← h.taken]
    exact n.choose_not_mem table column referencedTable
  ends := by
    obtain ⟨rounds, he, hr⟩ := freeName_eq_extended (n.takenFor table)
      (n.salted table column referencedTable) 0 (n.candidate table column referencedTable)
    exact ⟨rounds, rounds_le_length hr, he⟩

end TableGraph.Namer
