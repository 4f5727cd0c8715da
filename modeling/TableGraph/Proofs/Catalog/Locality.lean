import TableGraph.Proofs.Catalog.Canonical
import TableGraph.Proofs.Catalog.Compiled

/-! # The relations of a table among other tables

What else a schema holds may change the name of a table's type, and the types that its relations lead to.
It does not change the names of the relations: these depend on the table itself, and on which of the
tables that it refers to are there (`relations_local`). The namer is shared by all tables of a build, but
what it knows of one of them at the end is what it would know of it alone (`agree_build`).
-/
namespace TableGraph
namespace Generated

/-- The relations that were made for a table. -/
def relationsOf (g : Generated) (table : String) : List Relation :=
  ((g.tables.find? fun t => t.table = table).map (·.relations)).getD []

/-! ## What a build keeps of one table -/

section Build
variable {hashLength : Int} {schema : Schema} {p : SchemaTable × String}

theorem namer_addTable (bases : Assoc String String) (s : BuildState) (p : SchemaTable × String) :
    (addTable bases s p).namer = (relate bases s.namer p).namer := by
  unfold addTable
  dsimp only
  split <;> rfl

theorem agree_foldl_addTable {bases : Assoc String String} {table : String} {rest : List (SchemaTable × String)}
    (h : ∀ q ∈ rest, q.1.name ≠ table) (s : BuildState) :
    (rest.foldl (addTable bases) s).namer.Agree table s.namer := by
  induction rest generalizing s with
  | nil => exact .refl table s.namer
  | cons q r ih =>
    refine (ih (fun o ho => h o (List.mem_cons_of_mem q ho)) (addTable bases s q)).trans ?_
    rw [namer_addTable]
    exact agree_relate_other (h q List.mem_cons_self) s.namer

/-- At the end of a build the namer holds for each table what it would hold had it served this table only. -/
theorem agree_build (hp : p ∈ named hashLength schema) :
    ((named hashLength schema).foldl (addTable (basesOf (named hashLength schema))) { namer := { hashLength } }).namer.Agree
      p.1.name (outcomeOf hashLength schema p).namer := by
  obtain ⟨before, after, hsplit⟩ := List.append_of_mem hp
  have hnodup := nodup_named hashLength schema
  simp only [outcomeOf]
  generalize basesOf (named hashLength schema) = bases
  rw [hsplit, List.map_append, List.map_cons, List.nodup_append, List.nodup_cons] at hnodup
  obtain ⟨-, ⟨hafter, -⟩, hapart⟩ := hnodup
  let s := before.foldl (addTable bases) { namer := { hashLength } }
  have huntouched : s.namer.Agree p.1.name { hashLength } := by
    refine agree_foldl_addTable (fun q hq he => ?_) _
    exact hapart q.1.name (List.mem_map_of_mem hq) p.1.name List.mem_cons_self he
  have hown : (addTable bases s p).namer.Agree p.1.name (outcome hashLength bases p).namer := by
    rw [namer_addTable]
    exact (sameTable_relate huntouched).agree
  rw [hsplit, List.foldl_append, List.foldl_cons]
  refine (agree_foldl_addTable (fun q hq he => ?_) _).trans hown
  exact hafter (List.mem_map.2 ⟨q, hq, he⟩)

theorem get?_relationNames (hp : p ∈ named hashLength schema) (column : String) :
    (build hashLength schema).relationNames.get? (p.1.name, column) =
      (outcomeOf hashLength schema p).namer.lookup p.1.name column :=
  (agree_build hp).held column

theorem relationsOf_build (hp : p ∈ named hashLength schema) :
    (build hashLength schema).relationsOf p.1.name = (outcomeOf hashLength schema p).relations := by
  unfold relationsOf
  cases hfind : (build hashLength schema).tables.find? fun t => t.table = p.1.name with
  | some t =>
    obtain ⟨q, hq, rfl⟩ := compiled_of_mem_tables (List.mem_of_find?_eq_some hfind)
    have hname : (typesOf hashLength schema q).table = p.1.name := by simpa using List.find?_some hfind
    have hqp : q = p :=
      List.inj_on_of_nodup_map (nodup_named hashLength schema) (List.mem_filter.1 hq).1 hp hname
    rw [hqp]
    rfl
  | none =>
    -- a table that is not compiled has no columns, so no foreign key starts from one
    have hcolumns : ¬ hasColumns p = true := by
      intro hc
      have ht := mem_tables_of_emitted (List.mem_filter.2 ⟨hp, hc⟩)
      have hno : ¬ (typesOf hashLength schema p).table = p.1.name := by
        simpa using List.find?_eq_none.1 hfind _ ht
      exact hno rfl
    have hs : scalarFields p.1 = [] := by simpa [hasColumns, scalarFields] using hcolumns
    rw [outcomeOf, outcome, relate, foldl_addRelation_nil hs]
    rfl

end Build

/-! ## Two builds -/

/-- Two states of one table in two builds, which agree on the names but perhaps not on the types. -/
structure SameNames (s t : RelationState) : Prop where
  namer : s.namer = t.namer
  fields : s.fields.keys = t.fields.keys
  relations : (s.relations.map fun r => (r.key, r.field)) = t.relations.map fun r => (r.key, r.field)

theorem SameNames.addRelation {bases bases' : Assoc String String} {table type type' : String} {s t : RelationState}
    (h : SameNames s t) {f : ForeignKey}
    (hf : (bases.get? f.referencedTable).isSome = (bases'.get? f.referencedTable).isSome) :
    SameNames (addRelation bases table type s f) (addRelation bases' table type' t f) := by
  have hcolumn : s.fields.has f.column = t.fields.has f.column := by
    rw [Bool.eq_iff_iff, Assoc.has_iff, Assoc.has_iff, h.fields]
  rcases addRelation_cases bases table type s f with ⟨he, hno⟩ | ⟨target, ht, hc, he⟩
  · have hno' : bases'.get? f.referencedTable = none ∨ t.fields.has f.column = false := by
      refine hno.imp (fun hnone => ?_) fun hnot => hcolumn ▸ hnot
      rw [hnone] at hf
      exact Option.isNone_iff_eq_none.1 (by simpa using hf.symm)
    rcases addRelation_cases bases' table type' t f with ⟨he', -⟩ | ⟨target', ht', hc', -⟩
    · rw [he, he']
      exact h
    · rcases hno' with hno' | hno'
      · rw [hno'] at ht'
        cases ht'
      · rw [hno'] at hc'
        cases hc'
  · rcases addRelation_cases bases' table type' t f with ⟨-, hno'⟩ | ⟨target', -, -, he'⟩
    · rcases hno' with hno' | hno'
      · rw [ht, hno'] at hf
        cases hf
      · rw [← hcolumn, hc] at hno'
        cases hno'
    · rw [he, he', h.namer]
      refine ⟨rfl, ?_, ?_⟩
      · rw [Assoc.keys_put, Assoc.keys_put, h.fields]
      · rw [List.map_append, List.map_append, h.relations]
        rfl

theorem SameNames.foldl {bases bases' : Assoc String String} {table type type' : String} {s t : RelationState}
    (h : SameNames s t) {keys : List ForeignKey}
    (hkeys : ∀ f ∈ keys, (bases.get? f.referencedTable).isSome = (bases'.get? f.referencedTable).isSome) :
    SameNames (keys.foldl (Generated.addRelation bases table type) s)
      (keys.foldl (Generated.addRelation bases' table type') t) := by
  induction keys generalizing s t with
  | nil => exact h
  | cons f r ih =>
    exact ih (h.addRelation (hkeys f List.mem_cons_self)) fun g hg => hkeys g (List.mem_cons_of_mem f hg)

theorem sameNames_outcome {bases bases' : Assoc String String} {p q : SchemaTable × String}
    (hname : p.1.name = q.1.name) (hcolumns : p.1.columns = q.1.columns)
    (hkeys : p.1.sortedForeignKeys = q.1.sortedForeignKeys)
    (htargets : ∀ f ∈ p.1.sortedForeignKeys,
      (bases.get? f.referencedTable).isSome = (bases'.get? f.referencedTable).isSome) (hashLength : Int) :
    SameNames (outcome hashLength bases p) (outcome hashLength bases' q) := by
  have hscalars : scalarFields p.1 = scalarFields q.1 := by simp only [scalarFields, columnFields, hcolumns]
  have hstart : SameNames
      { namer := Namer.reserve { hashLength } p.1.name (Assoc.keys (scalarFields p.1)), fields := scalarFields p.1 }
      { namer := Namer.reserve { hashLength } q.1.name (Assoc.keys (scalarFields q.1)), fields := scalarFields q.1 } := by
    rw [hname, hscalars]
    exact ⟨rfl, rfl, rfl⟩
  unfold outcome relate
  rw [← hkeys, ← hname]
  rw [← hname] at hstart
  exact hstart.foldl htargets

/-- A table can be referred to exactly if the schema has it. -/
theorem isSome_bases (hashLength : Int) (schema : Schema) (table : String) :
    ((basesOf (named hashLength schema)).get? table).isSome = true ↔ ∃ t ∈ schema.sortedTables, t.name = table := by
  rw [Assoc.get?_isSome, Assoc.has_iff, ← map_assignTypeNames hashLength Name.reservedTypes schema.sortedTables]
  simp [basesOf, named, Assoc.keys]

end Generated

open Generated

/-- The names of a table's relations are the same in two schemas that hold the table with the same columns and
the same foreign keys as a set, if each table that these refer to is in both schemas or in neither. -/
theorem relations_local (hashLength : Int) {s r : Schema} {t u : SchemaTable} (ht : t ∈ s.sortedTables)
    (hu : u ∈ r.sortedTables) (hname : t.name = u.name) (hcolumns : t.columns = u.columns)
    (hkeys : ∀ f, f ∈ t.foreignKeys ↔ f ∈ u.foreignKeys)
    (htargets : ∀ f ∈ t.foreignKeys,
      (∃ v ∈ s.sortedTables, v.name = f.referencedTable) ↔ ∃ v ∈ r.sortedTables, v.name = f.referencedTable) :
    (((build hashLength s).relationsOf t.name).map fun rel => (rel.key, rel.field)) =
        (((build hashLength r).relationsOf t.name).map fun rel => (rel.key, rel.field)) ∧
      ∀ column, (build hashLength s).relationNames.get? (t.name, column) =
        (build hashLength r).relationNames.get? (t.name, column) := by
  rw [← map_assignTypeNames hashLength Name.reservedTypes s.sortedTables] at ht
  rw [← map_assignTypeNames hashLength Name.reservedTypes r.sortedTables] at hu
  obtain ⟨p, hp, rfl⟩ := List.mem_map.1 ht
  obtain ⟨q, hq, rfl⟩ := List.mem_map.1 hu
  have hsame : SameNames (outcomeOf hashLength s p) (outcomeOf hashLength r q) := by
    refine sameNames_outcome hname hcolumns (SchemaTable.sortedForeignKeys_eq hkeys) (fun f hf => ?_) hashLength
    rw [Bool.eq_iff_iff, isSome_bases, isSome_bases]
    exact htargets f (mem_of_mem_ascending hf)
  constructor
  · rw [relationsOf_build hp, hname, relationsOf_build hq, hsame.relations]
  · intro column
    rw [get?_relationNames hp, hname, get?_relationNames hq, hsame.namer]

/-- Posts with an author, an editor and a topic, and what else a schema holds. -/
def postsAmong (others : List SchemaTable) : Schema :=
  let column (name : String) : SchemaColumn := ⟨name, "INTEGER", true, false, .text⟩
  let key (column table : String) : ForeignKey := ⟨column, table, "id"⟩
  ⟨⟨"posts", ["author_id", "editor_id", "topic_id"].map column,
    [key "author_id" "authors", key "editor_id" "authors", key "topic_id" "topics"], true⟩ :: others⟩

def plainTable (name : String) : SchemaTable := ⟨name, [⟨"id", "INTEGER", true, false, .text⟩], [], true⟩

/-- A table whose type takes the name that the type of the posts had: their type has another name, their
relations have the same ones. There are no topics in either schema. -/
theorem relations_local_posts :
    let s := postsAmong [plainTable "authors"]
    let r := postsAmong [plainTable "Posts", plainTable "authors", plainTable "tags"]
    ((build 8 s).tables.map fun t => (t.table, t.type)) = [("authors", "Authors"), ("posts", "Posts")] ∧
      ("Posts", "Posts") ∈ ((build 8 r).tables.map fun t => (t.table, t.type)) ∧
      ("posts", "Posts") ∉ ((build 8 r).tables.map fun t => (t.table, t.type)) ∧
      ((build 8 s).relationsOf "posts").map (·.field) = ["authors", "authors_editor_id"] ∧
      (((build 8 s).relationsOf "posts").map fun rel => (rel.key, rel.field)) =
        (((build 8 r).relationsOf "posts").map fun rel => (rel.key, rel.field)) ∧
      ∀ column, (build 8 s).relationNames.get? ("posts", column) = (build 8 r).relationNames.get? ("posts", column) := by
  intro s r
  let posts : SchemaTable := (postsAmong []).tables.headD (plainTable "")
  have hs : posts ∈ s.sortedTables := by decide +kernel
  have hr : posts ∈ r.sortedTables := by decide +kernel
  have htargets : ∀ f ∈ posts.foreignKeys,
      (∃ v ∈ s.sortedTables, v.name = f.referencedTable) ↔ ∃ v ∈ r.sortedTables, v.name = f.referencedTable := by
    decide +kernel
  obtain ⟨hrelations, hnames⟩ := relations_local 8 hs hr rfl rfl (fun _ => .rfl) htargets
  exact ⟨by decide +kernel, by decide +kernel, by decide +kernel, by decide +kernel, hrelations, hnames⟩

end TableGraph
