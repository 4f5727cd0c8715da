import Mathlib.Data.List.Basic
import TableGraph.Catalog.Generated

/-! # What a build makes of each table

A build goes through the tables with one namer. The names of one table do not depend on what the
namer did for the others (`Agree`), so the build makes of every table what it would make of it with a
namer of its own (`outcome`). The registries are then plain overlays of what the tables contribute.
-/
namespace TableGraph

namespace Namer

/-- Two namers that cannot be told apart by the names of one table. -/
structure Agree (table : String) (n m : Namer) : Prop where
  hashLength : n.hashLength = m.hashLength
  taken : n.takenFor table = m.takenFor table
  held : ∀ column, n.lookup table column = m.lookup table column

theorem Agree.refl (table : String) (n : Namer) : Agree table n n := ⟨rfl, rfl, fun _ => rfl⟩

theorem Agree.trans {table : String} {n m k : Namer} (h : Agree table n m) (g : Agree table m k) :
    Agree table n k :=
  ⟨h.hashLength.trans g.hashLength, h.taken.trans g.taken, fun column => (h.held column).trans (g.held column)⟩

theorem Agree.reserve {table : String} {n m : Namer} (h : Agree table n m) (names : List String) :
    Agree table (n.reserve table names) (m.reserve table names) := by
  refine ⟨h.hashLength, ?_, h.held⟩
  rw [takenFor_reserve, takenFor_reserve, if_pos rfl, if_pos rfl, h.taken]

theorem Agree.choose {table : String} {n m : Namer} (h : Agree table n m) (column referencedTable : String) :
    n.choose table column referencedTable = m.choose table column referencedTable := by
  have hsalted : n.salted table column referencedTable = m.salted table column referencedTable := by
    funext salt
    simp only [salted, suffix, h.hashLength]
  simp only [Namer.choose, candidate, suffix, hsalted, h.taken, h.hashLength]

theorem Agree.assign {table : String} {n m : Namer} (h : Agree table n m) (column referencedTable : String) :
    (n.assign table column referencedTable).1 = (m.assign table column referencedTable).1 ∧
      Agree table (n.assign table column referencedTable).2 (m.assign table column referencedTable).2 := by
  cases hl : n.lookup table column with
  | some name =>
    rw [assign_of_held hl, assign_of_held ((h.held column).symm.trans hl)]
    exact ⟨rfl, h⟩
  | none =>
    rw [assign_of_new hl, assign_of_new ((h.held column).symm.trans hl), h.choose]
    refine ⟨rfl, h.hashLength, ?_, ?_⟩
    · rw [takenFor_give, takenFor_give, if_pos rfl, if_pos rfl, h.taken]
    · intro other
      rw [lookup_give, lookup_give, h.held]

theorem agree_reserve_other {table other : String} (ho : other ≠ table) (n : Namer) (names : List String) :
    Agree table (n.reserve other names) n := by
  refine ⟨rfl, ?_, fun _ => rfl⟩
  rw [takenFor_reserve, if_neg ho]

theorem agree_assign_other {table other : String} (ho : other ≠ table) (n : Namer)
    (column referencedTable : String) : Agree table (n.assign other column referencedTable).2 n := by
  cases hl : n.lookup other column with
  | some name =>
    rw [assign_of_held hl]
    exact Agree.refl table n
  | none =>
    rw [assign_of_new hl]
    refine ⟨rfl, ?_, ?_⟩
    · rw [takenFor_give, if_neg ho]
    · intro column'
      rw [lookup_give, if_neg fun h => ho h.1]

end Namer

namespace Generated

/-- What one foreign key does: nothing, or it adds a relation under an assigned name. -/
theorem addRelation_cases (bases : Assoc String String) (table type : String) (s : RelationState)
    (f : ForeignKey) :
    (addRelation bases table type s f = s ∧
        (bases.get? f.referencedTable = none ∨ s.fields.has f.column = false)) ∨
      ∃ target, bases.get? f.referencedTable = some target ∧ s.fields.has f.column = true ∧
        addRelation bases table type s f =
          { namer := (s.namer.assign table f.column f.referencedTable).2
            fields := s.fields.put (s.namer.assign table f.column f.referencedTable).1
              ⟨(s.namer.assign table f.column f.referencedTable).1, .named target, pageArgs⟩
            relations := s.relations ++ [⟨type, (s.namer.assign table f.column f.referencedTable).1, table,
              f.column, f.referencedTable, f.referencedColumn⟩] } := by
  cases ht : bases.get? f.referencedTable with
  | none => exact .inl ⟨by simp [addRelation, ht], .inl rfl⟩
  | some target =>
    cases hc : s.fields.has f.column with
    | false => exact .inl ⟨by simp [addRelation, ht, hc], .inr rfl⟩
    | true => exact .inr ⟨target, rfl, rfl, by simp [addRelation, ht, hc]⟩

/-- Two states of one table that differ at most in what their namers know of other tables. -/
structure SameTable (table : String) (s t : RelationState) : Prop where
  agree : s.namer.Agree table t.namer
  fields : s.fields = t.fields
  relations : s.relations = t.relations

theorem SameTable.addRelation {bases : Assoc String String} {table type : String} {s t : RelationState}
    (h : SameTable table s t) (f : ForeignKey) :
    SameTable table (addRelation bases table type s f) (addRelation bases table type t f) := by
  obtain ⟨hname, hagree⟩ := h.agree.assign f.column f.referencedTable
  rcases addRelation_cases bases table type s f with ⟨he, hno⟩ | ⟨target, ht, hc, he⟩
  · rcases addRelation_cases bases table type t f with ⟨he', -⟩ | ⟨target', ht', hc', -⟩
    · rw [he, he']
      exact h
    · rw [h.fields] at hno
      rcases hno with hno | hno
      · rw [hno] at ht'
        cases ht'
      · rw [hno] at hc'
        cases hc'
  · rcases addRelation_cases bases table type t f with ⟨-, hno'⟩ | ⟨target', ht', hc', he'⟩
    · rw [← h.fields] at hno'
      rcases hno' with hno' | hno'
      · rw [hno'] at ht
        cases ht
      · rw [hno'] at hc
        cases hc
    · have htarget : target = target' := Option.some.inj (ht.symm.trans ht')
      rw [he, he', hname, h.fields, h.relations, htarget]
      exact ⟨hagree, rfl, rfl⟩

theorem SameTable.foldl {bases : Assoc String String} {table type : String} {s t : RelationState}
    (h : SameTable table s t) (keys : List ForeignKey) :
    SameTable table (keys.foldl (Generated.addRelation bases table type) s)
      (keys.foldl (Generated.addRelation bases table type) t) := by
  induction keys generalizing s t with
  | nil => exact h
  | cons f r ih => exact ih (h.addRelation f)

theorem sameTable_relate {bases : Assoc String String} {p : SchemaTable × String} {n m : Namer}
    (h : n.Agree p.1.name m) : SameTable p.1.name (relate bases n p) (relate bases m p) := by
  let start (k : Namer) : RelationState :=
    { namer := k.reserve p.1.name (Assoc.keys (scalarFields p.1)), fields := scalarFields p.1 }
  have hstart : SameTable p.1.name (start n) (start m) := ⟨h.reserve _, rfl, rfl⟩
  exact hstart.foldl p.1.sortedForeignKeys

theorem agree_foldl_other {bases : Assoc String String} {table other type : String} (ho : other ≠ table)
    (keys : List ForeignKey) (s : RelationState) :
    (keys.foldl (addRelation bases other type) s).namer.Agree table s.namer := by
  induction keys generalizing s with
  | nil => exact .refl table s.namer
  | cons f r ih =>
    refine (ih _).trans ?_
    rcases addRelation_cases bases other type s f with ⟨he, -⟩ | ⟨target, -, -, he⟩
    · rw [he]
      exact .refl table s.namer
    · rw [he]
      exact Namer.agree_assign_other ho s.namer f.column f.referencedTable

theorem agree_relate_other {bases : Assoc String String} {table : String} {p : SchemaTable × String}
    (hp : p.1.name ≠ table) (n : Namer) : (relate bases n p).namer.Agree table n :=
  (agree_foldl_other hp _ _).trans (Namer.agree_reserve_other hp n _)

/-! ## The outcome for one table -/

section Outcome
variable (hashLength : Int) (bases : Assoc String String)

/-- What a build makes of the foreign keys of a table. -/
def outcome (p : SchemaTable × String) : RelationState := relate bases { hashLength } p

def outcomeTypes (p : SchemaTable × String) : TableTypes := tableTypes p (outcome hashLength bases p).relations

def hasColumns (p : SchemaTable × String) : Bool := !(columnFields p.1).isEmpty

def typeEntries (p : SchemaTable × String) : Assoc String Fields :=
  [(p.2, (outcome hashLength bases p).fields), (TableTypes.pageOf p.2, pageFields p.2)]

def inputEntry (p : SchemaTable × String) : String × InputFields := (TableTypes.inputOf p.2, columnFields p.1)

def queryEntries (p : SchemaTable × String) : Fields :=
  let t := outcomeTypes hashLength bases p
  [(t.listField, listOf t), (t.firstField, firstOf t)]

def mutationEntry (p : SchemaTable × String) : String × Field :=
  let t := outcomeTypes hashLength bases p
  (t.putField, putOf t (columnFields p.1))

theorem foldl_addRelation_nil {bases : Assoc String String} {table type : String} {s : RelationState}
    (hs : s.fields = []) (keys : List ForeignKey) : keys.foldl (addRelation bases table type) s = s := by
  induction keys with
  | nil => rfl
  | cons f r ih =>
    rcases addRelation_cases bases table type s f with ⟨he, -⟩ | ⟨target, -, hc, -⟩
    · rw [List.foldl_cons, he, ih]
    · rw [hs] at hc
      cases hc

theorem foldl_addRelation_ne_nil {bases : Assoc String String} {table type : String} {s : RelationState}
    (hs : s.fields ≠ []) (keys : List ForeignKey) :
    (keys.foldl (addRelation bases table type) s).fields ≠ [] := by
  induction keys generalizing s with
  | nil => exact hs
  | cons f r ih =>
    apply ih
    rcases addRelation_cases bases table type s f with ⟨he, -⟩ | ⟨target, -, -, he⟩
    · rw [he]
      exact hs
    · rw [he]
      cases hf : s.fields with
      | nil => exact absurd hf hs
      | cons q r =>
        simp only [Assoc.put]
        split <;> simp

theorem isEmpty_relate (bases : Assoc String String) (n : Namer) (p : SchemaTable × String) :
    (relate bases n p).fields.isEmpty = !hasColumns p := by
  cases hc : columnFields p.1 with
  | nil =>
    have hs : scalarFields p.1 = [] := by simp [scalarFields, hc]
    rw [relate, foldl_addRelation_nil hs, hs]
    simp [hasColumns, hc]
  | cons q r =>
    have hs : scalarFields p.1 ≠ [] := by simp [scalarFields, hc]
    have hne : (relate bases n p).fields ≠ [] := by
      unfold relate
      exact foldl_addRelation_ne_nil hs p.1.sortedForeignKeys
    simpa [hasColumns, hc] using hne

/-! ## The registries as overlays -/

/-- The state of a build after some tables. -/
structure Built (done : List (SchemaTable × String)) (s : BuildState) : Prop where
  untouched : ∀ table, table ∉ done.map (fun p => p.1.name) → s.namer.Agree table { hashLength }
  tables : s.tables = done.map (outcomeTypes hashLength bases)
  types : s.types = Assoc.overlay [] ((done.filter hasColumns).flatMap (typeEntries hashLength bases))
  inputs : s.inputs = Assoc.overlay [] ((done.filter hasColumns).map inputEntry)
  query : s.query = Assoc.overlay [] ((done.filter hasColumns).flatMap (queryEntries hashLength bases))
  mutation : s.mutation = Assoc.overlay [] ((done.filter hasColumns).map (mutationEntry hashLength bases))

variable {hashLength bases}

theorem Built.addTable {done : List (SchemaTable × String)} {s : BuildState} {p : SchemaTable × String}
    (h : Built hashLength bases done s) (hp : p.1.name ∉ done.map fun q => q.1.name) :
    Built hashLength bases (done ++ [p]) (addTable bases s p) := by
  have hsame : SameTable p.1.name (relate bases s.namer p) (outcome hashLength bases p) :=
    sameTable_relate (h.untouched p.1.name hp)
  have ht : tableTypes p (relate bases s.namer p).relations = outcomeTypes hashLength bases p := by
    rw [outcomeTypes, hsame.relations]
  have huntouched : ∀ table, table ∉ (done ++ [p]).map (fun q => q.1.name) →
      (relate bases s.namer p).namer.Agree table { hashLength } := by
    intro table hn
    simp only [List.map_append, List.map_cons, List.map_nil, List.mem_append, List.mem_singleton, not_or] at hn
    exact (agree_relate_other (Ne.symm hn.2) s.namer).trans (h.untouched table hn.1)
  cases hc : hasColumns p with
  | false =>
    have he : (relate bases s.namer p).fields.isEmpty = true := by rw [isEmpty_relate, hc]; rfl
    have hf : (done ++ [p]).filter hasColumns = done.filter hasColumns := by simp [hc]
    simp only [Generated.addTable, he, if_true]
    refine ⟨huntouched, ?_, ?_, ?_, ?_, ?_⟩
    · simp [h.tables, ht]
    · simpa only [hf] using h.types
    · simpa only [hf] using h.inputs
    · simpa only [hf] using h.query
    · simpa only [hf] using h.mutation
  | true =>
    have he : (relate bases s.namer p).fields.isEmpty = false := by rw [isEmpty_relate, hc]; rfl
    have hf : (done ++ [p]).filter hasColumns = done.filter hasColumns ++ [p] := by simp [hc]
    simp only [Generated.addTable, he, Bool.false_eq_true, if_false]
    simp only [ht, hsame.fields]
    refine ⟨huntouched, ?_, ?_, ?_, ?_, ?_⟩
    · simp [h.tables]
    · rw [hf, List.flatMap_append, Assoc.overlay_append, ← h.types]
      rfl
    · rw [hf, List.map_append, Assoc.overlay_append, ← h.inputs]
      rfl
    · rw [hf, List.flatMap_append, Assoc.overlay_append, ← h.query]
      rfl
    · rw [hf, List.map_append, Assoc.overlay_append, ← h.mutation]
      rfl

theorem Built.foldl {done rest : List (SchemaTable × String)} {s : BuildState} (h : Built hashLength bases done s)
    (hn : ((done ++ rest).map fun p => p.1.name).Nodup) :
    Built hashLength bases (done ++ rest) (rest.foldl (Generated.addTable bases) s) := by
  induction rest generalizing done s with
  | nil => simpa using h
  | cons p r ih =>
    have hp : p.1.name ∉ done.map fun q => q.1.name := by
      rw [List.map_append, List.nodup_append] at hn
      exact fun hm => hn.2.2 _ hm _ List.mem_cons_self rfl
    have hr := ih (h.addTable hp) (by simpa using hn)
    simpa using hr

end Outcome

theorem map_assignTypeNames (hashLength : Int) (used : List String) (tables : List SchemaTable) :
    (assignTypeNames hashLength used tables).map Prod.fst = tables := by
  induction tables generalizing used with
  | nil => rfl
  | cons t r ih => simp [assignTypeNames, ih]

theorem nodup_of_ascending {α : Type} {key : α → String} {l : List α}
    (hl : l.Pairwise fun a b => key a < key b) : (l.map key).Nodup := by
  rw [List.nodup_iff_pairwise_ne, List.pairwise_map]
  refine hl.imp ?_
  intro a b hab he
  rw [he] at hab
  exact String.lt_irrefl _ hab

theorem pairwise_named (hashLength : Int) (schema : Schema) :
    (named hashLength schema).Pairwise fun p q => p.1.name < q.1.name := by
  have h : (named hashLength schema).map Prod.fst = schema.sortedTables :=
    map_assignTypeNames hashLength Name.reservedTypes schema.sortedTables
  have hs : (schema.sortedTables).Pairwise fun a b => a.name < b.name := by
    refine (pairwise_ascending (fun t : SchemaTable => [t.name]) schema.tables).imp ?_
    intro a b hab
    rcases List.cons_lt_cons_iff.1 hab with hab | ⟨-, hab⟩
    · exact hab
    · exact absurd hab (List.not_lt_nil _)
  rw [← h, List.pairwise_map] at hs
  exact hs

theorem nodup_named (hashLength : Int) (schema : Schema) :
    ((named hashLength schema).map fun p => p.1.name).Nodup := nodup_of_ascending (pairwise_named hashLength schema)

/-- The tables of a schema that get types. -/
def emitted (hashLength : Int) (schema : Schema) : List (SchemaTable × String) :=
  (named hashLength schema).filter hasColumns

section Registry
variable (hashLength : Int) (schema : Schema)

def queryFields : Fields :=
  Assoc.overlay []
    ((emitted hashLength schema).flatMap (queryEntries hashLength (basesOf (named hashLength schema))))

def mutationFields : Fields :=
  Assoc.overlay []
    ((emitted hashLength schema).map (mutationEntry hashLength (basesOf (named hashLength schema))))

/-- What is put into the registry of types, one after the other. -/
def registryEntries : Assoc String Fields :=
  (emitted hashLength schema).flatMap (typeEntries hashLength (basesOf (named hashLength schema))) ++
    ((queryType, queryFields hashLength schema) ::
      if (emitted hashLength schema).isEmpty then [] else [(mutationType, mutationFields hashLength schema)])

theorem built_named :
    Built hashLength (basesOf (named hashLength schema)) (named hashLength schema)
      ((named hashLength schema).foldl (addTable (basesOf (named hashLength schema))) { namer := { hashLength } }) := by
  have hstart : Built hashLength (basesOf (named hashLength schema)) [] { namer := { hashLength } } :=
    ⟨fun table _ => .refl table _, rfl, rfl, rfl, rfl, rfl⟩
  exact hstart.foldl (nodup_named hashLength schema)

theorem build_types : (build hashLength schema).types = Assoc.overlay [] (registryEntries hashLength schema) := by
  have h := built_named hashLength schema
  have hm : (mutationFields hashLength schema).isEmpty = (emitted hashLength schema).isEmpty := by
    rw [mutationFields, Assoc.isEmpty_overlay_nil, List.isEmpty_map]
  simp only [build, h.types, h.query, h.mutation]
  rw [registryEntries, Assoc.overlay_append]
  change (if (mutationFields hashLength schema).isEmpty = true then _ else _) = _
  rw [hm]
  split <;> rfl

theorem build_inputs :
    (build hashLength schema).inputs = Assoc.overlay [] ((emitted hashLength schema).map inputEntry) :=
  (built_named hashLength schema).inputs

theorem build_tables :
    (build hashLength schema).tables =
      ((named hashLength schema).map (outcomeTypes hashLength (basesOf (named hashLength schema)))).filter
        fun t => (build hashLength schema).types.has t.type := by
  rw [← (built_named hashLength schema).tables]
  rfl

theorem get?_types (name : String) :
    (build hashLength schema).types.get? name = Assoc.get? (registryEntries hashLength schema).reverse name := by
  rw [build_types, Assoc.get?_overlay, Assoc.get?_nil, Option.or_none]

/-- Under a name that no root type has, the registry holds what the tables put there. -/
theorem get?_types_table {name : String} (hq : name ≠ queryType) (hm : name ≠ mutationType) :
    (build hashLength schema).types.get? name =
      Assoc.get? ((emitted hashLength schema).flatMap
        (typeEntries hashLength (basesOf (named hashLength schema)))).reverse name := by
  rw [get?_types, registryEntries, List.reverse_append, Assoc.get?_append]
  split <;> simp [Assoc.get?_cons, hq.symm, hm.symm]

theorem get?_types_query :
    (build hashLength schema).types.get? queryType = some (queryFields hashLength schema) := by
  have hne : mutationType ≠ queryType := by decide
  rw [get?_types, registryEntries, List.reverse_append, Assoc.get?_append]
  split <;> simp [Assoc.get?_cons, hne]

theorem get?_types_mutation (h : emitted hashLength schema ≠ []) :
    (build hashLength schema).types.get? mutationType = some (mutationFields hashLength schema) := by
  rw [get?_types, registryEntries, List.reverse_append, Assoc.get?_append]
  simp [Assoc.get?_cons, h]

end Registry

end Generated

end TableGraph
