import TableGraph.Proofs.Catalog.Relations
import TableGraph.Proofs.Catalog.TypeNames

/-! # Compiled tables

A table is compiled if its type has an entry in the registry. A table with columns always has one. A
table without any is compiled only if another table's page type took the name of its type, and it has
no relations.
-/
namespace TableGraph.Generated

def field? (g : Generated) (type field : String) : Option Field :=
  (g.types.get? type).bind fun fields => Assoc.get? fields field

theorem hasColumns_iff (p : SchemaTable × String) (relations : List Relation) :
    hasColumns p = true ↔ (tableTypes p relations).columns ≠ [] := by
  have hempty : columnFields p.1 = [] ↔ (tableTypes p relations).columns = [] := by
    rw [List.eq_nil_iff_forall_not_mem (l := (tableTypes p relations).columns)]
    simp only [mem_columns_iff]
    rw [← List.eq_nil_iff_forall_not_mem]
    simp [scalarFields, Assoc.keys]
  rw [ne_eq, ← hempty]
  simp [hasColumns]

variable (hashLength : Int) (schema : Schema)

/-- What a build generates for one of its tables. -/
abbrev typesOf (p : SchemaTable × String) : TableTypes :=
  outcomeTypes hashLength (basesOf (named hashLength schema)) p

/-- What it makes of the foreign keys of one. -/
abbrev outcomeOf (p : SchemaTable × String) : RelationState :=
  outcome hashLength (basesOf (named hashLength schema)) p

/-- What it puts into the registry of types for one. -/
abbrev entriesOf : SchemaTable × String → Assoc String Fields :=
  typeEntries hashLength (basesOf (named hashLength schema))

def compiled : List (SchemaTable × String) :=
  (named hashLength schema).filter fun p => (build hashLength schema).types.has p.2

theorem tables_eq :
    (build hashLength schema).tables = (compiled hashLength schema).map (typesOf hashLength schema) := by
  rw [build_tables, List.filter_map]
  rfl

variable {hashLength schema}

theorem has_of_emitted {p : SchemaTable × String} (hp : p ∈ emitted hashLength schema) :
    (build hashLength schema).types.has p.2 = true := by
  rw [Assoc.has_iff, build_types, Assoc.mem_keys_overlay]
  right
  rw [registryEntries, Assoc.keys, List.map_append]
  apply List.mem_append_left
  exact List.mem_map.2 ⟨(p.2, _), List.mem_flatMap.2 ⟨p, hp, List.mem_cons_self⟩, rfl⟩

theorem compiled_of_emitted {p : SchemaTable × String} (hp : p ∈ emitted hashLength schema) :
    p ∈ compiled hashLength schema :=
  List.mem_filter.2 ⟨(List.mem_filter.1 hp).1, has_of_emitted hp⟩

theorem mem_tables_of_compiled {p : SchemaTable × String} (hp : p ∈ compiled hashLength schema) :
    typesOf hashLength schema p ∈ (build hashLength schema).tables := by
  rw [tables_eq]
  exact List.mem_map_of_mem hp

theorem mem_tables_of_emitted {p : SchemaTable × String} (hp : p ∈ emitted hashLength schema) :
    typesOf hashLength schema p ∈ (build hashLength schema).tables :=
  mem_tables_of_compiled (compiled_of_emitted hp)

theorem compiled_of_mem_tables {t : TableTypes} (ht : t ∈ (build hashLength schema).tables) :
    ∃ p ∈ compiled hashLength schema, t = typesOf hashLength schema p := by
  rw [tables_eq] at ht
  obtain ⟨p, hp, rfl⟩ := List.mem_map.1 ht
  exact ⟨p, hp, rfl⟩

theorem type_unreserved {t : TableTypes} (ht : t ∈ (build hashLength schema).tables) :
    t.type ∉ Name.reservedTypes := by
  obtain ⟨p, hp, rfl⟩ := compiled_of_mem_tables ht
  exact not_mem_reservedTypes hashLength schema (List.mem_filter.1 hp).1 (self_mem_typeNames p.2)

theorem type_ne_root {t : TableTypes} (ht : t ∈ (build hashLength schema).tables) :
    t.type ≠ queryType ∧ t.type ≠ mutationType := by
  constructor
  · intro he
    exact type_unreserved ht (he ▸ by decide)
  · intro he
    exact type_unreserved ht (he ▸ by decide)

theorem relation_origin {t : TableTypes} (ht : t ∈ (build hashLength schema).tables) {rel : Relation}
    (hr : rel ∈ t.relations) : rel.type = t.type ∧ rel.table = t.table := by
  obtain ⟨p, -, rfl⟩ := compiled_of_mem_tables ht
  obtain ⟨htype, htable, -⟩ := (related_outcome hashLength _ p).origin rel hr
  exact ⟨htype, htable⟩

theorem relation_field_eq_iff {t : TableTypes} (ht : t ∈ (build hashLength schema).tables)
    {rel other : Relation} (hr : rel ∈ t.relations) (ho : other ∈ t.relations) :
    rel.field = other.field ↔ rel.column = other.column := by
  obtain ⟨p, -, rfl⟩ := compiled_of_mem_tables ht
  exact (related_outcome hashLength _ p).field_eq_iff hr ho

theorem emitted_of_columns {p : SchemaTable × String} {relations : List Relation}
    (hp : p ∈ named hashLength schema) (hc : (tableTypes p relations).columns ≠ []) :
    p ∈ emitted hashLength schema :=
  List.mem_filter.2 ⟨hp, (hasColumns_iff p relations).2 hc⟩

theorem columns_of_relation {t : TableTypes} (ht : t ∈ (build hashLength schema).tables) {rel : Relation}
    (hr : rel ∈ t.relations) : t.columns ≠ [] := by
  obtain ⟨p, -, rfl⟩ := compiled_of_mem_tables ht
  refine (hasColumns_iff p _).1 ?_
  by_contra hc
  have hs : scalarFields p.1 = [] := by simpa [hasColumns, scalarFields] using hc
  have hnil : (outcomeOf hashLength schema p).relations = [] := by
    unfold outcomeOf outcome relate
    rw [foldl_addRelation_nil hs]
  have hmem : rel ∈ (outcomeOf hashLength schema p).relations := hr
  rw [hnil] at hmem
  cases hmem

end TableGraph.Generated
