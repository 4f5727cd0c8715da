import TableGraph.Proofs.Catalog.Entries

/-! # Closure of the registry

The registry is closed if every type that it uses is a built-in scalar or is defined in it, with at
least one field, so that the type definitions have a block for it. A table without columns gets no
type, but a foreign key may refer to it all the same, and the relation is made nevertheless. So the
registry is closed exactly if every relation that shows in it leads to a compiled table, that is, to one
whose type is there, were it as the page of another.
-/
namespace TableGraph

/-- The name inside the brackets. -/
def TypeRef.typeName : TypeRef → String
  | named name => name
  | list inner => inner.typeName

namespace Generated

/-- The names that the type definitions have a block for: those with a field. -/
def definedIn {ν : Type} (registry : Assoc String (Assoc String ν)) : List String :=
  Assoc.keys (registry.filter fun p => !p.2.isEmpty)

/-- What a field may yield: a scalar or an object type. -/
def Yieldable (g : Generated) (t : TypeRef) : Prop :=
  t.typeName ∈ builtInScalars ∨ t.typeName ∈ definedIn g.types

/-- What an argument or a field of an input may take: a scalar or an input type. -/
def Takeable (g : Generated) (t : TypeRef) : Prop :=
  t.typeName ∈ builtInScalars ∨ t.typeName ∈ definedIn g.inputs

structure Closed (g : Generated) : Prop where
  returns : ∀ p ∈ g.types, ∀ q ∈ p.2, g.Yieldable q.2.returns
  arguments : ∀ p ∈ g.types, ∀ q ∈ p.2, ∀ a ∈ q.2.args, g.Takeable a.2.ref
  inputs : ∀ p ∈ g.inputs, ∀ q ∈ p.2, g.Takeable q.2

/-- A relation that shows in the registry: the last one on its column, in a table that kept its type. -/
def Shows (g : Generated) (t : TableTypes) (rel : Relation) : Prop :=
  rel ∈ t.relations ∧ lastOn t.relations rel.column = some rel ∧ TypeKept g t

variable {hashLength : Int} {schema : Schema}

theorem mem_definedIn {ν : Type} {registry : Assoc String (Assoc String ν)} {name : String} :
    name ∈ definedIn registry ↔ ∃ fields, (name, fields) ∈ registry ∧ fields ≠ [] := by
  simp only [definedIn, Assoc.keys, List.mem_map, List.mem_filter, Bool.not_eq_true', List.isEmpty_eq_false_iff]
  constructor
  · rintro ⟨⟨n, fields⟩, ⟨hm, hne⟩, rfl⟩
    exact ⟨fields, hm, hne⟩
  · rintro ⟨fields, hm, hne⟩
    exact ⟨(name, fields), ⟨hm, hne⟩, rfl⟩

/-! ## Defined types -/

/-- Only a root type can be without fields. -/
theorem mem_definedIn_types {name : String} (hname : name ∉ Name.reservedTypes)
    (hhas : (build hashLength schema).types.has name = true) : name ∈ definedIn (build hashLength schema).types := by
  obtain ⟨⟨n, fields⟩, hm, rfl⟩ := List.mem_map.1 ((Assoc.has_iff _ _).1 hhas)
  have hquery : queryType ∈ Name.reservedTypes := by decide
  have hmutation : mutationType ∈ Name.reservedTypes := by decide
  refine mem_definedIn.2 ⟨fields, hm, ?_⟩
  rcases type_origin hm with ⟨rfl, -⟩ | ⟨rfl, -⟩ | ⟨p, hp, -, rfl, -⟩ | ⟨p, -, -, rfl⟩
  · exact absurd hquery hname
  · exact absurd hmutation hname
  · exact fields_ne_nil hp
  · exact List.cons_ne_nil _ _

theorem unreserved_of_emitted {p : SchemaTable × String} (hp : p ∈ emitted hashLength schema) {name : String}
    (hn : name ∈ typeNames p.2) : name ∉ Name.reservedTypes :=
  not_mem_reservedTypes hashLength schema (List.mem_filter.1 hp).1 hn

theorem type_defined {p : SchemaTable × String} (hp : p ∈ emitted hashLength schema) :
    p.2 ∈ definedIn (build hashLength schema).types :=
  mem_definedIn_types (unreserved_of_emitted hp (self_mem_typeNames p.2)) (has_of_emitted hp)

theorem page_defined {p : SchemaTable × String} (hp : p ∈ emitted hashLength schema) :
    TableTypes.pageOf p.2 ∈ definedIn (build hashLength schema).types := by
  have hentry : (TableTypes.pageOf p.2, pageFields p.2) ∈ registryEntries hashLength schema :=
    List.mem_append_left _ (List.mem_flatMap.2 ⟨p, hp, List.mem_cons_of_mem _ List.mem_cons_self⟩)
  refine mem_definedIn_types (unreserved_of_emitted hp (by simp [typeNames])) ?_
  rw [Assoc.has_iff, build_types, Assoc.mem_keys_overlay]
  exact .inr (List.mem_map_of_mem hentry)

theorem input_defined {p : SchemaTable × String} (hp : p ∈ emitted hashLength schema) :
    TableTypes.inputOf p.2 ∈ definedIn (build hashLength schema).inputs := by
  have hkey : TableTypes.inputOf p.2 ∈ Assoc.keys (build hashLength schema).inputs := by
    rw [build_inputs, Assoc.mem_keys_overlay]
    exact .inr (List.mem_map_of_mem (List.mem_map_of_mem hp : inputEntry p ∈ _))
  obtain ⟨⟨n, fields⟩, hm, he⟩ := List.mem_map.1 hkey
  obtain ⟨q, hq, -, rfl, -⟩ := input_origin hm
  exact mem_definedIn.2 ⟨columnFields q.1, he ▸ hm, columnFields_ne_nil hq⟩

/-- A relation refers to a table that has got a name. -/
theorem exists_named_target {p : SchemaTable × String} {rel : Relation}
    (hr : rel ∈ (outcomeOf hashLength schema p).relations) :
    ∃ q ∈ named hashLength schema, q.1.name = rel.referencedTable := by
  have hkey := (related_outcome hashLength (basesOf (named hashLength schema)) p).target rel hr
  obtain ⟨⟨name, type⟩, hb, hname⟩ := List.mem_map.1 hkey
  obtain ⟨q, hq, he⟩ := List.mem_map.1 hb
  exact ⟨q, hq, (Prod.mk.inj he).1.trans hname⟩

/-- The type of a table that a relation refers to is defined if the table is compiled, and only then. -/
theorem target_defined_iff {p : SchemaTable × String} {rel : Relation}
    (hr : rel ∈ (outcomeOf hashLength schema p).relations) :
    (build hashLength schema).Yieldable
        (relationEntry (basesOf (named hashLength schema)) rel).2.returns ↔
      ∃ u ∈ (build hashLength schema).tables, u.table = rel.referencedTable := by
  obtain ⟨q, hq, hname⟩ := exists_named_target hr
  have hbase : (basesOf (named hashLength schema)).get? rel.referencedTable = some q.2 :=
    hname ▸ get?_bases_named hq
  have hscalar : q.2 ∉ builtInScalars := by
    have hall : ∀ name ∈ builtInScalars, name ∈ Name.reservedTypes := by decide
    exact fun hm => not_mem_reservedTypes hashLength schema hq (self_mem_typeNames q.2) (hall q.2 hm)
  have hyield : (build hashLength schema).Yieldable
      (relationEntry (basesOf (named hashLength schema)) rel).2.returns ↔
        q.2 ∈ definedIn (build hashLength schema).types := by
    simp [Yieldable, relationEntry, hbase, TypeRef.typeName, hscalar]
  rw [hyield]
  constructor
  · intro hdefined
    obtain ⟨fields, hm, -⟩ := mem_definedIn.1 hdefined
    have hhas : (build hashLength schema).types.has q.2 = true :=
      (Assoc.has_iff _ _).2 (List.mem_map_of_mem hm)
    exact ⟨_, mem_tables_of_compiled (List.mem_filter.2 ⟨hq, hhas⟩), hname⟩
  · rintro ⟨u, hu, htable⟩
    have htype : u.type = q.2 := by
      have hu' := get?_bases hu
      rw [htable, hbase] at hu'
      exact (Option.some.inj hu').symm
    obtain ⟨p', hp', rfl⟩ := compiled_of_mem_tables hu
    have hfree : p'.2 ∉ Name.reservedTypes := type_unreserved hu
    exact htype ▸ mem_definedIn_types hfree (List.mem_filter.1 hp').2

/-! ## What the fields use -/

theorem takeable_scalar {g : Generated} {name : String} (h : name ∈ builtInScalars) : g.Takeable (.named name) :=
  .inl h

theorem takeable_pageArgs (g : Generated) : ∀ a ∈ pageArgs, g.Takeable a.2.ref := by
  have hstring : "String" ∈ builtInScalars := by decide
  intro a ha
  simp only [pageArgs, List.mem_cons, List.not_mem_nil, or_false] at ha
  rcases ha with rfl | rfl
  · exact takeable_scalar hstring
  · exact takeable_scalar hstring

/-- A field made for a column yields a scalar and has no arguments. -/
theorem scalarField_spec {t : SchemaTable} {name : String} {f : Field} (h : (name, f) ∈ scalarFields t) :
    (∃ scalar ∈ builtInScalars, f.returns = .named scalar) ∧ f.args = [] := by
  obtain ⟨⟨column, ref⟩, hm, he⟩ := List.mem_map.1 h
  obtain ⟨rfl, rfl⟩ := Prod.mk.inj he
  exact ⟨columnField_scalar hm, rfl⟩

theorem takeable_putArgs {p : SchemaTable × String} (hp : p ∈ emitted hashLength schema) :
    ∀ a ∈ putArgs (typesOf hashLength schema p) (columnFields p.1),
      (build hashLength schema).Takeable a.2.ref := by
  intro a ha
  rcases List.mem_cons.1 ha with rfl | ha
  · exact .inr (input_defined hp)
  · obtain ⟨⟨column, ref⟩, hm, rfl⟩ := List.mem_map.1 ha
    obtain ⟨scalar, hscalar, rfl⟩ := columnField_scalar (List.mem_filter.1 hm).1
    exact .inl hscalar

/-- In what a table puts into the registry, only a relation can lead to a type that is not defined. -/
theorem field_sound {p : SchemaTable × String}
    (htarget : ∀ rel, Shows (build hashLength schema) (typesOf hashLength schema p) rel →
      ∃ u ∈ (build hashLength schema).tables, u.table = rel.referencedTable)
    (hkept : TypeKept (build hashLength schema) (typesOf hashLength schema p)) {name : String} {f : Field}
    (h : (name, f) ∈ (outcomeOf hashLength schema p).fields) :
    (build hashLength schema).Yieldable f.returns ∧ ∀ a ∈ f.args, (build hashLength schema).Takeable a.2.ref := by
  rcases field_origin h with ⟨rel, hr, hlast, he⟩ | hscalar
  · have hyield := (target_defined_iff hr).2 (htarget rel ⟨hr, hlast, hkept⟩)
    rw [he] at hyield
    have hargs : f.args = pageArgs := by rw [← (Prod.mk.inj he).2]
    exact ⟨hyield, hargs ▸ takeable_pageArgs _⟩
  · obtain ⟨⟨scalar, hs, hreturns⟩, hargs⟩ := scalarField_spec hscalar
    rw [hreturns, hargs]
    exact ⟨.inl hs, by simp⟩

/-- Every field of an object type is sound if the relations that show lead to compiled tables. -/
theorem entry_sound
    (htarget : ∀ t ∈ (build hashLength schema).tables, ∀ rel, Shows (build hashLength schema) t rel →
      ∃ u ∈ (build hashLength schema).tables, u.table = rel.referencedTable)
    {type name : String} {fields : Fields} {f : Field} (htype : (type, fields) ∈ (build hashLength schema).types)
    (hf : (name, f) ∈ fields) :
    (build hashLength schema).Yieldable f.returns ∧ ∀ a ∈ f.args, (build hashLength schema).Takeable a.2.ref := by
  rcases type_origin htype with ⟨-, rfl⟩ | ⟨-, rfl⟩ | ⟨p, hp, -, rfl, hkept⟩ | ⟨p, hp, -, rfl⟩
  · obtain ⟨p, hp, ⟨-, rfl⟩ | ⟨-, rfl⟩⟩ := query_origin hf
    · exact ⟨.inr (page_defined hp), takeable_pageArgs _⟩
    · exact ⟨.inr (type_defined hp), takeable_pageArgs _⟩
  · obtain ⟨p, hp, -, rfl, -⟩ := mutation_origin hf
    exact ⟨.inr (type_defined hp), takeable_putArgs hp⟩
  · exact field_sound (htarget _ (mem_tables_of_emitted hp)) hkept hf
  · have hint : "Int" ∈ builtInScalars := by decide
    simp only [pageFields, List.mem_cons, List.not_mem_nil, or_false, Prod.mk.injEq] at hf
    rcases hf with ⟨-, rfl⟩ | ⟨-, rfl⟩
    · exact ⟨.inl hint, by simp⟩
    · exact ⟨.inr (type_defined hp), by simp⟩

theorem closed_iff : (build hashLength schema).Closed ↔
    ∀ t ∈ (build hashLength schema).tables, ∀ rel, Shows (build hashLength schema) t rel →
      ∃ u ∈ (build hashLength schema).tables, u.table = rel.referencedTable := by
  constructor
  · intro h t ht rel hshows
    obtain ⟨hr, hlast, hkept⟩ := hshows
    obtain ⟨fields, htype, hfield⟩ := exists_relationEntry ht hkept hr hlast
    have hyield := h.returns _ htype _ hfield
    obtain ⟨p, -, rfl⟩ := compiled_of_mem_tables ht
    exact (target_defined_iff hr).1 hyield
  · intro htarget
    refine ⟨?_, ?_, ?_⟩
    · rintro ⟨type, fields⟩ htype ⟨name, f⟩ hf
      exact (entry_sound htarget htype hf).1
    · rintro ⟨type, fields⟩ htype ⟨name, f⟩ hf
      exact (entry_sound htarget htype hf).2
    · rintro ⟨type, fields⟩ htype ⟨name, ref⟩ hf
      obtain ⟨p, -, -, rfl, -⟩ := input_origin htype
      obtain ⟨scalar, hscalar, rfl⟩ := columnField_scalar hf
      exact .inl hscalar

/-- Where every table has a column that becomes a field, relations lead to compiled tables. -/
theorem target_compiled (hcolumns : ∀ t ∈ schema.sortedTables, ∃ c ∈ t.columns, isAdmitted c = true)
    {t : TableTypes} (ht : t ∈ (build hashLength schema).tables) {rel : Relation} (hr : rel ∈ t.relations) :
    ∃ u ∈ (build hashLength schema).tables, u.table = rel.referencedTable := by
  obtain ⟨p, -, rfl⟩ := compiled_of_mem_tables ht
  obtain ⟨q, hq, hname⟩ := exists_named_target hr
  have hsorted : q.1 ∈ schema.sortedTables := by
    rw [← map_assignTypeNames hashLength Name.reservedTypes schema.sortedTables]
    exact List.mem_map_of_mem hq
  obtain ⟨c, hc, hadmitted⟩ := hcolumns q.1 hsorted
  have hcolumn : c.name ∈ (typesOf hashLength schema q).columns :=
    List.mem_map_of_mem (List.mem_filter.2 ⟨hc, hadmitted⟩)
  have hemitted : q ∈ emitted hashLength schema := emitted_of_columns hq (List.ne_nil_of_mem hcolumn)
  exact ⟨_, mem_tables_of_emitted hemitted, hname⟩

end Generated

open Generated

/-- The registry is closed exactly if every relation that shows in it refers to a compiled table. It is
so in particular if every table has a column that becomes a field. -/
theorem registry_closed_iff (hashLength : Int) (schema : Schema) :
    ((build hashLength schema).Closed ↔
      ∀ t ∈ (build hashLength schema).tables, ∀ rel, Shows (build hashLength schema) t rel →
        ∃ u ∈ (build hashLength schema).tables, u.table = rel.referencedTable) ∧
    ((∀ t ∈ schema.sortedTables, ∃ c ∈ t.columns, isAdmitted c = true) → (build hashLength schema).Closed) := by
  refine ⟨closed_iff, fun hcolumns => closed_iff.2 ?_⟩
  intro t ht rel hshows
  exact target_compiled hcolumns ht hshows.1

/-- A table without columns that a foreign key refers to. -/
def tagsWithoutColumns : Schema :=
  let column (name : String) : SchemaColumn := ⟨name, "INTEGER", true, false, .text⟩
  ⟨[⟨"posts", [column "id", column "tags_id"], [⟨"tags_id", "tags", "id"⟩], true⟩, ⟨"tags", [], [], true⟩]⟩

/-- Its type is used and is nowhere defined. -/
theorem tags_undefined :
    "Tags" ∉ builtInScalars ∧ (build 8 tagsWithoutColumns).types.has "Tags" = false ∧
      (build 8 tagsWithoutColumns).inputs.has "Tags" = false ∧
      ((build 8 tagsWithoutColumns).field? "Posts" "tags").map (·.returns) = some (.named "Tags") ∧
      ¬ (build 8 tagsWithoutColumns).Closed := by
  have hfield : ((build 8 tagsWithoutColumns).field? "Posts" "tags").map (·.returns) = some (.named "Tags") := by
    decide +kernel
  have htypes : (build 8 tagsWithoutColumns).types.has "Tags" = false := by decide +kernel
  have hscalar : "Tags" ∉ builtInScalars := by decide
  refine ⟨hscalar, htypes, by decide +kernel, hfield, ?_⟩
  intro h
  obtain ⟨f, hf, hreturns⟩ := Option.map_eq_some_iff.1 hfield
  obtain ⟨fields, hget, hname⟩ := Option.bind_eq_some_iff.1 hf
  have hyield := h.returns _ (Assoc.mem_of_get? hget) _ (Assoc.mem_of_get? hname)
  rw [hreturns] at hyield
  rcases hyield with hs | hd
  · exact hscalar hs
  · obtain ⟨defined, hm, -⟩ := mem_definedIn.1 hd
    have hhas : (build 8 tagsWithoutColumns).types.has "Tags" = true :=
      (Assoc.has_iff _ _).2 (List.mem_map_of_mem hm)
    rw [htypes] at hhas
    cases hhas

end TableGraph
