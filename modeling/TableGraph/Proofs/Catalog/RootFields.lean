import TableGraph.Proofs.Catalog.Compiled
import TableGraph.Proofs.Resolver.Defaults

/-! # Root fields

Every compiled table asks for two query fields and one mutation field, named by a prefix before its
type. The prefix of the lookup starts with that of the list, so different types are not enough: the
list of one table can be the lookup of another.
-/
namespace TableGraph

namespace TableTypes
variable {t u : TableTypes}

theorem listField_inj : t.listField = u.listField ↔ t.type = u.type :=
  ⟨lead_inj, fun h => congrArg ("get" ++ ·) h⟩

theorem firstField_inj : t.firstField = u.firstField ↔ t.type = u.type :=
  ⟨lead_inj, fun h => congrArg ("getFirstOf" ++ ·) h⟩

theorem putField_inj : t.putField = u.putField ↔ t.type = u.type :=
  ⟨lead_inj, fun h => congrArg ("putItem" ++ ·) h⟩

/-- The list of a table is a lookup if its type is that of the lookup after the words for it. -/
theorem listField_eq_firstField : t.listField = u.firstField ↔ t.type = "FirstOf" ++ u.type := by
  have hsplit : u.firstField = "get" ++ ("FirstOf" ++ u.type) := by
    rw [← String.append_assoc]
    rfl
  rw [hsplit]
  exact ⟨lead_inj, fun h => congrArg ("get" ++ ·) h⟩

theorem ne_firstOf (t : TableTypes) : t.type ≠ "FirstOf" ++ t.type := by
  intro h
  have hl := congrArg String.length h
  rw [String.length_append] at hl
  have hlead : "FirstOf".length = 7 := by decide
  omega

end TableTypes

open Generated Resolver

/-- A table has its root fields in the registry, and by default they read and write that table. -/
structure Served {ι : Type} (r : Resolver ι) (c : Catalog) (t : TableTypes) : Prop where
  list : c.generated.field? queryType t.listField = some (listOf t)
  first : c.generated.field? queryType t.firstField = some (firstOf t)
  put : ∃ inputs, c.generated.field? mutationType t.putField = some (putOf t inputs)
  listed : (r.register c).default? queryType t.listField = some (.page, some t.table)
  found : (r.register c).default? queryType t.firstField = some (.first, some t.table)
  stored : (r.register c).default? mutationType t.putField = some (.put, some t.table)

/-- The root fields of the compiled tables are different, and every table is served by its own. -/
structure RootFieldsKept {ι : Type} (r : Resolver ι) (c : Catalog) : Prop where
  queries : (c.generated.tables.flatMap fun t => [t.listField, t.firstField]).Nodup
  mutations : (c.generated.tables.map TableTypes.putField).Nodup
  served : ∀ t ∈ c.generated.tables, Served r c t

/-- No type of a compiled table says that it is the lookup of another. -/
def NoFirstOf (tables : List TableTypes) : Prop := ∀ t ∈ tables, ∀ u ∈ tables, t.type ≠ "FirstOf" ++ u.type

namespace Generated

theorem nodup_queries {tables : List TableTypes} (htypes : (tables.map (·.type)).Nodup) :
    (tables.flatMap fun t => [t.listField, t.firstField]).Nodup ↔ NoFirstOf tables := by
  have hpair (t : TableTypes) : [t.listField, t.firstField].Nodup := by
    have hne : t.listField ≠ t.firstField := fun he => t.ne_firstOf (TableTypes.listField_eq_firstField.1 he)
    simpa using hne
  rw [List.nodup_flatMap]
  rw [List.nodup_iff_pairwise_ne, List.pairwise_map] at htypes
  constructor
  · rintro ⟨-, hd⟩ t ht u hu he
    have hne : t ≠ u := by
      rintro rfl
      exact t.ne_firstOf he
    have hsymm : Std.Symm (Function.onFun List.Disjoint fun t : TableTypes => [t.listField, t.firstField]) :=
      ⟨fun _ _ h => List.disjoint_comm.1 h⟩
    have hdisjoint := hd.forall ht hu hne
    have hlist : t.listField = u.firstField := TableTypes.listField_eq_firstField.2 he
    exact hdisjoint (List.mem_cons_self) (hlist ▸ by simp)
  · intro hf
    refine ⟨fun t _ => hpair t, htypes.imp_of_mem ?_⟩
    intro t u ht hu hne name hnt hnu
    simp only [List.mem_cons, List.not_mem_nil, or_false] at hnt hnu
    rcases hnt with rfl | rfl <;> rcases hnu with he | he
    · exact hne (TableTypes.listField_inj.1 he)
    · exact hf t ht u hu (TableTypes.listField_eq_firstField.1 he)
    · exact hf u hu t ht (TableTypes.listField_eq_firstField.1 he.symm)
    · exact hne (TableTypes.firstField_inj.1 he)

section Registry
variable (hashLength : Int) (schema : Schema)

theorem field?_query (name : String) :
    (build hashLength schema).field? queryType name =
      Assoc.get? ((emitted hashLength schema).flatMap
        (queryEntries hashLength (basesOf (named hashLength schema)))).reverse name := by
  rw [field?, get?_types_query, Option.bind_some, queryFields, Assoc.get?_overlay, Assoc.get?_nil,
    Option.or_none]

theorem field?_mutation (h : emitted hashLength schema ≠ []) (name : String) :
    (build hashLength schema).field? mutationType name =
      Assoc.get? ((emitted hashLength schema).map
        (mutationEntry hashLength (basesOf (named hashLength schema)))).reverse name := by
  rw [field?, get?_types_mutation hashLength schema h, Option.bind_some, mutationFields, Assoc.get?_overlay,
    Assoc.get?_nil, Option.or_none]

variable {hashLength schema}

theorem mem_queryEntries {name : String} {f : Field}
    (h : (name, f) ∈ (emitted hashLength schema).flatMap
      (queryEntries hashLength (basesOf (named hashLength schema)))) :
    ∃ u ∈ (build hashLength schema).tables,
      name = u.listField ∧ f = listOf u ∨ name = u.firstField ∧ f = firstOf u := by
  obtain ⟨q, hq, hm⟩ := List.mem_flatMap.1 h
  refine ⟨_, mem_tables_of_emitted hq, ?_⟩
  simpa [queryEntries] using hm

theorem mem_mutationEntries {name : String} {f : Field}
    (h : (name, f) ∈ (emitted hashLength schema).map
      (mutationEntry hashLength (basesOf (named hashLength schema)))) :
    ∃ q ∈ emitted hashLength schema, ∃ u ∈ (build hashLength schema).tables,
      u = typesOf hashLength schema q ∧ name = u.putField ∧
        f = putOf u (columnFields q.1) := by
  obtain ⟨q, hq, he⟩ := List.mem_map.1 h
  obtain ⟨rfl, rfl⟩ := Prod.mk.inj he
  exact ⟨q, hq, _, mem_tables_of_emitted hq, rfl, rfl, rfl⟩

end Registry

end Generated

section Served
variable {ι : Type} {r : Resolver ι} {c : Catalog} {s : Schema}

/-- A default of a root field is that of a table with a root field of this name. -/
theorem mem_rootDefaults {type field : String} {d : Default} {table : String}
    (hroot : type = queryType ∨ type = mutationType)
    (h : ((type, field), (d, table)) ∈ defaultEntries (c.adopt s).generated.tables) :
    ∃ u ∈ (c.adopt s).generated.tables,
      (type = queryType ∧ field = u.listField ∧ d = .page ∧ table = u.table) ∨
      (type = queryType ∧ field = u.firstField ∧ d = .first ∧ table = u.table) ∨
      (type = mutationType ∧ field = u.putField ∧ d = .put ∧ table = u.table) := by
  obtain ⟨u, hu, hd⟩ := mem_defaultEntries.1 h
  refine ⟨u, hu, ?_⟩
  rcases mem_defaultsOf.1 hd with hd | hd | hd | ⟨rel, hr, rfl, -, -, -⟩
  · exact .inl hd
  · exact .inr (.inl hd)
  · exact .inr (.inr hd)
  · have hne := type_ne_root hu
    rw [(relation_origin hu hr).1] at hroot
    rcases hroot with hroot | hroot
    · exact absurd hroot hne.1
    · exact absurd hroot hne.2

theorem default?_of_unique {type field table : String} {d : Default}
    (h : ((type, field), (d, table)) ∈ defaultEntries c.generated.tables)
    (hu : ∀ w, ((type, field), w) ∈ defaultEntries c.generated.tables → w = (d, table)) :
    (r.register c).default? type field = some (d, some table) := by
  rw [default?_register, Assoc.get?_reverse_of_unique h hu]
  rfl

variable (htypes : ((c.adopt s).generated.tables.map (·.type)).Nodup)
include htypes

theorem same_of_type {t u : TableTypes} (ht : t ∈ (c.adopt s).generated.tables)
    (hu : u ∈ (c.adopt s).generated.tables) (he : t.type = u.type) : t = u :=
  List.inj_on_of_nodup_map htypes ht hu he

theorem served_of_noFirstOf (hf : NoFirstOf (c.adopt s).generated.tables) {p : SchemaTable × String}
    (hp : p ∈ emitted c.hashLength s) :
    Served r (c.adopt s) (typesOf c.hashLength s p) := by
  let t := typesOf c.hashLength s p
  have ht : t ∈ (c.adopt s).generated.tables := mem_tables_of_emitted hp
  have hquery : queryType ≠ mutationType := by decide
  have hown {name : String} {f : Field} (hm : (name, f) ∈ queryEntries c.hashLength
      (basesOf (named c.hashLength s)) p) :
      (name, f) ∈ (emitted c.hashLength s).flatMap (queryEntries c.hashLength (basesOf (named c.hashLength s))) :=
    List.mem_flatMap.2 ⟨p, hp, hm⟩
  refine ⟨?_, ?_, ⟨columnFields p.1, ?_⟩, ?_, ?_, ?_⟩
  · refine (field?_query c.hashLength s t.listField).trans
      (Assoc.get?_reverse_of_unique (hown List.mem_cons_self) ?_)
    intro w hw
    obtain ⟨u, hu, ⟨he, rfl⟩ | ⟨he, rfl⟩⟩ := mem_queryEntries hw
    · exact congrArg listOf (same_of_type htypes hu ht (TableTypes.listField_inj.1 he.symm))
    · exact absurd (TableTypes.listField_eq_firstField.1 he) (hf t ht u hu)
  · refine (field?_query c.hashLength s t.firstField).trans
      (Assoc.get?_reverse_of_unique (hown (List.mem_cons_of_mem _ List.mem_cons_self)) ?_)
    intro w hw
    obtain ⟨u, hu, ⟨he, rfl⟩ | ⟨he, rfl⟩⟩ := mem_queryEntries hw
    · exact absurd (TableTypes.listField_eq_firstField.1 he.symm) (hf u hu t ht)
    · exact congrArg firstOf (same_of_type htypes hu ht (TableTypes.firstField_inj.1 he.symm))
  · refine (field?_mutation c.hashLength s (List.ne_nil_of_mem hp) t.putField).trans
      (Assoc.get?_reverse_of_unique (List.mem_map_of_mem hp) ?_)
    intro w hw
    obtain ⟨q, hq, u, hu, rfl, he, rfl⟩ := mem_mutationEntries hw
    have hsame := same_of_type htypes hu ht (TableTypes.putField_inj.1 he.symm)
    have hpq : q = p := List.inj_on_of_nodup_map (nodup_named c.hashLength s) (List.mem_filter.1 hq).1
      (List.mem_filter.1 hp).1 (congrArg TableTypes.table hsame)
    rw [hpq]
  · refine default?_of_unique (mem_defaultEntries.2 ⟨t, ht, mem_defaultsOf.2 (.inl ⟨rfl, rfl, rfl, rfl⟩)⟩) ?_
    rintro ⟨d, table⟩ hw
    obtain ⟨u, hu, ⟨-, he, rfl, rfl⟩ | ⟨-, he, rfl, rfl⟩ | ⟨hm, -⟩⟩ := mem_rootDefaults (.inl rfl) hw
    · rw [same_of_type htypes hu ht (TableTypes.listField_inj.1 he.symm)]
    · exact absurd (TableTypes.listField_eq_firstField.1 he) (hf t ht u hu)
    · exact absurd hm hquery
  · refine default?_of_unique
      (mem_defaultEntries.2 ⟨t, ht, mem_defaultsOf.2 (.inr (.inl ⟨rfl, rfl, rfl, rfl⟩))⟩) ?_
    rintro ⟨d, table⟩ hw
    obtain ⟨u, hu, ⟨-, he, rfl, rfl⟩ | ⟨-, he, rfl, rfl⟩ | ⟨hm, -⟩⟩ := mem_rootDefaults (.inl rfl) hw
    · exact absurd (TableTypes.listField_eq_firstField.1 he.symm) (hf u hu t ht)
    · rw [same_of_type htypes hu ht (TableTypes.firstField_inj.1 he.symm)]
    · exact absurd hm hquery
  · refine default?_of_unique
      (mem_defaultEntries.2 ⟨t, ht, mem_defaultsOf.2 (.inr (.inr (.inl ⟨rfl, rfl, rfl, rfl⟩)))⟩) ?_
    rintro ⟨d, table⟩ hw
    obtain ⟨u, hu, ⟨hm, -⟩ | ⟨hm, -⟩ | ⟨-, he, rfl, rfl⟩⟩ := mem_rootDefaults (.inr rfl) hw
    · exact absurd hm hquery.symm
    · exact absurd hm hquery.symm
    · rw [same_of_type htypes hu ht (TableTypes.putField_inj.1 he.symm)]

theorem columns_of_served {t : TableTypes} (ht : t ∈ (c.adopt s).generated.tables)
    (hs : Served r (c.adopt s) t) : t.columns ≠ [] := by
  obtain ⟨inputs, hput⟩ := hs.put
  have hne : emitted c.hashLength s ≠ [] := by
    intro he
    have hquery : queryType ≠ mutationType := by decide
    have hnone : (build c.hashLength s).types.get? mutationType = none := by
      rw [get?_types, registryEntries, he]
      simp [Assoc.get?_cons, hquery]
    change (build c.hashLength s).field? mutationType t.putField = _ at hput
    rw [field?, hnone] at hput
    cases hput
  change (build c.hashLength s).field? mutationType t.putField = _ at hput
  rw [field?_mutation c.hashLength s hne] at hput
  obtain ⟨q, hq, u, hu, rfl, he, -⟩ := mem_mutationEntries (List.mem_reverse.1 (Assoc.mem_of_get? hput))
  rw [same_of_type htypes ht hu (TableTypes.putField_inj.1 he)]
  exact (hasColumns_iff q _).1 (List.mem_filter.1 hq).2

end Served

/-- Where the object types are different, all tables keep their root fields exactly if no type is the
lookup of another one and every compiled table has a column. -/
theorem root_fields_kept_iff {ι : Type} (r : Resolver ι) (c : Catalog) (s : Schema)
    (htypes : ((c.adopt s).generated.tables.map (·.type)).Nodup) :
    RootFieldsKept r (c.adopt s) ↔
      NoFirstOf (c.adopt s).generated.tables ∧ ∀ t ∈ (c.adopt s).generated.tables, t.columns ≠ [] := by
  constructor
  · intro h
    exact ⟨(nodup_queries htypes).1 h.queries, fun t ht => columns_of_served htypes ht (h.served t ht)⟩
  · rintro ⟨hf, hcolumns⟩
    refine ⟨(nodup_queries htypes).2 hf, ?_, ?_⟩
    · rw [List.nodup_iff_pairwise_ne, List.pairwise_map] at htypes ⊢
      exact htypes.imp fun hne he => hne (TableTypes.putField_inj.1 he)
    · intro t ht
      have hc := hcolumns t ht
      have hm : t ∈ (build c.hashLength s).tables := ht
      rw [tables_eq] at hm
      obtain ⟨p, hp, rfl⟩ := List.mem_map.1 hm
      have he : p ∈ emitted c.hashLength s :=
        List.mem_filter.2 ⟨(List.mem_filter.1 hp).1, (hasColumns_iff p _).2 hc⟩
      exact served_of_noFirstOf htypes hf he

def twoTables (a b : String) : Schema :=
  let table (name : String) : SchemaTable := ⟨name, [⟨"id", "INTEGER", false, true, .text⟩], [], true⟩
  ⟨[table a, table b]⟩

theorem posts_and_users_kept :
    ((({} : Catalog).adopt (twoTables "posts" "users")).generated.tables.map (·.type)).Nodup ∧
      RootFieldsKept ({} : Resolver Unit) (({} : Catalog).adopt (twoTables "posts" "users")) := by
  have htypes : ((({} : Catalog).adopt (twoTables "posts" "users")).generated.tables.map (·.type)).Nodup := by
    decide +kernel
  refine ⟨htypes, (root_fields_kept_iff {} {} (twoTables "posts" "users") htypes).2 ⟨?_, ?_⟩⟩
  · unfold NoFirstOf
    decide +kernel
  · decide +kernel

/-- The list of one table is the lookup of the other. -/
theorem users_lookup_taken :
    ((({} : Catalog).adopt (twoTables "first_of_users" "users")).generated.tables.map (·.type)).Nodup ∧
      ¬ RootFieldsKept ({} : Resolver Unit) (({} : Catalog).adopt (twoTables "first_of_users" "users")) := by
  refine ⟨by decide +kernel, ?_⟩
  intro h
  have hn : ¬ ((({} : Catalog).adopt (twoTables "first_of_users" "users")).generated.tables.flatMap
      fun t => [t.listField, t.firstField]).Nodup := by decide +kernel
  exact hn h.queries

end TableGraph
