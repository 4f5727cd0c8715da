import TableGraph.Proofs.Catalog.ForeignKeys

/-! # Where the entries of the registries come from

The registries are overlays, so an entry is what the last table to use its name put there. Under a
type name that is the fields of a table whose type no later table took (`TypeKept`), or the fields of
a page; the names made from a type with a prefix of their own can only be taken by a later table of
the same type (`TypeHeld`).
-/
namespace TableGraph

/-- No later table with columns has the type of this one. -/
def TypeHeld (g : Generated) (t : TableTypes) : Prop :=
  ∀ u ∈ g.tables, t.table < u.table → u.columns ≠ [] → u.type ≠ t.type

theorem TypeKept.held {g : Generated} {t : TableTypes} (h : TypeKept g t) : TypeHeld g t :=
  fun u hu hlater hcolumns => (h u hu hlater hcolumns).1

namespace Generated
variable {hashLength : Int} {schema : Schema}

theorem columns_of_emitted {p : SchemaTable × String} (hp : p ∈ emitted hashLength schema) :
    (typesOf hashLength schema p).columns ≠ [] := (hasColumns_iff p _).1 (List.mem_filter.1 hp).2

theorem columnFields_ne_nil {p : SchemaTable × String} (hp : p ∈ emitted hashLength schema) :
    columnFields p.1 ≠ [] := by
  have h := (List.mem_filter.1 hp).2
  simpa [hasColumns] using h

theorem fields_ne_nil {p : SchemaTable × String} (hp : p ∈ emitted hashLength schema) :
    (outcomeOf hashLength schema p).fields ≠ [] := by
  have h := isEmpty_relate (basesOf (named hashLength schema)) { hashLength } p
  rw [(List.mem_filter.1 hp).2] at h
  simpa [outcomeOf, outcome] using h

/-! ## Tables in their order -/

theorem typeHeld_of_split {before after : List (SchemaTable × String)} {p : SchemaTable × String}
    (hsplit : emitted hashLength schema = before ++ p :: after) (h : ∀ q ∈ after, q.2 ≠ p.2) :
    TypeHeld (build hashLength schema) (typesOf hashLength schema p) := by
  intro u hu hlater hcolumns
  obtain ⟨q, hq, rfl⟩ := compiled_of_mem_tables hu
  have hqe : q ∈ emitted hashLength schema := emitted_of_columns (List.mem_filter.1 hq).1 hcolumns
  exact h q ((mem_after_iff pairwise_emitted hsplit hqe).2 hlater)

theorem typeKept_of_split {before after : List (SchemaTable × String)} {p : SchemaTable × String}
    (hsplit : emitted hashLength schema = before ++ p :: after)
    (h : Assoc.get? (after.flatMap (entriesOf hashLength schema)).reverse p.2 = none) :
    TypeKept (build hashLength schema) (typesOf hashLength schema p) := by
  intro u hu hlater hcolumns
  by_contra hmeet
  obtain ⟨fields, hfields⟩ := exists_later_entry hsplit hu hlater hcolumns hmeet
  rw [h] at hfields
  cases hfields

/-- The later tables of the same type among those with types. -/
theorem typeHeld_iff {before after : List (SchemaTable × String)} {p : SchemaTable × String}
    (hsplit : emitted hashLength schema = before ++ p :: after) :
    TypeHeld (build hashLength schema) (typesOf hashLength schema p) ↔ ∀ q ∈ after, q.2 ≠ p.2 := by
  refine ⟨?_, typeHeld_of_split hsplit⟩
  intro h q hq
  have hqe : q ∈ emitted hashLength schema := by simp [hsplit, hq]
  have hlater : p.1.name < q.1.name := (mem_after_iff pairwise_emitted hsplit hqe).1 hq
  exact h _ (mem_tables_of_emitted hqe) hlater (columns_of_emitted hqe)

/-! ## The entries -/

/-- What stands under a type name: the fields of a root type, of a table that kept its type, or of a
page. -/
theorem type_origin {name : String} {fields : Fields} (h : (name, fields) ∈ (build hashLength schema).types) :
    name = queryType ∧ fields = queryFields hashLength schema ∨
      name = mutationType ∧ fields = mutationFields hashLength schema ∨
      (∃ p ∈ emitted hashLength schema, name = p.2 ∧ fields = (outcomeOf hashLength schema p).fields ∧
        TypeKept (build hashLength schema) (typesOf hashLength schema p)) ∨
      ∃ p ∈ emitted hashLength schema, name = TableTypes.pageOf p.2 ∧ fields = pageFields p.2 := by
  rw [build_types, Assoc.mem_overlay_nil, registryEntries, List.reverse_append, Assoc.get?_append] at h
  rcases Option.or_eq_some_iff.1 h with h | ⟨-, h⟩
  · have hm := List.mem_reverse.1 (Assoc.mem_of_get? h)
    rcases List.mem_cons.1 hm with he | hm
    · exact .inl (Prod.mk.inj he)
    · split at hm
      · cases hm
      · exact .inr (.inl (Prod.mk.inj (List.mem_singleton.1 hm)))
  · obtain ⟨before, p, after, hsplit, hp, hnone⟩ := Assoc.exists_last_block h
    have hpe : p ∈ emitted hashLength schema := by simp [hsplit]
    have hm := List.mem_reverse.1 (Assoc.mem_of_get? hp)
    simp only [typeEntries, List.mem_cons, List.not_mem_nil, or_false, Prod.mk.injEq] at hm
    rcases hm with ⟨rfl, rfl⟩ | ⟨rfl, rfl⟩
    · exact .inr (.inr (.inl ⟨p, hpe, rfl, rfl, typeKept_of_split hsplit hnone⟩))
    · exact .inr (.inr (.inr ⟨p, hpe, rfl, rfl⟩))

theorem input_origin {name : String} {fields : InputFields}
    (h : (name, fields) ∈ (build hashLength schema).inputs) :
    ∃ p ∈ emitted hashLength schema, name = TableTypes.inputOf p.2 ∧ fields = columnFields p.1 ∧
      TypeHeld (build hashLength schema) (typesOf hashLength schema p) := by
  rw [build_inputs, Assoc.mem_overlay_nil] at h
  obtain ⟨before, p, after, hsplit, hp, hlater⟩ := Assoc.exists_last_entry h
  obtain ⟨rfl, rfl⟩ := Prod.mk.inj hp
  refine ⟨p, by simp [hsplit], rfl, rfl, typeHeld_of_split hsplit ?_⟩
  intro q hq he
  exact hlater q hq (congrArg TableTypes.inputOf he)

/-- A table whose type no later table took has its input. -/
theorem input_of_held {p : SchemaTable × String} (hp : p ∈ emitted hashLength schema)
    (h : TypeHeld (build hashLength schema) (typesOf hashLength schema p)) :
    (TableTypes.inputOf p.2, columnFields p.1) ∈ (build hashLength schema).inputs := by
  obtain ⟨before, after, hsplit⟩ := List.append_of_mem hp
  have hlater : (inputEntry p).1 ∉ Assoc.keys (after.map inputEntry) := by
    intro hm
    obtain ⟨entry, hentry, he⟩ := List.mem_map.1 hm
    obtain ⟨q, hq, rfl⟩ := List.mem_map.1 hentry
    exact (typeHeld_iff hsplit).1 h q hq (lead_inj he)
  rw [build_inputs, Assoc.mem_overlay_nil, hsplit, List.map_append, List.map_cons]
  exact Assoc.get?_reverse_split _ hlater

theorem query_origin {name : String} {f : Field} (h : (name, f) ∈ queryFields hashLength schema) :
    ∃ p ∈ emitted hashLength schema,
      name = (typesOf hashLength schema p).listField ∧ f = listOf (typesOf hashLength schema p) ∨
      name = (typesOf hashLength schema p).firstField ∧ f = firstOf (typesOf hashLength schema p) := by
  rw [queryFields, Assoc.mem_overlay_nil] at h
  obtain ⟨p, hp, hm⟩ := List.mem_flatMap.1 (List.mem_reverse.1 (Assoc.mem_of_get? h))
  refine ⟨p, hp, ?_⟩
  simpa [queryEntries] using hm

theorem mutation_origin {name : String} {f : Field} (h : (name, f) ∈ mutationFields hashLength schema) :
    ∃ p ∈ emitted hashLength schema, name = (typesOf hashLength schema p).putField ∧
      f = putOf (typesOf hashLength schema p) (columnFields p.1) ∧
      TypeHeld (build hashLength schema) (typesOf hashLength schema p) := by
  rw [mutationFields, Assoc.mem_overlay_nil] at h
  obtain ⟨before, p, after, hsplit, hp, hlater⟩ := Assoc.exists_last_entry h
  obtain ⟨rfl, rfl⟩ := Prod.mk.inj hp
  refine ⟨p, by simp [hsplit], rfl, rfl, typeHeld_of_split hsplit ?_⟩
  intro q hq he
  exact hlater q hq (congrArg ("putItem" ++ ·) he)

/-! ## The fields of a table -/

theorem nodup_scalarFields (t : SchemaTable) : (Assoc.keys (scalarFields t)).Nodup := by
  have hk : Assoc.keys (scalarFields t) = Assoc.keys (columnFields t) := by simp [scalarFields, Assoc.keys]
  rw [hk, columnFields_eq]
  exact Assoc.nodup_overlay_nil _

/-- A field of a table is that of its last relation of this name, or that of a column. -/
theorem field_origin {p : SchemaTable × String} {name : String} {f : Field}
    (h : (name, f) ∈ (outcomeOf hashLength schema p).fields) :
    (∃ rel ∈ (outcomeOf hashLength schema p).relations,
        lastOn (outcomeOf hashLength schema p).relations rel.column = some rel ∧
        relationEntry (basesOf (named hashLength schema)) rel = (name, f)) ∨
      (name, f) ∈ scalarFields p.1 := by
  have hrelated := related_outcome hashLength (basesOf (named hashLength schema)) p
  have hnodup : (Assoc.keys (outcomeOf hashLength schema p).fields).Nodup := by
    rw [hrelated.fields]
    exact Assoc.nodup_overlay (nodup_scalarFields p.1) _
  rw [Assoc.mem_iff_get? hnodup, hrelated.fields, Assoc.get?_overlay] at h
  rcases Option.or_eq_some_iff.1 h with h | ⟨-, h⟩
  · left
    obtain ⟨before, rel, after, hsplit, he, hlater⟩ := Assoc.exists_last_entry h
    have hr : rel ∈ (outcomeOf hashLength schema p).relations := by simp [outcomeOf, hsplit]
    obtain ⟨last, hlast⟩ := exists_lastOn hr
    obtain ⟨hm, hcolumn⟩ := lastOn_mem hlast
    have hname : last.field = rel.field := (hrelated.field_eq_iff hm hr).2 hcolumn
    have hown := get?_lastOn hlast (relationEntry (basesOf (named hashLength schema))) fun q hq => by
      rw [← hcolumn]
      exact hrelated.field_eq_iff hq hm
    refine ⟨last, hm, hcolumn ▸ hlast, ?_⟩
    have hkey : (relationEntry (basesOf (named hashLength schema)) last).1 = name := by
      rw [← (Prod.mk.inj he).1]
      exact hname
    rw [hkey, h] at hown
    exact Prod.ext hkey (Option.some.inj hown).symm
  · exact .inr (Assoc.mem_of_get? h)

/-- In a table that kept its type the last relation on a column has its field in the registry. -/
theorem exists_relationEntry {t : TableTypes} (ht : t ∈ (build hashLength schema).tables)
    (hkept : TypeKept (build hashLength schema) t) {rel : Relation} (hr : rel ∈ t.relations)
    (hlast : lastOn t.relations rel.column = some rel) :
    ∃ fields, (t.type, fields) ∈ (build hashLength schema).types ∧
      relationEntry (basesOf (named hashLength schema)) rel ∈ fields := by
  have hcolumns := columns_of_relation ht hr
  obtain ⟨p, hp, rfl⟩ := compiled_of_mem_tables ht
  have hemitted : p ∈ emitted hashLength schema := emitted_of_columns (List.mem_filter.1 hp).1 hcolumns
  obtain ⟨before, after, hsplit⟩ := List.append_of_mem hemitted
  refine ⟨(outcomeOf hashLength schema p).fields, Assoc.mem_of_get? (no_later_entry hsplit hkept), ?_⟩
  have hrelated := related_outcome hashLength (basesOf (named hashLength schema)) p
  have hown := get?_lastOn hlast (relationEntry (basesOf (named hashLength schema)))
    fun q hq => hrelated.field_eq_iff hq hr
  refine Assoc.mem_of_get? ?_
  rw [hrelated.fields, Assoc.get?_overlay]
  exact Option.or_eq_some_iff.2 (.inl hown)

end Generated

end TableGraph
