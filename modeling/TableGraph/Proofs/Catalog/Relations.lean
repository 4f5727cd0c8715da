import TableGraph.Proofs.Catalog.Build
import TableGraph.Proofs.Naming.History

/-! # Names of the relations of a table

The relations of a table carry the names that a namer assigned after the columns were reserved. So no
relation takes the name of a column or of the table itself, and two relations share a name exactly if
they share a column.
-/
namespace TableGraph

/-- The foreign key that a relation follows. -/
def Relation.key (r : Relation) : ForeignKey := ⟨r.column, r.referencedTable, r.referencedColumn⟩

namespace Generated

def relationEntry (bases : Assoc String String) (r : Relation) : String × Field :=
  (r.field, ⟨r.field, .named ((bases.get? r.referencedTable).getD ""), pageArgs⟩)

/-- The names that are taken before the relations of a table are named. -/
def ownNames (t : SchemaTable) : List String := sanitizeName t.name :: Assoc.keys (scalarFields t)

/-- What holds of a table while its foreign keys are gone through. -/
structure Related (bases : Assoc String String) (p : SchemaTable × String) (done : List ForeignKey)
    (s : RelationState) : Prop where
  coherent : s.namer.Coherent (ownNames p.1) p.1.name
  fields : s.fields = Assoc.overlay (scalarFields p.1) (s.relations.map (relationEntry bases))
  origin : ∀ r ∈ s.relations, r.type = p.2 ∧ r.table = p.1.name ∧ r.key ∈ done
  target : ∀ r ∈ s.relations, r.referencedTable ∈ bases.keys
  held : ∀ r ∈ s.relations, s.namer.lookup p.1.name r.column = some r.field
  complete : ∀ f ∈ done, f.referencedTable ∈ bases.keys → f.column ∈ Assoc.keys (scalarFields p.1) →
    ∃ r ∈ s.relations, r.key = f

variable {bases : Assoc String String} {p : SchemaTable × String}

theorem Related.start (hashLength : Int) (bases : Assoc String String) (p : SchemaTable × String) :
    Related bases p []
      { namer := Namer.reserve { hashLength } p.1.name (Assoc.keys (scalarFields p.1))
        fields := scalarFields p.1 } where
  coherent := by
    refine ⟨?_, ?_, ?_⟩
    · intro name hn
      rw [Namer.takenFor_reserve, if_pos rfl]
      exact hn
    · intro column name hl
      cases hl
    · intro column other name hl
      cases hl
  fields := rfl
  origin := by simp
  target := by simp
  held := by simp
  complete := by simp

theorem Related.addRelation {done : List ForeignKey} {s : RelationState} (h : Related bases p done s)
    (f : ForeignKey) : Related bases p (done ++ [f]) (addRelation bases p.1.name p.2 s f) := by
  rcases addRelation_cases bases p.1.name p.2 s f with ⟨he, hno⟩ | ⟨target, ht, -, he⟩
  · rw [he]
    refine ⟨h.coherent, h.fields, ?_, h.target, h.held, ?_⟩
    · intro r hr
      obtain ⟨htype, htable, hkey⟩ := h.origin r hr
      exact ⟨htype, htable, List.mem_append_left _ hkey⟩
    · intro g hg ht hc
      rcases List.mem_append.1 hg with hg | hg
      · exact h.complete g hg ht hc
      · rw [List.mem_singleton.1 hg] at ht hc
        rcases hno with hno | hno
        · exact absurd ht (Assoc.get?_eq_none_iff.1 hno)
        · have hf : f.column ∈ s.fields.keys := h.fields ▸ Assoc.mem_keys_overlay.2 (.inl hc)
          rw [(Assoc.has_iff _ _).2 hf] at hno
          cases hno
  · rw [he]
    let name := (s.namer.assign p.1.name f.column f.referencedTable).1
    let new : Relation := ⟨p.2, name, p.1.name, f.column, f.referencedTable, f.referencedColumn⟩
    refine ⟨h.coherent.assign p.1.name f.column f.referencedTable, ?_, ?_, ?_, ?_, ?_⟩
    · have hnew : relationEntry bases new = (name, ⟨name, .named target, pageArgs⟩) := by
        simp [relationEntry, new, ht]
      rw [List.map_append, List.map_singleton, hnew, Assoc.overlay_concat, ← h.fields]
    · intro r hr
      rcases List.mem_append.1 hr with hr | hr
      · obtain ⟨htype, htable, hkey⟩ := h.origin r hr
        exact ⟨htype, htable, List.mem_append_left _ hkey⟩
      · rw [List.mem_singleton.1 hr]
        exact ⟨rfl, rfl, List.mem_append_right _ (List.mem_singleton.2 rfl)⟩
    · intro r hr
      rcases List.mem_append.1 hr with hr | hr
      · exact h.target r hr
      · rw [List.mem_singleton.1 hr]
        exact Assoc.mem_keys_of_get? ht
    · intro r hr
      rw [Namer.lookup_assign]
      rcases List.mem_append.1 hr with hr | hr
      · have hl := h.held r hr
        split
        · rename_i hk
          rw [← hk.2] at hl
          rw [Namer.assign_of_held hl]
        · exact hl
      · rw [List.mem_singleton.1 hr, if_pos ⟨rfl, rfl⟩]
    · intro g hg ht hc
      rcases List.mem_append.1 hg with hg | hg
      · obtain ⟨r, hr, hk⟩ := h.complete g hg ht hc
        exact ⟨r, List.mem_append_left _ hr, hk⟩
      · rw [List.mem_singleton.1 hg]
        exact ⟨new, List.mem_append_right _ (List.mem_singleton.2 rfl), rfl⟩

theorem Related.foldl {done : List ForeignKey} {s : RelationState} (h : Related bases p done s)
    (keys : List ForeignKey) :
    Related bases p (done ++ keys) (keys.foldl (Generated.addRelation bases p.1.name p.2) s) := by
  induction keys generalizing done s with
  | nil => simpa using h
  | cons f r ih => simpa using ih (h.addRelation f)

theorem related_outcome (hashLength : Int) (bases : Assoc String String) (p : SchemaTable × String) :
    Related bases p p.1.sortedForeignKeys (outcome hashLength bases p) :=
  (Related.start hashLength bases p).foldl p.1.sortedForeignKeys

theorem columnFields_eq (t : SchemaTable) : columnFields t = Assoc.overlay []
    ((t.columns.filter isAdmitted).map fun c => (c.name, .named (scalarFor c.nativeType))) := by
  rw [columnFields, Assoc.overlay, List.foldl_map]

theorem mem_columns_iff (p : SchemaTable × String) (relations : List Relation) (column : String) :
    column ∈ (tableTypes p relations).columns ↔ column ∈ Assoc.keys (scalarFields p.1) := by
  have hk : Assoc.keys (scalarFields p.1) = Assoc.keys (columnFields p.1) := by
    simp [scalarFields, Assoc.keys]
  rw [hk, columnFields_eq, Assoc.mem_keys_overlay]
  simp [tableTypes, Assoc.keys]

/-- The type of a column is a scalar. -/
theorem columnField_scalar {t : SchemaTable} {name : String} {ref : TypeRef} (h : (name, ref) ∈ columnFields t) :
    ∃ scalar ∈ builtInScalars, ref = .named scalar := by
  have hscalar (nativeType : String) : scalarFor nativeType ∈ builtInScalars := by
    unfold scalarFor
    dsimp only
    split_ifs <;> decide
  rw [columnFields_eq, Assoc.mem_overlay_nil] at h
  obtain ⟨c, -, he⟩ := List.mem_map.1 (List.mem_reverse.1 (Assoc.mem_of_get? h))
  exact ⟨scalarFor c.nativeType, hscalar c.nativeType, (Prod.mk.inj he).2.symm⟩

/-- A field made for a column has a scalar type, whose name is reserved. -/
theorem returns_of_scalarField {t : SchemaTable} {name : String} {f : Field}
    (h : Assoc.get? (scalarFields t) name = some f) : ∃ scalar ∈ Name.reservedTypes, f.returns = .named scalar := by
  have hreserved : ∀ scalar ∈ builtInScalars, scalar ∈ Name.reservedTypes := by decide
  obtain ⟨q, hq, he⟩ := List.mem_map.1 (Assoc.mem_of_get? h)
  obtain ⟨rfl, rfl⟩ := Prod.mk.inj he
  obtain ⟨scalar, hscalar, hs⟩ := columnField_scalar hq
  exact ⟨scalar, hreserved scalar hscalar, hs⟩

theorem Related.field_clear {done : List ForeignKey} {s : RelationState} (h : Related bases p done s)
    {r : Relation} (hr : r ∈ s.relations) :
    r.field ∉ Assoc.keys (scalarFields p.1) ∧ r.field ≠ sanitizeName p.1.name := by
  have ho : r.field ∉ ownNames p.1 := (h.coherent.held r.column r.field (h.held r hr)).2
  simp only [ownNames, List.mem_cons, not_or] at ho
  exact ⟨ho.2, ho.1⟩

theorem Related.field_eq_iff {done : List ForeignKey} {s : RelationState} (h : Related bases p done s)
    {r q : Relation} (hr : r ∈ s.relations) (hq : q ∈ s.relations) : r.field = q.field ↔ r.column = q.column := by
  constructor
  · intro he
    exact h.coherent.apart r.column q.column r.field (h.held r hr) (he ▸ h.held q hq)
  · intro he
    have hl := h.held r hr
    rw [he, h.held q hq] at hl
    exact (Option.some.inj hl).symm

/-- A relation of a compiled table takes neither the name of a column nor that of the table. -/
theorem relation_clear {hashLength : Int} {schema : Schema} {t : TableTypes} (ht : t ∈ (build hashLength schema).tables)
    {r : Relation} (hr : r ∈ t.relations) : r.field ∉ t.columns ∧ r.field ≠ sanitizeName t.table := by
  rw [build_tables] at ht
  obtain ⟨p, -, rfl⟩ := List.mem_map.1 (List.mem_filter.1 ht).1
  obtain ⟨hcolumn, htable⟩ := (related_outcome hashLength _ p).field_clear hr
  exact ⟨fun hc => hcolumn ((mem_columns_iff p _ r.field).1 hc), htable⟩

end Generated

open Generated Namer

/-- Over every sequence of reservations and assignments an assignment gives a column the name that it
has, or one that was not taken for its table; so no two columns of a table hold one name. In every
build, then, the relations of a table leave the names of its columns and its own name alone. -/
theorem relation_names_fresh (hashLength : Int) :
    (∀ (before : List Step) (table column referencedTable : String),
      Answers (history { hashLength } before) (run { hashLength } before) table column referencedTable) ∧
    (∀ (steps : List Step) (table column other name : String),
      (run { hashLength } steps).lookup table column = some name →
      (run { hashLength } steps).lookup table other = some name → column = other) ∧
    ∀ (schema : Schema), ∀ t ∈ (build hashLength schema).tables, ∀ r ∈ t.relations,
      r.field ∉ t.columns ∧ r.field ≠ sanitizeName t.table := by
  have hrecords (steps : List Step) : Records (history { hashLength } steps) (run { hashLength } steps) := by
    simpa using (Records.start hashLength).run steps
  refine ⟨?_, ?_, ?_⟩
  · intro before table column referencedTable
    exact (hrecords before).answers table column referencedTable
  · intro steps table column other name hc ho
    exact ((hrecords steps).coherent table).apart column other name hc ho
  · exact fun schema t ht r hr => relation_clear ht hr

end TableGraph
