import TableGraph.Proofs.Store.Writing
import TableGraph.Resolver.Retrieve

/-! # Supplied values

The values for an item come from the input among the arguments and from the flat arguments, which win
(`suppliedValues_ok`). Those that are not null in the columns of the key make up the key (`get?_keyValues`), and
if it is full the other values are those of all other columns (`get?_otherValues`). The rows that meet the tests
for a full key are the rows that have it (`meetsAll_iff_hasKey`).
-/
namespace TableGraph.Resolver

/-! ## The supplied values -/

/-- The mapping among the arguments, empty if there is none. -/
def inputOf (args : Args) : Except Failure Row :=
  let input := (args.get? "input").getD .null
  if input.isGiven then inputValues input else .ok []

/-- The value for a column: the flat argument of its name, or else what the input has. -/
def suppliedFor (args : Args) (input : Row) (column : String) : Option Value :=
  ((args.drop "input").get? column).or (input.get? column)

/-- No argument and no member of the input is given twice. -/
structure Unambiguous (args : Args) : Prop where
  flat : (Assoc.keys args).Nodup
  input : ∀ input, inputOf args = .ok input → (Assoc.keys input).Nodup

theorem unambiguous_of_flat {args : Args} (hn : (Assoc.keys args).Nodup) (hflat : args.get? "input" = none) :
    Unambiguous args := by
  refine ⟨hn, fun input h => ?_⟩
  simp only [inputOf, hflat] at h
  obtain rfl := Except.ok.inj h
  exact List.nodup_nil

theorem suppliedValues_ok {args : Args} (ha : Unambiguous args) {values : Row} (h : suppliedValues args = .ok values) :
    ∃ input, inputOf args = .ok input ∧ (Assoc.keys values).Nodup ∧ values.get? = suppliedFor args input := by
  have hflat : (Assoc.keys (args.drop "input")).Nodup := Assoc.nodup_filter ha.flat _
  unfold suppliedValues at h
  dsimp only at h
  split at h
  · rename_i hgiven
    obtain ⟨input, hinput, rfl⟩ := Chain.map_eq_ok.1 h
    have hof : inputOf args = .ok input := by rw [inputOf, if_pos hgiven, hinput]
    refine ⟨input, hof, Assoc.nodup_overlay (ha.input input hof) _, ?_⟩
    funext column
    rw [Assoc.get?_overlay, suppliedFor]
    congr 1
    cases hget : (args.drop "input").get? column with
    | none => exact Assoc.get?_reverse_eq_none_iff.2 (Assoc.get?_eq_none_iff.1 hget)
    | some v => exact Assoc.get?_reverse_of_nodup hflat (Assoc.mem_of_get? hget)
  · rename_i hgiven
    obtain rfl := Except.ok.inj h
    refine ⟨[], by rw [inputOf, if_neg hgiven], hflat, ?_⟩
    funext column
    rw [suppliedFor, Assoc.get?_nil, Option.or_none]

/-! ## The key and the other values -/

section Key
variable {key : List String} {supplied : Row}

/-- The key with one more column, if there is a value for it. -/
def withColumn (values m : Row) (column : String) : Row :=
  match values.get? column with
  | some v => m.put column v
  | none => m

theorem keyValues_eq (key : List String) (values : Row) : keyValues key values = key.foldl (withColumn values) [] := rfl

theorem get?_withColumn (values m : Row) (column k : String) :
    (withColumn values m column).get? k = (if column = k then values.get? k else none).or (m.get? k) := by
  rw [withColumn]
  cases hv : values.get? column with
  | none =>
    by_cases hk : column = k
    · simp [← hk, hv]
    · simp [hk]
  | some v =>
    by_cases hk : column = k
    · simp [← hk, hv, Assoc.get?_put]
    · simp [hk, Assoc.get?_put]

theorem get?_foldl_withColumn (values : Row) (columns : List String) (m : Row) (k : String) :
    (columns.foldl (withColumn values) m).get? k = (if k ∈ columns then values.get? k else none).or (m.get? k) := by
  induction columns generalizing m with
  | nil => simp
  | cons column rest ih =>
    rw [List.foldl_cons, ih, get?_withColumn, ← Option.or_assoc]
    by_cases hk : column = k
    · subst hk
      by_cases hr : column ∈ rest <;> simp [hr]
    · simp [hk, Ne.symm hk]

theorem nodup_foldl_withColumn (values : Row) (columns : List String) {m : Row} (hm : (Assoc.keys m).Nodup) :
    (Assoc.keys (columns.foldl (withColumn values) m)).Nodup := by
  induction columns generalizing m with
  | nil => exact hm
  | cons column rest ih =>
    apply ih
    rw [withColumn]
    split
    · exact Assoc.nodup_put hm _ _
    · exact hm

theorem nodup_keyValues (key : List String) (values : Row) : (Assoc.keys (keyValues key values)).Nodup :=
  nodup_foldl_withColumn values key List.nodup_nil

theorem get?_writtenValues (hn : (Assoc.keys supplied).Nodup) {column : String} {v : Value} :
    (writtenValues key supplied).get? column = some v ↔
      supplied.get? column = some v ∧ (column ∈ key → v.isNull = false) := by
  rw [writtenValues, Assoc.get?_filter hn]
  simp [imp_iff_not_or]

/-- The key consists of the values for its columns that are not null. -/
theorem get?_keyValues (hn : (Assoc.keys supplied).Nodup) {column : String} {v : Value} :
    (keyValues key (writtenValues key supplied)).get? column = some v ↔
      column ∈ key ∧ supplied.get? column = some v ∧ v.isNull = false := by
  rw [keyValues_eq, get?_foldl_withColumn, Assoc.get?_nil, Option.or_none]
  by_cases hc : column ∈ key
  · simp [hc, get?_writtenValues hn]
  · simp [hc]

theorem mem_keyValues (hn : (Assoc.keys supplied).Nodup) {p : String × Value} :
    p ∈ keyValues key (writtenValues key supplied) ↔
      p.1 ∈ key ∧ supplied.get? p.1 = some p.2 ∧ p.2.isNull = false := by
  rw [← get?_keyValues hn, ← Assoc.mem_iff_get? (nodup_keyValues _ _)]

/-- The values that are left when the key is taken out. -/
def otherValues (key : List String) (values : Row) : Row := values.filter fun p => !(keyValues key values).has p.1

/-- There is a value for every column of the key, none of them null. -/
def Full (key : List String) (supplied : Row) : Prop :=
  ∀ column ∈ key, ∃ v, supplied.get? column = some v ∧ v.isNull = false

theorem has_keyValues (hn : (Assoc.keys supplied).Nodup) (column : String) :
    (keyValues key (writtenValues key supplied)).has column = true ↔
      column ∈ key ∧ ∃ v, supplied.get? column = some v ∧ v.isNull = false := by
  rw [← Assoc.get?_isSome, Option.isSome_iff_exists]
  simp only [get?_keyValues hn, exists_and_left]

/-- Whether a key with no column left out goes with the values. -/
def isFull (key : List String) (values : Row) : Bool := !key.isEmpty && (keyValues key values).length = key.length

theorem isFull_iff (hkey : key.Nodup) (hne : key ≠ []) (hn : (Assoc.keys supplied).Nodup) :
    isFull key (writtenValues key supplied) = true ↔ Full key supplied := by
  let columns := Assoc.keys (keyValues key (writtenValues key supplied))
  have hnodup : columns.Nodup := nodup_keyValues _ _
  have hmem (column : String) : column ∈ columns ↔
      column ∈ key ∧ ∃ v, supplied.get? column = some v ∧ v.isNull = false :=
    (Assoc.has_iff _ _).symm.trans (has_keyValues hn column)
  have hsub : columns ⊆ key := fun column hc => ((hmem column).1 hc).1
  have hfull : isFull key (writtenValues key supplied) = true ↔ columns.length = key.length := by
    simp [isFull, hne, columns, Assoc.keys]
  rw [hfull]
  constructor
  · intro h column hc
    have hperm : columns.Perm key := (List.subperm_of_subset hnodup hsub).perm_of_length_le (by omega)
    exact ((hmem column).1 (hperm.mem_iff.2 hc)).2
  · intro h
    have hperm : columns.Perm key := (List.perm_ext_iff_of_nodup hnodup hkey).2 fun column =>
      ⟨fun hc => hsub hc, fun hc => (hmem column).2 ⟨hc, h column hc⟩⟩
    exact hperm.length_eq

/-- With a full key, the other values are those for the columns outside it. -/
theorem get?_otherValues (hn : (Assoc.keys supplied).Nodup) (hfull : Full key supplied) :
    (otherValues key (writtenValues key supplied)).get? =
      fun column => if column ∈ key then none else supplied.get? column := by
  have hwritten : (Assoc.keys (writtenValues key supplied)).Nodup := Assoc.nodup_filter hn _
  funext column
  apply Option.ext
  intro v
  rw [otherValues, Assoc.get?_filter hwritten, get?_writtenValues hn]
  by_cases hc : column ∈ key
  · simp [(has_keyValues hn column).2 ⟨hc, hfull column hc⟩, hc]
  · have hno : (keyValues key (writtenValues key supplied)).has column = false :=
      Bool.not_eq_true _ ▸ fun h => hc ((has_keyValues hn column).1 h).1
    simp [hno, hc]

/-- The rows that meet the tests for a full key are those that have it. -/
theorem meetsAll_iff_hasKey {t : Store.StoredTable} {name : String} {bs : List Store.BoundTest}
    (h : t.KeyTests name (keyValues key (writtenValues key supplied)) bs) (hn : (Assoc.keys supplied).Nodup)
    (hk : t.KeyedBy key) (hfull : Full key supplied) (row : Store.Cells) :
    t.meetsAll bs row = true ↔ t.HasKey name key supplied.get? row := by
  have hnull : ∀ p ∈ keyValues key (writtenValues key supplied), p.2.isNull = false :=
    fun p hp => ((mem_keyValues hn).1 hp).2.2
  have hcolumns : ∀ p ∈ keyValues key (writtenValues key supplied), p.1 ∈ t.columns.map (·.name) :=
    fun p hp => hk.columns p.1 ((mem_keyValues hn).1 hp).1
  rw [h.meetsAll_iff hnull hk.shape.names (nodup_keyValues _ _) hcolumns row]
  constructor
  · intro hall column hc
    obtain ⟨v, hv, hvnull⟩ := hfull column hc
    exact ⟨v, hv, hvnull, hall (column, v) ((mem_keyValues hn).2 ⟨hc, hv, hvnull⟩)⟩
  · intro hall p hp
    obtain ⟨hc, hv, -⟩ := (mem_keyValues hn).1 hp
    obtain ⟨v, hv', -, hsatisfies⟩ := hall p.1 hc
    rwa [Option.some.inj (hv.symm.trans hv')]

/-- A full key does not vanish when its values are read. -/
theorem known_keyValues_ne_nil {t : Store.StoredTable} (hn : (Assoc.keys supplied).Nodup) (hk : t.KeyedBy key)
    (hfull : Full key supplied) (name : String) :
    t.known name (keyValues key (writtenValues key supplied)) ≠ .ok [] := by
  intro hknown
  obtain ⟨column, hc⟩ := List.exists_mem_of_ne_nil _ hk.nonempty
  obtain ⟨v, hv, hnull⟩ := hfull column hc
  obtain ⟨c, hcolumn, rfl⟩ := List.mem_map.1 (hk.columns column hc)
  have hkey := (get?_keyValues hn).2 ⟨hc, hv, hnull⟩
  obtain ⟨w, -, hget⟩ := Store.StoredTable.get?_coerceRow_of_some (Chain.mapError_eq_ok.1 hknown)
    (Store.StoredTable.column?_shape hk.shape.names name hcolumn) hkey
  cases hget

end Key

end TableGraph.Resolver
