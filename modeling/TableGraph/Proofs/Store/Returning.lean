import TableGraph.Proofs.Store.Numbered

/-! # Rows that are looked up again

Where a store hands no new rows back, a row that was inserted is looked up: by its key if all of it is known, and
otherwise by what was written. Tests for equality hold of the rows that have the values, as the store compares them
(`bindTests_equalities`). The new row has what was written if the columns find again what they keep
(`hasWritten_fill`), so a key that is known finds it (`lookUp_known`), and what was written finds the first row that has
it (`lookUp_written`).
-/
namespace TableGraph.Store
open Chain

/-- A cell has a value that was read, as the store compares them: they are equal, or both are null. -/
def StoredColumn.Has (c : StoredColumn) (read : Value) (cell : Cell) : Prop :=
  ∃ operand value, prepareOperand c.column.kind read = .ok operand ∧ accept operand = .ok value ∧
    holds c.affinity (if read.isNull then .isNull else .eq) cell value = true

/-- What a column keeps for a value has this value. -/
def StoredColumn.FindsAgain (c : StoredColumn) (v : Value) : Prop :=
  ∀ cell, c.KeepsAs v cell → ∃ read, c.column.coerce v = .ok read ∧ c.Has read cell

section Has
variable {c : StoredColumn} {v read : Value} {cell other : Cell}

theorem StoredColumn.Has.isNull_eq_false (h : c.Has read cell) (hread : read.isNull = false) : cell.isNull = false := by
  obtain ⟨operand, value, -, -, hholds⟩ := h
  simp only [hread, Bool.false_eq_true, if_false, holds, Bool.and_eq_true, Bool.not_eq_true'] at hholds
  exact hholds.1.1

/-- Cells that have the same value are the same. -/
theorem StoredColumn.Has.same (h : c.Has read cell) (h' : c.Has read other) (hread : read.isNull = false) :
    cell.same other = true := by
  obtain ⟨operand, value, hoperand, hvalue, hholds⟩ := h
  obtain ⟨operand', value', hoperand', hvalue', hholds'⟩ := h'
  obtain rfl := Except.ok.inj (hoperand.symm.trans hoperand')
  obtain rfl := Except.ok.inj (hvalue.symm.trans hvalue')
  simp only [hread, Bool.false_eq_true, if_false, holds, Bool.and_eq_true] at hholds hholds'
  exact Cell.same_trans hholds.2 (Cell.same_symm hholds'.2)

theorem Own.accepted {kind : ColumnKind} (ho : Own kind v cell) (hfits : ∀ n, cell = .int n → fits n = true) :
    ∃ operand taken, prepareOperand kind v = .ok operand ∧ accept operand = .ok taken := by
  cases ho with
  | int n => exact ⟨.int n, .int n, rfl, if_pos (hfits n rfl)⟩
  | _ => exact ⟨_, _, rfl, rfl⟩

theorem Own.isNull_eq {kind : ColumnKind} (ho : Own kind v cell) : cell.isNull = v.isNull := by
  cases ho <;> rfl

/-- An ordinary column finds again what it is given of its own kind. -/
theorem StoredColumn.findsAgain_of_ordinary (hc : c.Ordinary) (hv : Takes c.kind v) : c.FindsAgain v := by
  rintro cell ⟨read, prepared, taken, hread, hprepare, haccept, rfl⟩
  obtain ⟨own, ho⟩ := own_of_coerce hc hv hread
  obtain ⟨hstored, hfits⟩ := ho.stored hc hprepare haccept
  obtain ⟨operand, value, hoperand, hvalue⟩ := ho.accepted hfits
  have hsame := ho.operand hc hoperand hvalue
  have hnull := ho.isNull_eq
  have hoperand : prepareOperand c.column.kind read = .ok operand := by
    simpa only [StoredColumn.column] using hoperand
  refine ⟨read, hread, operand, value, hoperand, hvalue, ?_⟩
  rw [hstored]
  cases hread : read.isNull with
  | true => simp [holds, hnull, hread]
  | false => simp [holds, hsame, hnull, hread, Cell.same_refl]

end Has

namespace StoredTable
variable {t u : StoredTable} {name : String} {sought : Row}

/-! ## Tests for equality -/

/-- A row has all that is sought. -/
def HasAll (t : StoredTable) (sought : Row) (stored : Cells) : Prop :=
  ∀ c ∈ t.columns, ∀ w, (c.name, w) ∈ sought → c.Has w (t.cellAt stored c.name)

theorem mem_equalities_shape (hn : (t.columns.map (·.name)).Nodup) {comparison : Comparison} :
    comparison ∈ equalities (t.shape name) sought ↔ ∃ c ∈ t.columns, ∃ w, (c.name, w) ∈ sought ∧
      comparison = ⟨c.column, if w.isNull then .isNull else .eq, w⟩ := by
  rw [mem_equalities]
  constructor
  · rintro ⟨⟨column, w⟩, hm, found, hfound, rfl⟩
    have hname : found.name = column := by simpa using List.find?_some hfound
    obtain ⟨c, hc, rfl⟩ := List.mem_map.1 (List.mem_of_find?_eq_some hfound)
    obtain rfl : c.name = column := hname
    exact ⟨c, hc, w, hm, rfl⟩
  · rintro ⟨c, hc, w, hm, rfl⟩
    exact ⟨(c.name, w), hm, c.column, column?_shape hn name hc, rfl⟩

/-- The test for a value holds of the rows that have it. -/
theorem meets_iff_has (hn : (t.columns.map (·.name)).Nodup) {c : StoredColumn} (hc : c ∈ t.columns) {w : Value}
    {prepared : Comparison × Value} {b : BoundTest}
    (hprepare : prepareTest ⟨c.column, if w.isNull then .isNull else .eq, w⟩ = .ok prepared)
    (haccept : t.acceptTest prepared = .ok b) (stored : Cells) :
    t.meets stored b = true ↔ c.Has w (t.cellAt stored c.name) := by
  obtain ⟨operand, hoperand, rfl⟩ := map_eq_ok.1 hprepare
  obtain ⟨value, hvalue, rfl⟩ := map_eq_ok.1 haccept
  have hmeets : t.meets stored ⟨c.name, t.affinityAt c.name, if w.isNull then .isNull else .eq, value⟩ =
      holds c.affinity (if w.isNull then .isNull else .eq) (t.cellAt stored c.name) value := by
    rw [meets, affinityAt_of_mem hn hc]
  refine Iff.trans (Bool.eq_iff_iff.1 hmeets) ⟨fun h => ⟨operand, value, hoperand, hvalue, h⟩, ?_⟩
  rintro ⟨operand', value', hoperand', hvalue', h⟩
  obtain rfl := Except.ok.inj (hoperand.symm.trans hoperand')
  obtain rfl := Except.ok.inj (hvalue.symm.trans hvalue')
  exact h

/-- The tests for what is sought hold of just the rows that have all of it. -/
theorem meetsAll_iff_hasAll (hn : (t.columns.map (·.name)).Nodup) {bs : List BoundTest}
    (hbound : t.bindTests (equalities (t.shape name) sought) = .ok bs) (stored : Cells) :
    t.meetsAll bs stored = true ↔ t.HasAll sought stored := by
  obtain ⟨prepared, hprepared, -, hbs⟩ := bindTests_ok.1 hbound
  rw [meetsAll, List.all_eq_true]
  constructor
  · intro hmeets c hc w hw
    obtain ⟨p, hp, hprepare⟩ := exists_of_mem hprepared ((mem_equalities_shape hn).2 ⟨c, hc, w, hw, rfl⟩)
    obtain ⟨b, hb, haccept⟩ := exists_of_mem hbs hp
    exact (meets_iff_has hn hc hprepare haccept stored).1 (hmeets b hb)
  · intro hall b hb
    obtain ⟨p, hp, haccept⟩ := exists_of_mem_result hbs hb
    obtain ⟨comparison, hm, hprepare⟩ := exists_of_mem_result hprepared hp
    obtain ⟨c, hc, w, hw, rfl⟩ := (mem_equalities_shape hn).1 hm
    exact (meets_iff_has hn hc hprepare haccept stored).2 (hall c hc w hw)

/-- If a row has all that is sought, then the tests for it can be made, and they hold of just such rows. -/
theorem bindTests_equalities (name : String) (hn : (t.columns.map (·.name)).Nodup) (hlength : sought.length ≤ maxTests)
    (hpacked : ∀ c ∈ t.columns, ∀ w, (c.name, w) ∈ sought → cannotPack c.column.kind w = false) {row : Cells}
    (hrow : t.HasAll sought row) : ∃ bs, t.bindTests (equalities (t.shape name) sought) = .ok bs ∧
      ∀ stored, t.meetsAll bs stored = true ↔ t.HasAll sought stored := by
  obtain ⟨prepared, hprepared⟩ : ∃ prepared, (equalities (t.shape name) sought).mapM prepareTest = .ok prepared := by
    refine exists_mapM fun comparison hm => ?_
    obtain ⟨c, hc, w, hw, rfl⟩ := (mem_equalities_shape hn).1 hm
    obtain ⟨operand, -, hoperand, -⟩ := hrow c hc w hw
    exact ⟨_, map_eq_ok.2 ⟨operand, hoperand, rfl⟩⟩
  have horigin : ∀ p ∈ prepared, ∃ c ∈ t.columns, ∃ w, (c.name, w) ∈ sought ∧
      prepareTest ⟨c.column, if w.isNull then .isNull else .eq, w⟩ = .ok p := by
    intro p hp
    obtain ⟨comparison, hm, hprepare⟩ := exists_of_mem_result hprepared hp
    obtain ⟨c, hc, w, hw, rfl⟩ := (mem_equalities_shape hn).1 hm
    exact ⟨c, hc, w, hw, hprepare⟩
  obtain ⟨bs, hbs⟩ : ∃ bs, prepared.mapM t.acceptTest = .ok bs := by
    refine exists_mapM fun p hp => ?_
    obtain ⟨c, hc, w, hw, hprepare⟩ := horigin p hp
    obtain ⟨operand, value, hoperand, hvalue, -⟩ := hrow c hc w hw
    obtain ⟨operand', hoperand', rfl⟩ := map_eq_ok.1 hprepare
    obtain rfl := Except.ok.inj (hoperand.symm.trans hoperand')
    exact ⟨_, map_eq_ok.2 ⟨value, hvalue, rfl⟩⟩
  have hcheck : checkTests (equalities (t.shape name) sought) = .ok () := by
    have hfew : ¬ maxTests < (equalities (t.shape name) sought).length :=
      Nat.not_lt.2 (Nat.le_trans (List.length_filterMap_le _ _) hlength)
    have hpack : ((equalities (t.shape name) sought).any fun c => cannotPack c.column.kind c.value) = false := by
      rw [List.any_eq_false]
      intro comparison hm
      obtain ⟨c, hc, w, hw, rfl⟩ := (mem_equalities_shape hn).1 hm
      exact Bool.not_eq_true _ ▸ hpacked c hc w hw
    simp [checkTests, hfew, hpack]
  have hbound := bindTests_ok.2 ⟨prepared, hprepared, hcheck, hbs⟩
  exact ⟨bs, hbound, meetsAll_iff_hasAll hn hbound⟩

/-! ## What was written -/

section Written
variable {values known : Row} {stored : Cells}

theorem keys_coerceRow {shape : TableShape} (h : shape.coerceRow values = .ok known) :
    (Assoc.keys known).Sublist (Assoc.keys values) := by
  induction values generalizing known with
  | nil =>
    obtain rfl := Except.ok.inj h
    exact List.Sublist.refl _
  | cons p rest ih =>
    rw [TableShape.coerceRow] at h
    split at h
    · exact (ih h).trans (List.sublist_cons_self _ _)
    · obtain ⟨w, -, h⟩ := bind_eq_ok.1 h
      obtain ⟨more, hmore, h⟩ := bind_eq_ok.1 h
      obtain rfl := Except.ok.inj h
      exact (ih hmore).cons_cons _

/-- A row has all values that were written, as the store compares them. -/
def HasWritten (t : StoredTable) (values : Row) (stored : Cells) : Prop :=
  ∀ c ∈ t.columns, ∀ v, values.get? c.name = some v →
    ∃ read, c.column.coerce v = .ok read ∧ c.Has read (t.cellAt stored c.name)

theorem hasAll_known_iff (hn : (t.columns.map (·.name)).Nodup) (hvalues : (Assoc.keys values).Nodup)
    (hknown : t.known name values = .ok known) : t.HasAll known stored ↔ t.HasWritten values stored := by
  have hcoerced := mapError_eq_ok.1 hknown
  constructor
  · intro h c hc v hv
    obtain ⟨w, hw, hget⟩ := get?_coerceRow_of_some hcoerced (column?_shape hn name hc) hv
    exact ⟨w, hw, h c hc w (Assoc.mem_of_get? hget)⟩
  · intro h c hc w hw
    obtain ⟨d, v, hd, hv, hread⟩ := mem_coerceRow hcoerced hw
    obtain rfl : c.column = d := Option.some.inj ((column?_shape hn name hc).symm.trans hd)
    obtain ⟨read, hread', hhas⟩ := h c hc v (Assoc.get?_eq_some_of_mem hvalues hv)
    obtain rfl := Except.ok.inj (hread.symm.trans hread')
    exact hhas

/-- What is known of a row has at most one value for each column. -/
theorem length_known_le (hvalues : (Assoc.keys values).Nodup) (hknown : t.known name values = .ok known) :
    known.length ≤ t.columns.length := by
  have hcoerced := mapError_eq_ok.1 hknown
  have hnodup : (Assoc.keys known).Nodup := hvalues.sublist (keys_coerceRow hcoerced)
  have hsubset : Assoc.keys known ⊆ t.columns.map (·.name) := by
    intro column hcolumn
    obtain ⟨⟨k, w⟩, hw, rfl⟩ := List.mem_map.1 hcolumn
    obtain ⟨d, v, hd, -, -⟩ := mem_coerceRow hcoerced hw
    have hname : d.name = k := by simpa using List.find?_some hd
    obtain ⟨c, hc, rfl⟩ := List.mem_map.1 (List.mem_of_find?_eq_some hd)
    exact List.mem_map.2 ⟨c, hc, hname⟩
  simpa [Assoc.keys] using (List.subperm_of_subset hnodup hsubset).length_le

theorem cannotPack_known (hvalues : (Assoc.keys values).Nodup)
    (hknown : t.known name values = .ok known) (hpacked : t.checkPacked known = .ok ()) {c : StoredColumn}
    (hc : c ∈ t.columns) {w : Value} (hw : (c.name, w) ∈ known) : cannotPack c.column.kind w = false := by
  have hnodup : (Assoc.keys known).Nodup := hvalues.sublist (keys_coerceRow (mapError_eq_ok.1 hknown))
  unfold checkPacked at hpacked
  split at hpacked
  · cases hpacked
  · rename_i hnone
    have hm : (c, w) ∈ t.inOrder known := mem_inOrder.2 ⟨hc, Assoc.get?_eq_some_of_mem hnodup hw⟩
    have hkind : ¬ c.kind = .packedJson := by
      rw [Bool.not_eq_true, List.any_eq_false] at hnone
      simpa using hnone _ hm
    simp [cannotPack, StoredColumn.column, hkind]

end Written

/-! ## The row that was inserted -/

/-- What is written is found again: the columns find again what they keep for it, the number of the row is not written
as null, and a key that is told is the number of the row. -/
structure FindsWritten (t : StoredTable) (values : Row) : Prop where
  columns : ∀ c ∈ t.columns, ∀ v, values.get? c.name = some v → c.FindsAgain v
  number : ∀ pk v, t.numberColumn? = some pk → values.get? pk = some v → v.isNull = false
  told : ∀ column, t.toldKey? = some column → values.get? column = none → t.numberColumn? = some column

/-- All of the key of a new row is known: it is written, or it is told. -/
def KeyKnown (t : StoredTable) (values : Row) : Prop :=
  t.keyColumns ≠ [] ∧ ∀ c ∈ t.keyColumns,
    (values.get? c.name = none ∧ t.toldKey? = some c.name) ∨ ∃ v, values.get? c.name = some v ∧ v.isNull = false

section Added
variable {values known : Row} {row : Cells} {cells : Assoc String Cell}

theorem hasWritten_fill (hk : t.Kept) (hgiven : t.Given name values cells) (hfinds : t.FindsWritten values) :
    t.HasWritten values (t.fill cells) := by
  intro c hc v hv
  obtain ⟨cell, hcell, hkeeps⟩ := hgiven.get?_of_some hk.shape.names hc hv
  obtain ⟨read, hread, hhas⟩ := hfinds.columns c hc v hv _ hkeeps
  have hfilled : t.filled cells c = cell.stored c.affinity := by
    by_cases hnumber : t.numberColumn? = some c.name
    · have hnull := coerce_isNull (hfinds.number c.name v hnumber hv) hread
      exact filled_of_given hcell (hhas.isNull_eq_false hnull)
    · simp [filled, hcell, hnumber]
  rw [cellAt_fill hk.shape.names hc, hfilled]
  exact ⟨read, hread, hhas⟩

/-- What stands in the key of a new row was written, or it is the number that is told. -/
theorem mem_newKey (hn : (t.columns.map (·.name)).Nodup) {c : StoredColumn} (hc : c ∈ t.columns) {w : Value}
    (hw : (c.name, w) ∈ t.newKey known row) (hnull : w.isNull = false) :
    c ∈ t.keyColumns ∧ ((c.name, w) ∈ known ∨
      known.get? c.name = none ∧ t.toldKey? = some c.name ∧ w = .int (t.toldNumber row)) := by
  obtain ⟨d, hd, he⟩ := List.mem_map.1 hw
  obtain ⟨hname, rfl⟩ := Prod.mk.inj he
  obtain rfl : d = c := List.inj_on_of_nodup_map hn (List.mem_filter.1 hd).1 hc hname
  refine ⟨hd, ?_⟩
  cases hget : known.get? d.name with
  | some w => exact .inl (Assoc.mem_of_get? hget)
  | none =>
    rw [hget, Option.getD_none] at hnull
    split at hnull
    · rename_i htold
      exact .inr ⟨rfl, htold, by rw [Option.getD_none, if_pos htold]⟩
    · cases hnull

theorem toldKey?_eq_some {column : String} (h : t.toldKey? = some column) :
    ∃ c ∈ t.columns, c.name = column ∧ c.kind = .integer := by
  unfold toldKey? at h
  split at h
  · rename_i c hkey
    split at h
    · rename_i htold
      have hc : c ∈ t.keyColumns := hkey ▸ List.mem_singleton_self c
      simp only [Bool.and_eq_true, decide_eq_true_eq] at htold
      exact ⟨c, (List.mem_filter.1 hc).1, Option.some.inj h, htold.1.1⟩
    · cases h
  · cases h

theorem get?_none_of_known (hn : (t.columns.map (·.name)).Nodup) (hknown : t.known name values = .ok known)
    {c : StoredColumn} (hc : c ∈ t.columns) (hnone : known.get? c.name = none) : values.get? c.name = none := by
  cases hv : values.get? c.name with
  | none => rfl
  | some v =>
    obtain ⟨w, -, hget⟩ := get?_coerceRow_of_some (mapError_eq_ok.1 hknown) (column?_shape hn name hc) hv
    cases hnone.symm.trans hget

theorem has_int {c : StoredColumn} (haffinity : c.affinity = .integer) {n : Int} (hfits : fits n = true) :
    c.Has (.int n) (.int n) := by
  refine ⟨.int n, .int n, rfl, ?_, ?_⟩
  · simp only [Value.int, accept, hfits, if_true]
  · simp [haffinity, holds, Value.int, Value.isNull, Cell.operand, Cell.asNumber, Cell.isNull]

/-- Null is read as null. -/
theorem isNull_of_coerce {c : Column} {v w : Value} (h : c.coerce v = .ok w) (hw : w.isNull = false) :
    v.isNull = false := by
  cases v with
  | scalar s =>
    cases s with
    | null =>
      obtain rfl := Except.ok.inj h
      exact hw
    | _ => rfl
  | _ => rfl

/-- A key by which a row can be looked up: there is one, and all of it is given. -/
def Usable (key : Row) : Prop := key ≠ [] ∧ ∀ p ∈ key, p.2.isNull = false

theorem usable_iff {key : Row} : (!key.isEmpty && key.all fun p => !p.2.isNull) = true ↔ Usable key := by
  simp [Usable]

/-- The key of a new row can be used just if it is known. -/
theorem usable_newKey_iff (hn : (t.columns.map (·.name)).Nodup) (hknown : t.known name values = .ok known)
    (row : Cells) : Usable (t.newKey known row) ↔ t.KeyKnown values := by
  have hcoerced := mapError_eq_ok.1 hknown
  have hempty : t.newKey known row ≠ [] ↔ t.keyColumns ≠ [] := not_congr List.map_eq_nil_iff
  rw [Usable, hempty, newKey, List.forall_mem_map]
  refine and_congr_right fun _ => forall₂_congr fun c hc => ?_
  have hc : c ∈ t.columns := (List.mem_filter.1 hc).1
  cases hv : values.get? c.name with
  | none =>
    rw [get?_coerceRow_of_none hcoerced hv, Option.getD_none]
    by_cases htold : t.toldKey? = some c.name
    · rw [if_pos htold]
      exact iff_of_true rfl (.inl ⟨rfl, htold⟩)
    · rw [if_neg htold]
      refine iff_of_false Bool.noConfusion ?_
      rintro (⟨-, h⟩ | ⟨v, hsome, -⟩)
      · exact htold h
      · cases hsome
  | some v =>
    obtain ⟨w, hw, hget⟩ := get?_coerceRow_of_some hcoerced (column?_shape hn name hc) hv
    rw [hget, Option.getD_some]
    constructor
    · exact fun hnull => .inr ⟨v, rfl, isNull_of_coerce hw hnull⟩
    · rintro (⟨h, -⟩ | ⟨x, hx, hnull⟩)
      · cases h
      · obtain rfl := Option.some.inj hx
        exact coerce_isNull hnull hw

/-- The new row has the key that it is looked up by. -/
theorem hasAll_newKey (hn : (t.columns.map (·.name)).Nodup) (hall : t.HasAll known row)
    (husable : Usable (t.newKey known row))
    (htold : ∀ column, t.toldKey? = some column → known.get? column = none → t.numberColumn? = some column ∧
      ∃ n, t.cellAt row column = .int n ∧ fits n = true) : t.HasAll (t.newKey known row) row := by
  intro c hc w hw
  obtain ⟨-, hwritten | ⟨hnone, hkey, rfl⟩⟩ := mem_newKey hn hc hw (husable.2 _ hw)
  · exact hall c hc w hwritten
  · obtain ⟨hnumber, n, hcell, hfits⟩ := htold c.name hkey hnone
    obtain ⟨d, -, hd, hname, -, haffinity⟩ := numberColumn?_eq_some hnumber
    obtain rfl : d = c := List.inj_on_of_nodup_map hn hd hc hname
    have hread : t.toldNumber row = n := by
      simp only [toldNumber, rowNumber?, hnumber, hcell, Option.getD_some]
    rw [hcell, hread]
    exact has_int haffinity hfits

end Added

/-! ## The row that is found -/

section Found
variable {known : Row} {row : Cells}

theorem lookUp_of_usable (h : Usable (t.newKey known row)) {bs : List BoundTest}
    (hbs : t.bindTests (equalities (t.shape name) (t.newKey known row)) = .ok bs) :
    t.lookUp name known row = t.firstOf bs := by
  simp only [lookUp, usable_iff.2 h, if_true, hbs]
  rfl

theorem lookUp_of_unusable (h : ¬ Usable (t.newKey known row)) {bs : List BoundTest}
    (hbs : t.bindTests (equalities (t.shape name) known) = .ok bs) : t.lookUp name known row = t.firstOf bs := by
  simp only [lookUp, mt usable_iff.1 h, Bool.false_eq_true, if_false, hbs]
  rfl

/-- Two rows that have the key agree in it, so the tests for it leave one row. -/
theorem chosen_of_usable (hk : t.Kept) (husable : Usable (t.newKey known row)) {bs : List BoundTest}
    (hbs : t.bindTests (equalities (t.shape name) (t.newKey known row)) = .ok bs) (hrow : row ∈ t.rows)
    (hall : t.HasAll (t.newKey known row) row) : t.chosen bs = [row] := by
  have hmeets := meetsAll_iff_hasAll hk.shape.names hbs
  have hne : t.keyColumns ≠ [] := fun hnil => husable.1 (List.map_eq_nil_iff.2 hnil)
  refine chosen_of_apart (hk.apart hne) (fun x y hx hy => ?_) hrow ((hmeets row).2 hall)
  have hx := (hmeets x).1 hx
  have hy := (hmeets y).1 hy
  rw [Bool.not_eq_false, agree, List.all_eq_true]
  intro column hcolumn
  obtain ⟨c, hc, rfl⟩ := List.mem_map.1 hcolumn
  have hm : c ∈ t.columns := (List.mem_filter.1 hc).1
  have hw := List.mem_map_of_mem (f := fun c : StoredColumn => (c.name, (known.get? c.name).getD
    (if t.toldKey? = some c.name then .int (t.toldNumber row) else .null))) hc
  have hnull := husable.2 _ hw
  simp [(hx c hm _ hw).isNull_eq_false hnull, (hx c hm _ hw).same (hy c hm _ hw) hnull]

/-- A row whose key is known is the one that is found. -/
theorem lookUp_known (hk : t.Kept) (hfew : t.columns.length ≤ maxTests)
    (hpacked : ∀ c ∈ t.columns, ∀ w, (c.name, w) ∈ known → cannotPack c.column.kind w = false)
    (husable : Usable (t.newKey known row)) (hrow : row ∈ t.rows) (hall : t.HasAll (t.newKey known row) row) :
    t.lookUp name known row = (t.readRow row).map some := by
  have hn := hk.shape.names
  have hlength : (t.newKey known row).length ≤ maxTests := by
    rw [newKey, List.length_map]
    exact Nat.le_trans (List.length_filter_le _ _) hfew
  obtain ⟨bs, hbs, -⟩ := bindTests_equalities name hn hlength (fun c hc w hw => by
    obtain ⟨-, hwritten | ⟨-, hkey, -⟩⟩ := mem_newKey hn hc hw (husable.2 _ hw)
    · exact hpacked c hc w hwritten
    · obtain ⟨d, hd, hname, hkind⟩ := toldKey?_eq_some hkey
      obtain rfl : d = c := List.inj_on_of_nodup_map hn hd hc hname
      simp [cannotPack, StoredColumn.column, hkind]) hall
  rw [lookUp_of_usable husable hbs, firstOf, chosen_of_usable hk husable hbs hrow hall]

/-- A row whose key is not known is looked up by what was written, and the first row that has it is found. -/
theorem lookUp_written (hn : (t.columns.map (·.name)).Nodup) (hlength : known.length ≤ maxTests)
    (hpacked : ∀ c ∈ t.columns, ∀ w, (c.name, w) ∈ known → cannotPack c.column.kind w = false)
    (husable : ¬ Usable (t.newKey known row)) (hrow : row ∈ t.rows) (hall : t.HasAll known row) :
    ∃ skipped found rest, t.rows = skipped ++ found :: rest ∧ (∀ other ∈ skipped, ¬ t.HasAll known other) ∧
      t.HasAll known found ∧ t.lookUp name known row = (t.readRow found).map some := by
  obtain ⟨bs, hbs, hmeets⟩ := bindTests_equalities name hn hlength hpacked hall
  obtain ⟨found, hfound⟩ : ∃ found, t.rows.find? (t.meetsAll bs) = some found :=
    Option.isSome_iff_exists.1 (List.find?_isSome.2 ⟨row, hrow, (hmeets row).2 hall⟩)
  obtain ⟨hhas, skipped, rest, hrows, hskipped⟩ := List.find?_eq_some_iff_append.1 hfound
  have hskipped : ∀ other ∈ skipped, ¬ t.meetsAll bs other = true := fun other ho => by simpa using hskipped other ho
  refine ⟨skipped, found, rest, hrows, fun other ho h => ?_, (hmeets found).1 hhas, ?_⟩
  · exact hskipped other ho ((hmeets other).2 h)
  · have hchosen : t.chosen bs = found :: rest.filter (t.meetsAll bs) := by
      rw [chosen, hrows, List.filter_append, List.filter_eq_nil_iff.2 hskipped, List.nil_append,
        List.filter_cons_of_pos hhas]
    rw [lookUp_of_unusable husable hbs, firstOf, hchosen]

end Found

/-! ## Inserts that tell the row and inserts that look it up -/

/-- A table in which what an insert writes can be looked up: its rows are kept as a store keeps them, one that has row
numbers is numbered, a look-up may test all of its columns at once, and what is written is found again. -/
structure CanFind (t : StoredTable) (values : Row) : Prop where
  kept : t.Kept
  numbers : ∀ pk, t.numberColumn? = some pk → t.NumberedBy pk
  few : t.columns.length ≤ maxTests
  finds : t.FindsWritten values

/-- The row that is found when a new row is looked up: itself if its key is known, and otherwise the first row that has
what was written. -/
inductive FoundAs (t u : StoredTable) (values : Row) (row : Cells) : Cells → Prop where
  | known (hkey : t.KeyKnown values) : t.FoundAs u values row row
  | written {skipped rest : List Cells} {found : Cells} (hkey : ¬ t.KeyKnown values)
      (hrows : u.rows = skipped ++ found :: rest) (hskipped : ∀ other ∈ skipped, ¬ t.HasWritten values other)
      (hfound : t.HasWritten values found) : t.FoundAs u values row found

section Found
variable {values known : Row} {row found : Cells} {cells : Assoc String Cell}

theorem Added.lookUp (h : t.Added name values known row u cells) (hvalues : (Assoc.keys values).Nodup)
    (hc : t.CanFind values) :
    ∃ found, t.FoundAs u values row found ∧ u.lookUp name known row = (t.readRow found).map some := by
  have hn := hc.kept.shape.names
  have hpacked : ∀ c ∈ t.columns, ∀ w, (c.name, w) ∈ known → cannotPack c.column.kind w = false :=
    fun c hm w hw => cannotPack_known hvalues h.reads h.unpacked hm hw
  have hlength := Nat.le_trans (length_known_le hvalues h.reads) hc.few
  have hwritten := hasWritten_fill hc.kept h.given hc.finds
  obtain ⟨rfl, rfl, -, hapart⟩ := insert?_ok h.inserted
  have hrow : t.fill cells ∈ t.place (t.fill cells) t.rows := (t.place_perm _ _).mem_iff.2 List.mem_cons_self
  have hall : t.HasAll known (t.fill cells) := (hasAll_known_iff hn hvalues h.reads).2 hwritten
  let v : StoredTable := { t with rows := t.place (t.fill cells) t.rows }
  have hkept : v.Kept := hc.kept.place hapart
  have husable := usable_newKey_iff (t := v) hn h.reads (t.fill cells)
  by_cases hkey : t.KeyKnown values
  · have hgiven := husable.2 hkey
    refine ⟨_, .known hkey, lookUp_known (t := v) hkept hc.few hpacked hgiven hrow
      (hasAll_newKey (t := v) hn hall hgiven fun column htold hnone => ?_)⟩
    obtain ⟨c, hm, rfl, -⟩ := toldKey?_eq_some (t := t) htold
    have hunwritten := get?_none_of_known hn h.reads hm hnone
    have hnumber := hc.finds.told c.name htold hunwritten
    have hnumbers := hc.numbers c.name hnumber
    exact ⟨hnumber, _, hnumbers.cellAt_fill_next h.given hunwritten, hnumbers.fits_nextNumber⟩
  · obtain ⟨skipped, found, rest, hrows, hskipped, hfound, hlookUp⟩ :=
      lookUp_written (t := v) hn hlength hpacked (fun h => hkey (husable.1 h)) hrow hall
    refine ⟨found, .written hkey hrows (fun other ho hw => ?_) ?_, hlookUp⟩
    · exact hskipped other ho ((hasAll_known_iff hn hvalues h.reads).2 hw)
    · exact (hasAll_known_iff hn hvalues h.reads).1 hfound

/-- A row that is found reads as the new row if the key is known, or if all rows do that have what was written. -/
theorem FoundAs.readRow_eq (hf : t.FoundAs u values row found) (hrows : ∀ other ∈ u.rows, other = row ∨ other ∈ t.rows)
    (halike : t.KeyKnown values ∨ ∀ other ∈ t.rows, t.HasWritten values other → t.readRow other = t.readRow row) :
    t.readRow found = t.readRow row := by
  cases hf with
  | known => rfl
  | written hkey hu _ hfound =>
    rcases hrows found (hu ▸ List.mem_append_right _ List.mem_cons_self) with rfl | hm
    · rfl
    · exact (halike.resolve_left hkey) found hm hfound

theorem insert_of_add {returning : Bool} (hadd : t.add name values = .ok (known, row, u)) {read : Except Failure Row}
    (htell : u.tell returning name known row = read.map some) :
    t.insert returning name values = read.map fun found => (some found, u) := by
  rw [insert_eq, hadd]
  change (u.tell returning name known row >>= fun found => pure (found, u)) = _
  rw [htell]
  cases read <;> rfl

end Found

end StoredTable

namespace Database
variable {db : Database} {names : List String} {table : Option String} {name : String} {t u : StoredTable}
  {values known : Row} {row : Cells} {e : Failure}

/-- What a store answers that has added a row to a table and reads one to tell it. If that fails, nothing is added. -/
def tells (db : Database) (u : StoredTable) : Except Failure Row → Except Failure (Option Row) × Database
  | .error e => (.error e, db)
  | .ok row => (.ok (some row), db.replace u)

theorem tells_returning (db : Database) (returning : Bool) (u : StoredTable) (read : Except Failure Row) :
    { db with returning }.tells u read = ((db.tells u read).1, { (db.tells u read).2 with returning }) := by
  cases read <;> rfl

theorem answer_insert_error (hnamed : db.tableNamed names table = .ok (name, t)) (hadd : t.add name values = .error e) :
    db.answer names (.insert table values) = (.error e, db) := by
  simp only [answer, write, hnamed, StoredTable.insert_eq, hadd]
  rfl

theorem answer_insert_ok (hnamed : db.tableNamed names table = .ok (name, t))
    (hadd : t.add name values = .ok (known, row, u)) (read : Except Failure Row)
    (htell : u.tell db.returning name known row = read.map some) :
    db.answer names (.insert table values) = db.tells u read := by
  simp only [answer, write, hnamed, StoredTable.insert_of_add hadd htell]
  cases read <;> rfl

/-- A store that hands new rows back and one that looks them up refuse the same inserts and add the same rows. The
first tells a row as it hands it back, the second tells the row that it finds. Each takes the new row out again if the
row that it is to tell cannot be read, so the two may come to different tables where only one of these can be. They tell
the same and come to the same if the new row is handed back as it is read, and if its key is known or all rows that have
what was written are read alike. -/
theorem insert_told_alike (db : Database) (names : List String) (table : Option String) {values : Row}
    (hvalues : (Assoc.keys values).Nodup)
    (hfind : ∀ name t, db.tableNamed names table = .ok (name, t) → t.CanFind values) :
    (∃ e, ∀ returning, { db with returning }.answer names (.insert table values) = (.error e, { db with returning })) ∨
    ∃ name t known row u cells found, db.tableNamed names table = .ok (name, t) ∧
      t.Added name values known row u cells ∧ t.FoundAs u values row found ∧
      { db with returning := true }.answer names (.insert table values) =
        { db with returning := true }.tells u (t.readRow (t.echoRow row)) ∧
      { db with returning := false }.answer names (.insert table values) =
        { db with returning := false }.tells u (t.readRow found) ∧
      (t.readRow (t.echoRow row) = t.readRow row →
        (t.KeyKnown values ∨ ∀ other ∈ t.rows, t.HasWritten values other → t.readRow other = t.readRow row) →
        ∀ returning, { db with returning }.answer names (.insert table values) =
          { db with returning }.tells u (t.readRow row)) := by
  cases hnamed : db.tableNamed names table with
  | error e =>
    refine .inl ⟨e, fun returning => ?_⟩
    have hnamed : { db with returning }.tableNamed names table = .error e := hnamed
    simp only [answer, write, hnamed]
  | ok p =>
    obtain ⟨name, t⟩ := p
    have hnamed' (returning : Bool) : { db with returning }.tableNamed names table = .ok (name, t) := hnamed
    cases hadd : t.add name values with
    | error e => exact .inl ⟨e, fun returning => answer_insert_error (hnamed' returning) hadd⟩
    | ok added =>
      obtain ⟨known, row, u⟩ := added
      obtain ⟨cells, hadded⟩ := StoredTable.add_ok hadd
      obtain ⟨found, hfound, hlookUp⟩ := hadded.lookUp hvalues (hfind name t hnamed)
      obtain ⟨rfl, rfl, -, -⟩ := StoredTable.insert?_ok hadded.inserted
      have htold := answer_insert_ok (hnamed' true) hadd (t.readRow (t.echoRow (t.fill cells))) rfl
      have hlooked := answer_insert_ok (hnamed' false) hadd _ hlookUp
      refine .inr ⟨name, t, known, _, _, cells, found, rfl, hadded, hfound, htold, hlooked, fun hecho halike => ?_⟩
      have hsame := hfound.readRow_eq (fun other ho => List.mem_cons.1 ((t.place_perm _ _).mem_iff.1 ho)) halike
      rintro (_ | _)
      · rw [hlooked, hsame]
      · rw [htold, hecho]

/-- Tags with their weights, which are 7 where none is written. The table has no key. -/
def tags (rows : List Cells) : StoredTable where
  name := "tags"
  columns :=
    [{ name := "label", declared := "TEXT" }, { name := "weight", declared := "INTEGER", default := some (.int 7) }]
  rows

def tagged (rows : List Cells) (returning : Bool) : Database where
  tables := [tags rows]
  returning

/-- A tag whose label is new is told with its default weight, whether it is handed back or looked up. -/
theorem new_tag_told_alike :
    (tags [[.text "a", .int 3]]).CanFind [("label", .text "b")] ∧ ∀ returning,
      (tagged [[.text "a", .int 3]] returning).answer ["tags"] (.insert (some "tags") [("label", .text "b")]) =
        (.ok (some [("label", .text "b"), ("weight", .int 7)]),
          tagged [[.text "a", .int 3], [.text "b", .int 7]] returning) := by
  have hkept : (tags [[.text "a", .int 3]]).Kept := by
    refine ⟨⟨by decide, fun row hrow => ?_⟩, fun hkey => absurd rfl hkey⟩
    obtain rfl := List.mem_singleton.1 hrow
    rfl
  have hordinary : ∀ c ∈ (tags [[.text "a", .int 3]]).columns, c.Ordinary := by
    intro c hc
    refine StoredColumn.ordinary_of_declared ?_
    rcases List.mem_cons.1 hc with rfl | hc
    · decide
    · obtain rfl := List.mem_singleton.1 hc
      decide
  have hfind : (tags [[.text "a", .int 3]]).CanFind [("label", .text "b")] := by
    refine ⟨hkept, fun pk h => ?_, by decide, fun c hc v hv => ?_, fun pk v h => ?_, fun column h => ?_⟩
    · cases h
    · have htext : v = .text "b" := by
        rw [Assoc.get?_cons] at hv
        split at hv
        · exact (Option.some.inj hv).symm
        · cases hv
      exact StoredColumn.findsAgain_of_ordinary (hordinary c hc) (htext ▸ .text _ _)
    · cases h
    · cases h
  refine ⟨hfind, ?_⟩
  have hnamed {name : String} {t : StoredTable}
      (h : (tagged [[.text "a", .int 3]] true).tableNamed ["tags"] (some "tags") = .ok (name, t)) :
      t = tags [[.text "a", .int 3]] := (Prod.mk.inj (Except.ok.inj h)).2.symm
  have hvalues : (Assoc.keys [("label", Value.text "b")]).Nodup := by decide
  rcases insert_told_alike (tagged [[.text "a", .int 3]] true) ["tags"] (some "tags") hvalues
    (fun name t h => hnamed h ▸ hfind) with hrefused | hadded
  · obtain ⟨e, hrefused⟩ := hrefused
    cases hrefused true
  · obtain ⟨name, t, known, row, u, cells, found, ht, hadded, -, htold, -, halike⟩ := hadded
    obtain rfl := hnamed ht
    obtain ⟨rfl, -, -, -⟩ := StoredTable.insert?_ok hadded.inserted
    have hecho := StoredTable.echoRow_of_ordinary hordinary (StoredTable.length_fill _ cells)
    have hsame := halike (by rw [hecho]) (.inr fun other hother hwritten => ?_)
    · intro returning
      have htells : (tagged [[.text "a", .int 3]] true).tells u _ =
          (.ok (some [("label", .text "b"), ("weight", .int 7)]),
            tagged [[.text "a", .int 3], [.text "b", .int 7]] true) := (hsame true).symm
      refine (hsame returning).trans ((tells_returning _ returning u _).trans ?_)
      rw [htells]
      rfl
    · -- the tag that there is has another label
      obtain rfl := List.mem_singleton.1 hother
      obtain ⟨read, hread, operand, value, hoperand, hvalue, hholds⟩ := hwritten _ List.mem_cons_self _ rfl
      obtain rfl := Except.ok.inj hread
      obtain rfl := Except.ok.inj hoperand
      obtain rfl := Except.ok.inj hvalue
      cases hholds

/-- If there is a tag with the label, then this one is found when the new one is looked up. -/
theorem old_tag_found :
    let outcome (returning : Bool) :=
      (tagged [[.text "a", .int 3]] returning).answer ["tags"] (.insert (some "tags") [("label", .text "a")])
    (outcome true).1 = .ok (some [("label", .text "a"), ("weight", .int 7)]) ∧
      (outcome false).1 = .ok (some [("label", .text "a"), ("weight", .int 3)]) ∧
      (outcome false).2.tables = (outcome true).2.tables := by
  exact ⟨rfl, rfl, rfl⟩

end Database
end TableGraph.Store
