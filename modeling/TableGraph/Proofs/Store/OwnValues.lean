import TableGraph.Value.Order
import TableGraph.Proofs.Store.Keeping

/-! # Columns and values of their own kind

An ordinary column holds integers, texts or booleans. It is given null, a text or a value of its own kind, and then
what it reads is one of its own kind (`own_of_coerce`), which one cell stands for (`Own`). A column keeps the value as
this cell (`Own.stored`), compares with this cell (`Own.operand`), and reads the cell as the value (`Own.read`).
-/
namespace TableGraph.Store
open Chain

/-- A column of integers, of texts or of booleans. -/
def StoredColumn.Ordinary (c : StoredColumn) : Prop :=
  (c.kind = .integer ∧ c.affinity = .integer) ∨ (c.kind = .plain ∧ c.affinity = .text) ∨
    (c.kind = .boolean ∧ c.affinity = .numeric)

/-- What a declaration makes of a column does not depend on the case or the spaces around it. -/
theorem StoredColumn.kind_of_declaration {c : StoredColumn} {b : String}
    (h : declaration c.declared = declaration b) :
    c.kind = (DeclaredType.ofText b).kind ∧ c.affinity = affinityOf b := by
  simp only [StoredColumn.kind, StoredColumn.type, DeclaredType.ofText, StoredColumn.affinity, affinityOf, h, and_self]

theorem StoredColumn.integer_of_declaration {c : StoredColumn} (h : declaration c.declared = "INTEGER".toList) :
    c.kind = .integer ∧ c.affinity = .integer := by
  have hsame : "INTEGER".toList = declaration "INTEGER" := by decide +kernel
  obtain ⟨hkind, haffinity⟩ := kind_of_declaration (h.trans hsame)
  exact ⟨hkind.trans (by decide +kernel), haffinity.trans (by decide +kernel)⟩

theorem StoredColumn.ordinary_of_declared {c : StoredColumn} (h : c.declared ∈ ["INTEGER", "TEXT", "BOOLEAN"]) :
    c.Ordinary := by
  have hall : ∀ declared ∈ ["INTEGER", "TEXT", "BOOLEAN"],
      (⟨"", declared, false, true, none⟩ : StoredColumn).Ordinary := by
    unfold StoredColumn.Ordinary
    decide +kernel
  obtain ⟨name, declared, primary, nullable, default⟩ := c
  exact hall declared h

/-- Null, a text, or a value of the kind itself. -/
inductive Takes : ColumnKind → Value → Prop where
  | null (kind : ColumnKind) : Takes kind .null
  | text (kind : ColumnKind) (s : String) : Takes kind (.text s)
  | int (n : Int) : Takes .integer (.int n)
  | bool (b : Bool) : Takes .boolean (.bool b)

/-- A value of a kind itself and the cell that stands for it. -/
inductive Own : ColumnKind → Value → Cell → Prop where
  | null (kind : ColumnKind) : Own kind .null .null
  | int (n : Int) : Own .integer (.int n) (.int n)
  | text (s : String) : Own .plain (.text s) (.text s)
  | bool (b : Bool) : Own .boolean (.bool b) (.int (if b then 1 else 0))

section Own
variable {c : StoredColumn} {v value prepared : Value} {cell taken x : Cell}

theorem accept_int {n : Int} (h : accept (.int n) = .ok taken) : taken = .int n ∧ fits n = true := by
  simp only [Value.int, accept] at h
  split at h
  · rename_i hfits
    exact ⟨(Except.ok.inj h).symm, hfits⟩
  · cases h

theorem own_of_coerce (hc : c.Ordinary) (hv : Takes c.kind v) (h : c.column.coerce v = .ok value) :
    ∃ cell, Own c.kind value cell := by
  have htext {s : String} (h : c.column.coerce (.text s) = .ok value) : ∃ cell, Own c.kind value cell := by
    rw [Column.coerce_text] at h
    obtain ⟨x, hx, rfl⟩ := map_eq_ok.1 h
    simp only [Column.coerceText, StoredColumn.column] at hx
    rcases hc with ⟨hkind, -⟩ | ⟨hkind, -⟩ | ⟨hkind, -⟩
    · simp only [hkind, ColumnKind.reading, ColumnKind.readText?] at hx ⊢
      cases hread : Number.readInt? (Text.trim s.toList) with
      | none => simp [hread] at hx
      | some n =>
        simp only [hread, Option.map_some, Except.ok.injEq] at hx
        subst hx
        exact ⟨_, .int n⟩
    · simp only [hkind, ColumnKind.reading, Except.ok.injEq] at hx ⊢
      subst hx
      exact ⟨_, .text s⟩
    · simp only [hkind, ColumnKind.reading, ColumnKind.readText?] at hx ⊢
      cases hread : readBoolean? (Text.trim s.toList) with
      | none => simp [hread] at hx
      | some b =>
        simp only [hread, Option.map_some, Except.ok.injEq] at hx
        subst hx
        exact ⟨_, .bool b⟩
  generalize hkind : c.kind = kind at hv
  cases hv with
  | null =>
    obtain rfl := Except.ok.inj h
    exact ⟨_, .null _⟩
  | text => exact hkind ▸ htext h
  | int n =>
    obtain rfl := Except.ok.inj h
    exact ⟨_, .int n⟩
  | bool b =>
    obtain rfl := Except.ok.inj h
    exact ⟨_, .bool b⟩

/-- The affinity of an ordinary column goes with its kind. -/
theorem StoredColumn.Ordinary.affinity_eq (hc : c.Ordinary) :
    (c.kind = .integer → c.affinity = .integer) ∧ (c.kind = .plain → c.affinity = .text) ∧
      (c.kind = .boolean → c.affinity = .numeric) := by
  rcases hc with ⟨hkind, haffinity⟩ | ⟨hkind, haffinity⟩ | ⟨hkind, haffinity⟩ <;> simp [hkind, haffinity]

theorem Cell.stored_null (a : Affinity) : Cell.null.stored a = .null := by cases a <;> rfl

/-- An ordinary column keeps a value of its own kind as the cell that stands for it. -/
theorem Own.stored (ho : Own c.kind value cell) (hc : c.Ordinary) (hprepare : prepare c.kind value = .ok prepared)
    (haccept : accept prepared = .ok taken) : taken.stored c.affinity = cell ∧ ∀ n, cell = .int n → fits n = true := by
  obtain ⟨hinteger, hplain, hboolean⟩ := hc.affinity_eq
  have hnull : prepare c.kind .null = .ok .null := by
    rcases hc with ⟨hkind, -⟩ | ⟨hkind, -⟩ | ⟨hkind, -⟩ <;> rw [hkind] <;> rfl
  generalize c.kind = kind at ho hprepare hinteger hplain hboolean hnull
  cases ho with
  | null =>
    obtain rfl := Except.ok.inj (hnull.symm.trans hprepare)
    obtain rfl := Except.ok.inj haccept
    exact ⟨Cell.stored_null _, fun n h => nomatch h⟩
  | int n =>
    obtain rfl := Except.ok.inj hprepare
    obtain ⟨rfl, hfits⟩ := accept_int haccept
    rw [hinteger rfl]
    exact ⟨rfl, fun m h => Cell.int.inj h ▸ hfits⟩
  | text s =>
    obtain rfl := Except.ok.inj hprepare
    obtain rfl := Except.ok.inj haccept
    rw [hplain rfl]
    exact ⟨rfl, fun n h => nomatch h⟩
  | bool b =>
    obtain rfl := Except.ok.inj hprepare
    obtain ⟨rfl, hfits⟩ := accept_int haccept
    rw [hboolean rfl]
    exact ⟨rfl, fun m h => Cell.int.inj h ▸ hfits⟩

/-- What is compared with a column is the cell that stands for it. -/
theorem Own.operand (ho : Own c.kind value cell) (hc : c.Ordinary)
    (hprepare : prepareOperand c.kind value = .ok prepared) (haccept : accept prepared = .ok taken) :
    taken.operand c.affinity = cell := by
  obtain ⟨hinteger, hplain, hboolean⟩ := hc.affinity_eq
  generalize c.kind = kind at ho hprepare hinteger hplain hboolean
  cases ho with
  | null =>
    obtain rfl := Except.ok.inj hprepare
    obtain rfl := Except.ok.inj haccept
    cases c.affinity <;> rfl
  | int n =>
    obtain rfl := Except.ok.inj hprepare
    obtain ⟨rfl, -⟩ := accept_int haccept
    rw [hinteger rfl]
    rfl
  | text s =>
    obtain rfl := Except.ok.inj hprepare
    obtain rfl := Except.ok.inj haccept
    rw [hplain rfl]
    rfl
  | bool b =>
    obtain rfl := Except.ok.inj hprepare
    obtain rfl := Except.ok.inj haccept
    rw [hboolean rfl]
    rfl

theorem Own.read (ho : Own c.kind value cell) : readCell c.kind cell = .ok value := by
  generalize c.kind = kind at ho
  cases ho with
  | bool b => cases b <;> rfl
  | _ => rfl

theorem unitsPerOne_pos : 0 < Binary64.unitsPerOne := by decide +kernel

theorem placeOfInt_inj {m n : Int} (h : Binary64.placeOfInt m = Binary64.placeOfInt n) : m = n := by
  simp only [Binary64.placeOfInt, Binary64.Place.at.injEq] at h
  exact Int.eq_of_mul_eq_mul_right (Int.natCast_ne_zero.2 (Nat.ne_of_gt unitsPerOne_pos)) h

/-- A double as large as an integer is a number, and is zero if that is. -/
theorem place_eq_placeOfInt {y : Binary64} {n : Int} (h : y.place = Binary64.placeOfInt n) :
    y.isNaN = false ∧ (y.isZero = true ↔ n = 0) := by
  have hpos := unitsPerOne_pos
  unfold Binary64.place Binary64.placeOfInt at h
  unfold Binary64.isNaN Binary64.isZero
  have hzero : n * (Binary64.unitsPerOne : Int) = 0 ↔ n = 0 := by
    rw [Int.mul_eq_zero]
    omega
  generalize Binary64.unitsPerOne = scale at *
  split at h
  · cases h
  · cases h
  · cases h
  · rename_i units hread
    simp only [hread, Binary64.Place.at.injEq] at h ⊢
    simp [← hzero, ← h]
  · rename_i units hread
    simp only [hread, Binary64.Place.at.injEq] at h ⊢
    simp [← hzero, ← h]

/-- A cell that is the same as the one that stands for a value is read as the same. -/
theorem Own.same (ho : Own c.kind value cell) (hx : x.same cell = true) :
    ∃ w, readCell c.kind x = .ok w ∧ w.same value = true := by
  obtain ⟨hrank, hplace, hchars, -⟩ := (Cell.same_iff x cell).1 hx
  generalize c.kind = kind at ho
  cases ho with
  | null =>
    cases x with
    | null => exact ⟨.null, rfl, rfl⟩
    | _ => cases hrank
  | int n =>
    cases x with
    | int m =>
      obtain rfl := placeOfInt_inj hplace
      exact ⟨.int m, rfl, by simp [Value.int, Value.same, Scalar.same, Scalar.place?]⟩
    | real y =>
      refine ⟨.scalar (.float y), rfl, ?_⟩
      have hnan := (place_eq_placeOfInt hplace).1
      have hy : y.place = Binary64.placeOfInt n := hplace
      simp [Value.int, Value.same, Scalar.same, Scalar.place?, hnan, hy]
    | _ => cases hrank
  | text s =>
    cases x with
    | text u =>
      obtain rfl : u = s := String.toList_inj.1 hchars
      exact ⟨.text u, rfl, by simp [Value.text, Value.same, Scalar.same, Scalar.place?]⟩
    | _ => cases hrank
  | bool b =>
    have hsame : (Value.bool b).same (.bool b) = true := by simp [Value.bool, Value.same, Scalar.same, Scalar.place?]
    refine ⟨.bool b, ?_, hsame⟩
    cases x with
    | int m =>
      obtain rfl := placeOfInt_inj hplace
      cases b <;> rfl
    | real y =>
      have hzero := (place_eq_placeOfInt hplace).2
      cases b <;> simp_all [readCell, Cell.isNull, Cell.scalar, Scalar.isGiven]
    | _ => cases hrank

/-- A cell is read as the same as what a value for its column is read as. -/
def StoredColumn.Recalls (c : StoredColumn) (v : Value) (cell : Cell) : Prop :=
  ∃ value w, c.column.coerce v = .ok value ∧ readCell c.kind cell = .ok w ∧ w.same value = true

/-- What an ordinary column keeps, it recalls. -/
theorem StoredColumn.recalls_of_keepsAs (hc : c.Ordinary) (hv : Takes c.kind v) (h : c.KeepsAs v cell) :
    c.Recalls v cell := by
  obtain ⟨value, prepared, taken, hread, hprepare, haccept, rfl⟩ := h
  obtain ⟨own, ho⟩ := own_of_coerce hc hv hread
  obtain ⟨hstored, -⟩ := ho.stored hc hprepare haccept
  obtain ⟨w, hw, hsame⟩ := ho.same (Cell.same_refl own)
  exact ⟨value, w, hread, hstored ▸ hw, hsame⟩

/-- A cell that is found by a value is read as the same. -/
theorem StoredColumn.recalls_of_holds (hc : c.Ordinary) (hv : Takes c.kind v) (hread : c.column.coerce v = .ok value)
    (hprepare : prepareOperand c.kind value = .ok prepared) (haccept : accept prepared = .ok taken)
    (h : holds c.affinity (if value.isNull then .isNull else .eq) x taken = true) : c.Recalls v x := by
  obtain ⟨own, ho⟩ := own_of_coerce hc hv hread
  have hsame : x.same own = true := by
    split at h
    · rename_i hnull
      have hx : x = .null := by simpa [holds, Cell.isNull] using h
      have hown : own = .null := by
        generalize c.kind = kind at ho
        cases ho with
        | null => rfl
        | _ => cases hnull
      rw [hx, hown]
      rfl
    · simp only [holds, Bool.and_eq_true] at h
      rw [← ho.operand hc hprepare haccept]
      exact h.2
  obtain ⟨w, hw, hsame⟩ := ho.same hsame
  exact ⟨value, w, hread, hw, hsame⟩

/-- What an integer column keeps of a value that is not null. -/
theorem StoredColumn.int_of_keepsAs (hkind : c.kind = .integer) (haffinity : c.affinity = .integer)
    (hv : Takes c.kind v) (hnull : v.isNull = false) (h : c.KeepsAs v cell) :
    ∃ n, c.column.coerce v = .ok (.int n) ∧ cell = .int n ∧ fits n = true := by
  have hc : c.Ordinary := .inl ⟨hkind, haffinity⟩
  obtain ⟨value, prepared, taken, hread, hprepare, haccept, rfl⟩ := h
  obtain ⟨own, ho⟩ := own_of_coerce hc hv hread
  obtain ⟨hstored, hfits⟩ := ho.stored hc hprepare haccept
  have hgiven := StoredTable.coerce_isNull hnull hread
  rw [hkind] at ho
  cases ho with
  | null => cases hgiven
  | int n => exact ⟨n, hread, hstored, hfits n rfl⟩

end Own

end TableGraph.Store
