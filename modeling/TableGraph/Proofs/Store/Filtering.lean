import TableGraph.Proofs.Store.Returning

/-! # What was written is what is asked for

A column keeps a value in the class that it prefers, and a test brings what it compares with into a class that the
column's cells can have. But for doubles the two come to the same (`Cell.same_stored_operand`), so a text that was
written to a column of everyday type is found again by the same text (`findsAgain_text`). An update or an insert that
tells a row tells the number of one that is stored, and this one equals what was given for such a column
(`NumberedBy.tellsOf_update`, `NumberedBy.tellsOf_insert`).
-/
namespace TableGraph.Store
open Chain Text

/-! ## Texts that are no numbers -/

theorem mem_pushn {c d : Char} {n : Nat} (h : c ∈ ("".pushn d n).toList) : c = d := by
  induction n with
  | zero => cases h
  | succ n ih =>
    change c ∈ (("".pushn d n).push d).toList at h
    rw [String.toList_push, List.mem_append, List.mem_singleton] at h
    exact h.elim ih id

theorem toList_padded (width n : Nat) : (padded width n).toList ≠ [] ∧
    ∀ c ∈ (padded width n).toList, c.isDigit = true := by
  have htext : (padded width n).toList =
      ("".pushn '0' (width - (Nat.repr n).length)).toList ++ Number.natText n := by
    rw [padded, String.toList_append, ← Number.toList_toString_nat]
    rfl
  rw [htext]
  constructor
  · exact List.append_ne_nil_of_right_ne_nil _ (Nat.toDigits_ne_nil)
  · intro c hc
    rcases List.mem_append.1 hc with hc | hc
    · rw [mem_pushn hc]
      rfl
    · exact Number.isDigit_of_mem_natText hc

theorem not_isSpace_of_isDigit {c : Char} (h : c.isDigit = true) : isSpace c = false :=
  Name.forall_ascii (p := fun c => c.isDigit = true → isSpace c = false) (by decide)
    (Name.isAscii_of_isPart (Request.isPart_of_isDigit h)) h

/-- A text that starts with digits and a dash is no number. -/
theorem number?_eq_none_of_dash {s : String} {digits rest : List Char} (hs : s.toList = digits ++ '-' :: rest)
    (hdigits : ∀ c ∈ digits, c.isDigit = true) (hne : digits ≠ []) : number? s = none := by
  obtain ⟨d, more, rfl⟩ := List.exists_cons_of_ne_nil hne
  have hd : d.isDigit = true := hdigits d List.mem_cons_self
  have hdash : isSpace '-' = false := by decide
  have htrimmed : ((s.toList.dropWhile isSpace).reverse.dropWhile isSpace).reverse =
      d :: more ++ '-' :: (rest.reverse.dropWhile isSpace).reverse := by
    have hfront : s.toList.dropWhile isSpace = d :: more ++ '-' :: rest := by
      rw [hs]
      exact List.dropWhile_cons_of_neg (by simp [not_isSpace_of_isDigit hd])
    have hend : ('-' :: (d :: more).reverse).dropWhile isSpace = '-' :: (d :: more).reverse :=
      List.dropWhile_cons_of_neg (by simp [hdash])
    rw [hfront, List.reverse_append, List.reverse_cons, List.append_assoc, List.singleton_append, List.dropWhile_append,
      hend]
    split
    · rename_i hempty
      rw [List.isEmpty_iff.1 hempty]
      simp
    · simp
  generalize (rest.reverse.dropWhile isSpace).reverse = rest' at htrimmed
  have hdigit : ¬ Char.isDigit '-' = true := by decide
  have hwhole : (d :: more ++ '-' :: rest').takeWhile Char.isDigit = d :: more := by
    rw [List.takeWhile_append_of_pos hdigits, List.takeWhile_cons_of_neg hdigit, List.append_nil]
  have htail : (d :: more ++ '-' :: rest').dropWhile Char.isDigit = '-' :: rest' := by
    rw [List.dropWhile_append_of_pos hdigits, List.dropWhile_cons_of_neg hdigit]
  have hnumber : asciiNat? (d :: more ++ '-' :: rest') = none := by
    simp [asciiNat?]
  have hnumeral : Number.readNumeral? (d :: more ++ '-' :: rest') = none := by
    simp only [Number.readNumeral?, hwhole, htail]
    split
    · rfl
    · simp
  have hunsigned : unsignedNumber? false (d :: more ++ '-' :: rest') = none := by
    rw [unsignedNumber?, hnumber, hnumeral]
    rfl
  have hsign : d ≠ '-' ∧ d ≠ '+' := by
    constructor <;> (rintro rfl; revert hd; decide)
  unfold number?
  dsimp only
  rw [htrimmed]
  split
  · rename_i heq
    exact absurd (List.cons.inj heq).1 hsign.1
  · rename_i heq
    exact absurd (List.cons.inj heq).1 hsign.2
  · exact hunsigned

/-- A printed date is no number, whatever follows it. -/
theorem number?_date (d : Date) (after : String) : number? (d.toText ++ after) = none := by
  obtain ⟨hne, hdigits⟩ := toList_padded 4 d.year
  have htext : (d.toText ++ after).toList =
      (padded 4 d.year).toList ++ '-' :: (padded 2 d.month ++ "-" ++ padded 2 d.day ++ after).toList := by
    simp [Date.toText, String.toList_append]
  exact number?_eq_none_of_dash htext hdigits hne

/-! ## Cells that are kept and compared -/

namespace Cell

theorem place_of_toInt? {x : Binary64} {n : Int} (h : x.toInt? = some n) : x.place = Binary64.placeOfInt n := by
  unfold Binary64.toInt? at h
  unfold Binary64.place Binary64.placeOfInt
  cases hread : x.read with
  | finite negative units =>
    rw [hread] at h
    simp only at h
    split at h
    · rename_i hunits
      have hwhole : units / Binary64.unitsPerOne * Binary64.unitsPerOne = units :=
        Nat.div_mul_cancel (Nat.dvd_of_mod_eq_zero hunits)
      obtain rfl := Option.some.inj h
      cases negative with
      | true => simp only [if_true, Int.neg_mul, ← Int.natCast_mul, hwhole]
      | false => simp only [Bool.false_eq_true, if_false, ← Int.natCast_mul, hwhole]
    · cases h
  | _ =>
    rw [hread] at h
    cases h

theorem same_asInteger (x : Cell) : x.asInteger.same x = true := by
  cases x with
  | real y =>
    change (narrowed y).same (real y) = true
    unfold narrowed
    split
    · rename_i n hint
      split
      · exact (same_iff _ _).2 ⟨rfl, (place_of_toInt? hint).symm, rfl, rfl⟩
      · exact same_refl _
    · exact same_refl _
  | _ => exact same_refl _

/-- What a column keeps and what it is compared with are the same, unless it keeps doubles. -/
theorem same_stored_operand {a : Affinity} (ha : a ≠ .real) (x : Cell) : (x.stored a).same (x.operand a) = true := by
  cases a with
  | real => exact absurd rfl ha
  | text => exact same_refl _
  | blob => exact same_refl _
  | integer => exact same_asInteger _
  | numeric => exact same_asInteger _

theorem isNull_eq_of_same {x y : Cell} (h : x.same y = true) : x.isNull = y.isNull := by
  have hrank (z : Cell) : z.isNull = true ↔ z.rank = 0 := by cases z <;> simp [isNull, rank]
  rw [Bool.eq_iff_iff, hrank, hrank, ((same_iff x y).1 h).1]

theorem isNull_number? {s : String} {x : Cell} (h : number? s = some x) : x.isNull = false := by
  have hunsigned {negative : Bool} {cs : List Char} (h : unsignedNumber? negative cs = some x) : x.isNull = false := by
    unfold unsignedNumber? at h
    split at h
    · dsimp only at h
      obtain rfl := Option.some.inj h
      generalize (if negative = true then _ else _ : Int) = k
      split <;> rfl
    · obtain ⟨y, -, rfl⟩ := Option.map_eq_some_iff.1 h
      rfl
  unfold number? at h
  dsimp only at h
  split at h <;> exact hunsigned h

theorem isNull_operand {a : Affinity} {x : Cell} (h : x.isNull = false) : (x.operand a).isNull = false := by
  have hnumber : x.asNumber.isNull = false := by
    cases x with
    | text s =>
      change ((number? s).getD (text s)).isNull = false
      cases hs : number? s with
      | none => rfl
      | some y => exact isNull_number? hs
    | _ => exact h
  cases a with
  | text =>
    cases x with
    | int n => rfl
    | real y => rfl
    | _ => exact h
  | blob => exact h
  | _ => exact hnumber

end Cell

/-! ## Values that a column has -/

namespace StoredColumn
variable {c : StoredColumn} {v read : Value}

/-- A column that keeps no doubles has what it keeps, if it is prepared alike for keeping and for comparing. -/
theorem has_of_taken (hreal : c.affinity ≠ .real) {operand : Value} {taken : Cell}
    (hoperand : prepareOperand c.kind read = .ok operand) (haccept : accept operand = .ok taken)
    (hread : read.isNull = false) (htaken : taken.isNull = false) : c.Has read (taken.stored c.affinity) := by
  have hsame := Cell.same_stored_operand hreal taken
  have hnull := Cell.isNull_operand (a := c.affinity) htaken
  refine ⟨operand, taken, by simpa only [StoredColumn.column] using hoperand, haccept, ?_⟩
  simp [hread, holds, hsame, hnull, Cell.isNull_eq_of_same hsame]

/-- Columns of integers, truth values, texts, dates and times. -/
inductive Everyday (c : StoredColumn) : Prop where
  | ordinary (ordinary : c.Ordinary)
  | date (kind : c.kind = .date) (affinity : c.affinity = .numeric)
  | datetime (keepsOffset : Bool) (kind : c.kind = .datetime keepsOffset) (affinity : c.affinity = .numeric)

def everydayTypes : List String := ["INTEGER", "BOOLEAN", "DATE", "DATETIME", "TEXT"]

theorem everyday_of_declaration (h : ∃ d ∈ everydayTypes, declaration c.declared = declaration d) : c.Everyday := by
  obtain ⟨d, hd, h⟩ := h
  obtain ⟨hkind, haffinity⟩ := kind_of_declaration h
  simp only [everydayTypes, List.mem_cons, List.not_mem_nil, or_false] at hd
  rcases hd with rfl | rfl | rfl | rfl | rfl
  · exact .ordinary (.inl ⟨hkind.trans (by decide +kernel), haffinity.trans (by decide +kernel)⟩)
  · exact .ordinary (.inr (.inr ⟨hkind.trans (by decide +kernel), haffinity.trans (by decide +kernel)⟩))
  · exact .date (hkind.trans (by decide +kernel)) (haffinity.trans (by decide +kernel))
  · exact .datetime false (hkind.trans (by decide +kernel)) (haffinity.trans (by decide +kernel))
  · exact .ordinary (.inr (.inl ⟨hkind.trans (by decide +kernel), haffinity.trans (by decide +kernel)⟩))

/-- What a text is read as, where it is not taken as it is. -/
theorem readText?_of_coerce {reading : Reading} (hreading : c.kind.reading = some reading) {s : String}
    (h : c.column.coerce (.text s) = .ok read) : ∃ x, c.kind.readText? (trim s.toList) = some x ∧ read = .scalar x := by
  rw [Column.coerce_text] at h
  obtain ⟨x, hx, rfl⟩ := map_eq_ok.1 h
  simp only [Column.coerceText, StoredColumn.column, hreading] at hx
  split at hx
  · rename_i y hy
    obtain rfl := Except.ok.inj hx
    exact ⟨_, hy, rfl⟩
  · cases hx

/-- A column finds again a text that it is given, if it writes what it reads in the same way to keep it and to compare
with it. -/
theorem findsAgain_of_written (hreal : c.affinity ≠ .real) (hread : read.isNull = false) {written : String}
    (hcoerce : c.column.coerce v = .ok read) (hprepare : prepare c.kind read = .ok (.text written))
    (hoperand : prepareOperand c.kind read = .ok (.text written)) : c.FindsAgain v := by
  rintro cell ⟨read', prepared, taken, hread', hprepare', haccept, rfl⟩
  obtain rfl := Except.ok.inj (hcoerce.symm.trans hread')
  obtain rfl := Except.ok.inj (hprepare.symm.trans hprepare')
  obtain rfl : .text written = taken := Except.ok.inj haccept
  exact ⟨read, hcoerce, has_of_taken hreal hoperand haccept hread rfl⟩

/-- A column finds again the text that it was given. -/
theorem findsAgain_text (hc : c.Everyday) (s : String) : c.FindsAgain (.text s) := by
  cases hc with
  | ordinary hc => exact findsAgain_of_ordinary hc (.text _ s)
  | date hkind haffinity =>
    intro cell hkeeps
    obtain ⟨read, -, -, hread, -⟩ := id hkeeps
    have hreading : c.kind.reading = some .date := by rw [hkind]; rfl
    obtain ⟨x, hx, rfl⟩ := readText?_of_coerce hreading hread
    rw [hkind] at hx
    obtain ⟨d, -, rfl⟩ := Option.map_eq_some_iff.1 hx
    have hprepare : prepare c.kind (.scalar (.date d)) = .ok (dateText d) := by rw [hkind]; rfl
    have hoperand : prepareOperand c.kind (.scalar (.date d)) = .ok (dateText d) := by rw [hkind]; rfl
    exact findsAgain_of_written (by simp [haffinity]) rfl hread hprepare hoperand cell hkeeps
  | datetime keepsOffset hkind haffinity =>
    intro cell hkeeps
    obtain ⟨read, -, -, hread, -⟩ := id hkeeps
    have hreading : c.kind.reading = some .datetime := by rw [hkind]; rfl
    obtain ⟨x, hx, rfl⟩ := readText?_of_coerce hreading hread
    rw [hkind] at hx
    obtain ⟨t, -, rfl⟩ := Option.map_eq_some_iff.1 hx
    have hprepare : prepare c.kind (.scalar (.datetime t)) = .ok (timeText t) := by rw [hkind]; rfl
    have hoperand : prepareOperand c.kind (.scalar (.datetime t)) = .ok (timeText t) := by rw [hkind]; rfl
    exact findsAgain_of_written (by simp [haffinity]) rfl hread hprepare hoperand cell hkeeps

/-- What an integer column takes of a value is what it compares with, or a text that is no number. -/
theorem accept_operand (hkind : c.kind = .integer) {taken : Cell} (haccept : accept read = .ok taken) :
    (∃ operand, prepareOperand c.kind read = .ok operand ∧ accept operand = .ok taken) ∨
      ∃ s, taken = .text s ∧ number? s = none := by
  have hoperand (operand : Value) (h : prepareOperand .integer read = .ok operand) :
      prepareOperand c.kind read = .ok operand := hkind ▸ h
  cases read with
  | scalar x =>
    cases x with
    | text s => exact .inl ⟨_, hoperand _ rfl, haccept⟩
    | datetime t =>
      obtain rfl : .text t.display = taken := Except.ok.inj haccept
      refine .inr ⟨_, rfl, ?_⟩
      rw [DateTime.display, DateTime.textWith, String.append_assoc, String.append_assoc, String.append_assoc]
      exact number?_date t.date _
    | date d => exact .inl ⟨dateText d, hoperand _ rfl, haccept⟩
    | decimal d => cases haccept
    | _ => exact .inl ⟨_, hoperand _ rfl, haccept⟩
  | _ => cases haccept

/-- An integer column that keeps an integer or null for a value has what it keeps, or no cell has the value. -/
theorem has_of_keepsAs (hkind : c.kind = .integer) (haffinity : c.affinity = .integer) {cell : Cell}
    (hkeeps : c.KeepsAs v cell) (hread : c.column.coerce v = .ok read) (hnull : read.isNull = false)
    (hcell : ∀ s, cell ≠ .text s) : c.Has read cell ∨ cell = .null ∧ ∀ other, ¬ c.Has read other := by
  obtain ⟨read', prepared, taken, hread', hprepare, haccept, rfl⟩ := hkeeps
  obtain rfl := Except.ok.inj (hread.symm.trans hread')
  rw [hkind] at hprepare
  obtain rfl : read = prepared := Except.ok.inj hprepare
  rcases accept_operand hkind haccept with ⟨operand, hoperand, htaken⟩ | ⟨s, rfl, hs⟩
  · cases hisNull : taken.isNull with
    | false => exact .inl (has_of_taken (by simp [haffinity]) hoperand htaken hnull hisNull)
    | true =>
      obtain rfl : taken = .null := by simpa [Cell.isNull] using hisNull
      refine .inr ⟨by rw [haffinity]; rfl, ?_⟩
      rintro other ⟨operand', value, hoperand', hvalue, hholds⟩
      simp only [StoredColumn.column] at hoperand'
      obtain rfl := Except.ok.inj (hoperand.symm.trans hoperand')
      obtain rfl := Except.ok.inj (htaken.symm.trans hvalue)
      simp [hnull, holds, haffinity, Cell.operand, Cell.asNumber, Cell.isNull] at hholds
  · refine absurd ?_ (hcell s)
    rw [haffinity]
    simp [Cell.stored, Cell.asNumber, Cell.asInteger, hs]

end StoredColumn

/-! ## Rows that are told -/

namespace StoredTable
variable {t u : StoredTable} {name pk : String}

/-- A row that has a value equals it, as the store compares them. -/
theorem satisfies_of_has (hn : (t.columns.map (·.name)).Nodup) {c : StoredColumn} (hc : c ∈ t.columns) {v read : Value}
    (hv : v.isNull = false) (hread : c.column.coerce v = .ok read) {stored : Cells}
    (hhas : c.Has read (t.cellAt stored c.name)) : t.Satisfies name stored (keyed c.name v) := by
  obtain ⟨operand, value, hoperand, hvalue, hholds⟩ := hhas
  rw [if_neg (by simp [coerce_isNull hv hread])] at hholds
  exact satisfies_of_holds hn hc hv hread hoperand hvalue hholds

/-- The rows that have a number. -/
def rowsAt (u : StoredTable) (pk : String) (n : Int) : List Cells := u.rows.filter fun row => u.cellAt row pk = .int n

/-- A row is told by its number, and the only row that is stored under the number satisfies a condition. -/
def TellsOf (u : StoredTable) (name pk : String) (condition : Condition Value) (row : Row) : Prop :=
  ∃ n stored, row.get? pk = some (.int n) ∧ u.rowsAt pk n = [stored] ∧ u.Satisfies name stored condition

/-- Where the key is the row number, no two rows have the same number. -/
theorem rowsAt_of_mem (hk : u.Kept) (hnumber : u.numberColumn? = some pk) {stored : Cells} (hstored : stored ∈ u.rows)
    {n : Int} (hcell : u.cellAt stored pk = .int n) : u.rowsAt pk n = [stored] := by
  obtain ⟨c, hkey, -, rfl, -⟩ := numberColumn?_eq_some hnumber
  refine filter_of_apart (hk.apart (by simp [hkey])) (fun x y hx hy => ?_) hstored (by simpa using hcell)
  have hx : u.cellAt x c.name = .int n := by simpa using hx
  have hy : u.cellAt y c.name = .int n := by simpa using hy
  simp [agree, keyNames, hkey, hx, hy, Cell.isNull, Cell.same_refl]

section Tells
variable {c : StoredColumn} {v : Value} {values : Row} {cells : Assoc String Cell} {row : Row} {stored : Cells} {n : Int}

/-- The row that is read has the number of the stored one. -/
theorem get?_number (hs : u.WellShaped) (hstored : stored ∈ u.rows) (hnumber : u.numberColumn? = some pk)
    (hcell : u.cellAt stored pk = .int n) (hread : u.readRow stored = .ok row) : row.get? pk = some (.int n) := by
  obtain ⟨c, -, hc, rfl, hkind, -⟩ := numberColumn?_eq_some hnumber
  obtain ⟨w, hw, hget⟩ := get?_readRow hs hstored hread hc
  rw [hcell, hkind] at hw
  obtain rfl : .int n = w := Except.ok.inj hw
  exact hget

theorem NumberedBy.tellsOf_update (h : t.NumberedBy pk) {keys : Row} {bs : List BoundTest}
    (hu : t.Updated name keys values bs cells (some row) u)
    (hapart : u = t ∨ u.rows.Pairwise fun a b => t.conflict a b = false) (hunwritten : values.get? pk = none)
    (hkeys : ∀ p ∈ keys, p.2.isNull = false) (hc : c ∈ t.columns) (hv : v.isNull = false)
    (hgiven : keys.get? c.name = some v ∨ values.get? c.name = some v ∧ c.FindsAgain v) :
    u.TellsOf name pk (keyed c.name v) row := by
  have hnumbered := h.update hu hapart hunwritten
  obtain ⟨stored, hstored, hmeets, hread⟩ := firstOf_some hu.found
  obtain ⟨n, hcell, -⟩ := hnumbered.numbers stored hstored
  refine ⟨n, stored, get?_number hnumbered.kept.shape hstored hnumbered.number hcell hread,
    rowsAt_of_mem hnumbered.kept hnumbered.number hstored hcell, ?_⟩
  have hrows := hu.rows
  obtain ⟨rows, rfl⟩ : ∃ rows, u = { t with rows := rows } := ⟨u.rows, hu.others⟩
  have hn := h.kept.shape.names
  rcases hgiven with hkey | ⟨hvalue, hfinds⟩
  · obtain ⟨b, hb, hbound⟩ := hu.tests.exists_test hkeys hn hc hkey
    exact ⟨b, hbound, List.all_eq_true.1 hmeets b hb⟩
  · -- a row that still meets the tests for the key is the one that was overwritten
    obtain ⟨before, hbefore, rfl⟩ := List.mem_map.1 (hrows.mem_iff.1 hstored)
    by_cases hchosen : t.meetsAll bs before = true
    · rw [if_pos hchosen]
      obtain ⟨read, hread, hhas⟩ := hfinds _ ((hu.given.changed h.kept.shape hbefore).held c hc v hvalue)
      exact satisfies_of_has hn hc hv hread hhas
    · rw [if_neg hchosen] at hmeets
      exact absurd hmeets hchosen

/-! ## A row that is inserted -/

/-- The row that an insert adds has an integer for its number. -/
theorem NumberedBy.int_fill (h : t.NumberedBy pk) (hcomplete : t.complete (t.fill cells) = true) :
    ∃ n, t.cellAt (t.fill cells) pk = .int n := by
  obtain ⟨c, -, hc, rfl, -⟩ := numberColumn?_eq_some h.number
  obtain ⟨cell, hfind⟩ := find?_zip h.kept.shape.names hc (t.length_fill cells)
  have hint := List.all_eq_true.1 hcomplete _ (List.mem_of_find?_eq_some hfind)
  rw [if_pos h.number] at hint
  rw [cellAt, hfind]
  cases cell with
  | int n => exact ⟨n, rfl⟩
  | _ => cases hint

/-- A row that is handed back has the number of the new one. -/
theorem NumberedBy.get?_echoRow (h : t.NumberedBy pk) (hlength : stored.length = t.columns.length)
    (hcell : t.cellAt stored pk = .int n) (hread : t.readRow (t.echoRow stored) = .ok row) :
    row.get? pk = some (.int n) := by
  obtain ⟨c, -, hc, rfl, hkind, haffinity⟩ := numberColumn?_eq_some h.number
  obtain ⟨cell, hfind⟩ := find?_zip h.kept.shape.names hc hlength
  obtain rfl : cell = .int n := by
    rw [cellAt, hfind] at hcell
    exact hcell
  have hkeeps : c.echo (.int n) = .int n := by simp [StoredColumn.echo, haffinity]
  have hecho : ((t.columns.zip (t.echoRow stored)).find? fun p => p.1.name = c.name) = some (c, .int n) := by
    rw [echoRow, zip_zip_map, List.find?_map]
    simp only [Function.comp_def, hfind, Option.map_some, hkeeps]
  obtain ⟨v, hv, hget⟩ := get?_of_read hread hecho
  rw [hkind] at hv
  obtain rfl : .int n = v := Except.ok.inj hv
  exact hget

/-- The row that an insert adds has what was given for a column that finds it again. -/
theorem satisfies_fill (hk : t.Kept) (hgiven : t.Given name values cells) (hc : c ∈ t.columns)
    (hvalue : values.get? c.name = some v) (hv : v.isNull = false) (hfinds : c.FindsAgain v) :
    t.Satisfies name (t.fill cells) (keyed c.name v) := by
  obtain ⟨cell, hcell, hkeeps⟩ := hgiven.get?_of_some hk.shape.names hc hvalue
  obtain ⟨read, hread, hhas⟩ := hfinds _ hkeeps
  refine satisfies_of_has hk.shape.names hc hv hread ?_
  rwa [cellAt_fill hk.shape.names hc,
    filled_of_given hcell (hhas.isNull_eq_false (coerce_isNull hv hread))]

/-- What is given for the number of a new row is the number that it has, if it is the number of any row. -/
theorem has_fill (hn : (t.columns.map (·.name)).Nodup) (hc : c ∈ t.columns) (hkind : c.kind = .integer)
    (haffinity : c.affinity = .integer) (hgiven : t.Given name values cells) (hvalue : values.get? c.name = some v)
    {read : Value} (hread : c.column.coerce v = .ok read) (hnull : read.isNull = false)
    (hint : t.cellAt (t.fill cells) c.name = .int n) {other : Cell} (hother : c.Has read other) :
    c.Has read (t.cellAt (t.fill cells) c.name) := by
  obtain ⟨cell, hcell, hkeeps⟩ := hgiven.get?_of_some hn hc hvalue
  have hfilled (hgivenCell : (cell.stored c.affinity).isNull = false) :
      t.cellAt (t.fill cells) c.name = cell.stored c.affinity :=
    (cellAt_fill hn hc cells).trans (filled_of_given hcell hgivenCell)
  have hno (s : String) : cell.stored c.affinity ≠ .text s := by
    intro hs
    have htext := hfilled (by rw [hs]; rfl)
    rw [hint, hs] at htext
    cases htext
  rcases StoredColumn.has_of_keepsAs hkind haffinity hkeeps hread hnull hno with hkept | ⟨-, hnone⟩
  · rwa [hfilled (hkept.isNull_eq_false hnull)]
  · exact absurd hother (hnone _)

/-- If some row has the number by which a new row is looked up, then the new row has it. -/
theorem NumberedBy.hasAll_fill (h : t.NumberedBy pk) (hgiven : t.Given name values cells)
    (hcomplete : t.complete (t.fill cells) = true) {known : Row} (hknown : t.known name values = .ok known)
    {rows : List Cells} (husable : Usable (newKey { t with rows := rows } known (t.fill cells)))
    (hother : t.HasAll (newKey { t with rows := rows } known (t.fill cells)) stored) :
    t.HasAll (newKey { t with rows := rows } known (t.fill cells)) (t.fill cells) := by
  obtain ⟨c, hkey, hc, rfl, hkind, haffinity⟩ := numberColumn?_eq_some h.number
  have hn := h.kept.shape.names
  obtain ⟨m, hm⟩ := h.int_fill hcomplete
  intro d hd w hw
  have hnull := husable.2 _ hw
  have hhas := hother d hd w hw
  obtain ⟨e, he, hpair⟩ := List.mem_map.1 hw
  obtain rfl : e = c := List.mem_singleton.1 (hkey ▸ he)
  obtain ⟨hname, rfl⟩ := Prod.mk.inj hpair
  obtain rfl : e = d := List.inj_on_of_nodup_map hn hc hd hname
  cases hvalue : values.get? e.name with
  | some v =>
    obtain ⟨read, hread, hget⟩ := get?_coerceRow_of_some (mapError_eq_ok.1 hknown) (column?_shape hn name hc) hvalue
    rw [hget, Option.getD_some] at hnull hhas ⊢
    exact has_fill hn hc hkind haffinity hgiven hvalue hread hnull hm hhas
  | none =>
    rw [get?_coerceRow_of_none (mapError_eq_ok.1 hknown) hvalue, Option.getD_none] at hnull ⊢
    split at hnull
    · rename_i htold
      have hnumber : numberColumn? { t with rows := rows } = some e.name := h.number
      have hcell : cellAt { t with rows := rows } (t.fill cells) e.name = .int t.nextNumber :=
        h.cellAt_fill_next hgiven hvalue
      have hnext : toldNumber { t with rows := rows } (t.fill cells) = t.nextNumber := by
        simp only [toldNumber, rowNumber?, hnumber, hcell, Option.getD_some]
      rw [if_pos htold, hnext]
      exact h.cellAt_fill_next hgiven hvalue ▸ has_int haffinity h.fits_nextNumber
    · cases hnull

theorem NumberedBy.tellsOf_insert (h : t.NumberedBy pk) {returning : Bool}
    (hi : t.Inserted returning name values cells (some row) u) (hc : c ∈ t.columns)
    (hvalue : values.get? c.name = some v) (hv : v.isNull = false) (hfinds : c.FindsAgain v) :
    u.TellsOf name pk (keyed c.name v) row := by
  have hkept := h.kept.insert hi
  have hfill : t.fill cells ∈ u.rows := hi.perm.mem_iff.2 List.mem_cons_self
  have hrows : ∀ stored ∈ u.rows, stored = t.fill cells ∨ stored ∈ t.rows := fun stored hstored =>
    List.mem_cons.1 (hi.perm.mem_iff.1 hstored)
  have hsatisfies := satisfies_fill h.kept hi.given hc hvalue hv hfinds
  obtain ⟨n, hcell⟩ := h.int_fill hi.complete
  have htold := hi.told
  have hlookedUp := hi.lookedUp
  obtain ⟨rows, rfl⟩ : ∃ rows, u = { t with rows := rows } := ⟨u.rows, by rw [hi.others]⟩
  -- the new row is handed back, or looked up by its number, or else by all that was given
  cases returning with
  | true =>
    obtain ⟨read, hread, hsome⟩ := htold rfl
    obtain rfl := Option.some.inj hsome
    exact ⟨n, _, h.get?_echoRow (t.length_fill cells) hcell hread, rowsAt_of_mem hkept h.number hfill hcell, hsatisfies⟩
  | false =>
    obtain ⟨known, hknown, hlookUp⟩ := hlookedUp rfl
    obtain ⟨bs, hbound, hfirst⟩ := bind_eq_ok.1 hlookUp
    obtain ⟨stored, hstored, hmeets, hread⟩ := firstOf_some hfirst
    obtain ⟨m, hm⟩ : ∃ m, t.cellAt stored pk = .int m := by
      rcases hrows stored hstored with rfl | hm
      · exact ⟨n, hcell⟩
      · exact (h.numbers stored hm).imp fun _ hm => hm.1
    refine ⟨m, stored, get?_number hkept.shape hstored h.number hm hread, rowsAt_of_mem hkept h.number hstored hm, ?_⟩
    split at hbound
    · rename_i husable
      have husable := usable_iff.1 husable
      have hall := (meetsAll_iff_hasAll hkept.shape.names hbound stored).1 hmeets
      have hfillAll := h.hasAll_fill hi.given hi.complete hknown husable hall
      have hmem : stored ∈ chosen { t with rows := rows } bs := List.mem_filter.2 ⟨hstored, hmeets⟩
      rw [chosen_of_usable hkept husable hbound hfill hfillAll, List.mem_singleton] at hmem
      exact hmem ▸ hsatisfies
    · obtain ⟨read, hread, hget⟩ := get?_coerceRow_of_some (mapError_eq_ok.1 hknown)
        (column?_shape hkept.shape.names name hc) hvalue
      exact satisfies_of_has hkept.shape.names hc hv hread
        ((meetsAll_iff_hasAll hkept.shape.names hbound stored).1 hmeets c hc read (Assoc.mem_of_get? hget))

end Tells

/-! ## One condition -/

section Condition
variable {column : String} {op : Operator} {b : BoundTest}

/-- The condition that a column does not equal a value. -/
def differing (column : String) (value : Value) : Condition Value := ⟨column, Operator.ne.name, value⟩

theorem testWith_ne {v : Value} (hv : v.isNull = false) : Operator.ne.testWith v = .ok .ne := by
  cases v with
  | scalar x =>
    cases x with
    | null => cases hv
    | _ => rfl
  | _ => rfl

/-- A column is compared with the same value whether it is to equal it or not. -/
theorem boundOf_differing {v : Value} (hv : v.isNull = false) (h : t.boundOf name (keyed column v) = .ok b) :
    b.test = .eq ∧ t.boundOf name (differing column v) = .ok { b with test := .ne } := by
  obtain ⟨comparison, prepared, hcompare, hprepare, haccept⟩ := boundOf_ok.1 h
  have htest := (bound_comparison hprepare haccept).2.trans (compare_keyed hv hcompare).1
  obtain ⟨operand, hoperand, rfl⟩ := map_eq_ok.1 hprepare
  obtain ⟨value, hvalue, rfl⟩ := map_eq_ok.1 haccept
  obtain ⟨c, hc, hcompare⟩ := bind_eq_ok.1 hcompare
  simp only [keyed, Operator.ofName?_name, reduceCtorEq, if_false] at hcompare
  obtain ⟨w, hw, hcompare⟩ := bind_eq_ok.1 hcompare
  obtain ⟨test, -, hcompare⟩ := bind_eq_ok.1 hcompare
  obtain rfl := Except.ok.inj hcompare
  have hdiffers : (t.shape name).compare (differing column v) = .ok ⟨c, .ne, w⟩ := by
    refine bind_eq_ok.2 ⟨c, hc, ?_⟩
    simp only [differing, Operator.ofName?_name, reduceCtorEq, if_false]
    refine bind_eq_ok.2 ⟨w, hw, bind_eq_ok.2 ⟨.ne, ?_, rfl⟩⟩
    rw [testWith_ne (coerce_isNull hv (mapError_eq_ok.1 hw))]
    rfl
  exact ⟨htest, boundOf_ok.2 ⟨_, _, hdiffers, map_eq_ok.2 ⟨operand, hoperand, rfl⟩, map_eq_ok.2 ⟨value, hvalue, rfl⟩⟩⟩

/-- No row both equals a value and does not. -/
theorem not_satisfies_differing {v : Value} (hv : v.isNull = false) {stored : Cells}
    (h : t.Satisfies name stored (keyed column v)) : ¬ t.Satisfies name stored (differing column v) := by
  obtain ⟨b, hbound, hmeets⟩ := h
  obtain ⟨htest, hdiffers⟩ := boundOf_differing hv hbound
  rintro ⟨other, hother, hmeetsOther⟩
  obtain rfl := Except.ok.inj (hdiffers.symm.trans hother)
  simp only [meets, holds, htest, Bool.and_eq_true, Bool.not_eq_true'] at hmeets hmeetsOther
  cases hmeets.2.symm.trans hmeetsOther.2

theorem compare_text {shape : TableShape} {s : String} {comparison : Comparison}
    (h : shape.compare ⟨column, op.name, .text s⟩ = .ok comparison) : ∃ x, comparison.value = .scalar x := by
  obtain ⟨c, -, h⟩ := bind_eq_ok.1 h
  simp only [Operator.ofName?_name] at h
  split at h
  · obtain ⟨w, hw, h⟩ := bind_eq_ok.1 h
    obtain ⟨test, -, h⟩ := bind_eq_ok.1 h
    obtain rfl := Except.ok.inj h
    obtain rfl := Except.ok.inj hw
    exact ⟨_, rfl⟩
  · obtain ⟨w, hw, h⟩ := bind_eq_ok.1 h
    obtain ⟨test, -, h⟩ := bind_eq_ok.1 h
    obtain rfl := Except.ok.inj h
    obtain ⟨x, -, rfl⟩ := map_eq_ok.1 (mapError_eq_ok.1 hw)
    exact ⟨x, rfl⟩

/-- One condition with a text can be tested if its test can be bound. -/
theorem bindTests_text {s : String} (h : t.boundOf name ⟨column, op.name, .text s⟩ = .ok b) :
    ∃ cs, (t.shape name).compareAll [⟨column, op.name, .text s⟩] = .ok cs ∧ t.bindTests cs = .ok [b] := by
  obtain ⟨comparison, prepared, hcompare, hprepare, haccept⟩ := boundOf_ok.1 h
  obtain ⟨x, hx⟩ := compare_text hcompare
  have hcheck : checkTests [comparison] = .ok () := by simp [checkTests, maxTests, cannotPack, hx]
  exact ⟨[comparison], mapM_singleton hcompare,
    bindTests_ok.2 ⟨[prepared], mapM_singleton hprepare, hcheck, mapM_singleton haccept⟩⟩

theorem mem_chosen_iff {condition : Condition Value} (h : t.boundOf name condition = .ok b) {stored : Cells}
    (hstored : stored ∈ t.rows) : stored ∈ t.chosen [b] ↔ t.Satisfies name stored condition := by
  have hchosen : stored ∈ t.chosen [b] ↔ t.meets stored b = true := by simp [chosen, meetsAll, hstored]
  rw [hchosen]
  constructor
  · exact fun hmeets => ⟨b, h, hmeets⟩
  · rintro ⟨other, hother, hmeets⟩
    obtain rfl := Except.ok.inj (h.symm.trans hother)
    exact hmeets

end Condition
end StoredTable

end TableGraph.Store
