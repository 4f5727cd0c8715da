import Mathlib.Data.List.Basic
import TableGraph.Store.Cell

/-! # Reading a printed integer

An integer is printed as a sign, if it is negative, and its ASCII digits. Reading takes them back to the
integer (`readInt?_toString`), unless there are more digits than may be read (`readInt?_natText`).
-/
namespace TableGraph.Number
open TableGraph.Text

/-- The characters of a printed natural number. -/
def natText (n : Nat) : List Char := Nat.toDigits 10 n

theorem toList_toString_nat (n : Nat) : (toString n).toList = natText n := by
  rw [Nat.toString_eq_ofList_toDigits, String.toList_ofList, natText]

theorem isDigit_of_mem_natText {n : Nat} {c : Char} (h : c ∈ natText n) : c.isDigit = true :=
  Nat.isDigit_of_mem_toDigits (by decide) (by decide) h

theorem toNat_of_isDigit {c : Char} (h : c.isDigit = true) : 48 ≤ c.toNat ∧ c.toNat ≤ 57 := by
  simp only [Char.isDigit, Bool.and_eq_true, decide_eq_true_eq, ge_iff_le, UInt32.le_iff_toNat_le] at h
  exact h

/-- The first script whose digits are looked up is the one of ASCII. -/
theorem digit?_of_isDigit {c : Char} (h : c.isDigit = true) : digit? c = some (c.toNat - 48) := by
  obtain ⟨hlow, hhigh⟩ := toNat_of_isDigit h
  obtain ⟨later, hzeros⟩ : ∃ later, digitZeros = 48 :: later := ⟨_, rfl⟩
  have hzero : (decide (48 ≤ c.toNat) && decide (c.toNat < 48 + 10)) = true := by
    simp only [Bool.and_eq_true, decide_eq_true_eq]
    omega
  rw [digit?, hzeros, List.find?_cons, hzero]
  rfl

/-- A run of ASCII digits is read digit by digit. -/
theorem digitRun?_digits {s : List Char} (hs : ∀ c ∈ s, c.isDigit = true) (hne : s ≠ []) :
    digitRun? s = some (s.map fun c => c.toNat - 48) := by
  induction s with
  | nil => exact absurd rfl hne
  | cons c r ih =>
    have hc := digit?_of_isDigit (hs c List.mem_cons_self)
    have hr : ∀ d ∈ r, d.isDigit = true := fun d hd => hs d (List.mem_cons_of_mem c hd)
    cases r with
    | nil => simp [digitRun?, hc]
    | cons d r =>
      have hmark : d ≠ '_' := by
        rintro rfl
        exact absurd (hr '_' List.mem_cons_self) (by decide)
      have hrest := ih hr (List.cons_ne_nil d r)
      rw [digitRun?.eq_4 c (d :: r) (by simp) (by rintro r' h; exact hmark (List.cons.inj h).1), hc, hrest]
      rfl

theorem natOfDigits_natText (n : Nat) : natOfDigits ((natText n).map fun c => c.toNat - 48) = n := by
  rw [natOfDigits, List.foldl_map]
  have h := Nat.ofDigitChars_toDigits (b := 10) (n := n) (by decide) (by decide)
  rw [Nat.ofDigitChars_eq_foldl] at h
  exact h

theorem readNat?_natText (n : Nat) :
    readNat? (natText n) = if (natText n).length ≤ maxDigits then some n else none := by
  have hrun := digitRun?_digits (fun _ hc => isDigit_of_mem_natText hc) (Nat.toDigits_ne_nil (n := n) (b := 10))
  change digitRun? (natText n) = _ at hrun
  simp only [readNat?, hrun, List.length_map, natOfDigits_natText]

theorem readInt?_digits {s : List Char} (hs : ∀ c ∈ s, c.isDigit = true) : readInt? s = (readNat? s).map Int.ofNat := by
  cases s with
  | nil => rfl
  | cons c r =>
    have hc := hs c List.mem_cons_self
    have hminus : c ≠ '-' := by
      rintro rfl
      exact absurd hc (by decide)
    have hplus : c ≠ '+' := by
      rintro rfl
      exact absurd hc (by decide)
    rw [readInt?.eq_3 (c :: r) (by rintro r' h; exact hminus (List.cons.inj h).1)
      (by rintro r' h; exact hplus (List.cons.inj h).1)]

/-- A printed natural number is read as itself or, if there are too many digits, not at all. -/
theorem readInt?_natText (n : Nat) :
    readInt? (natText n) = if (natText n).length ≤ maxDigits then some (n : Int) else none := by
  rw [readInt?_digits fun _ hc => isDigit_of_mem_natText hc, readNat?_natText]
  split <;> rfl

/-- An integer of 64 bits is not too long to be read. -/
theorem length_natText_of_fits {n : Int} (h : Store.fits n = true) : (natText n.natAbs).length ≤ maxDigits := by
  have hpow : 10 ^ 19 ≤ 10 ^ maxDigits := Nat.pow_le_pow_right (by decide) (by decide)
  have hrange := Store.fits_iff.1 h
  simp only [Store.minInt, Store.maxInt] at hrange
  exact (Nat.length_toDigits_le_iff (by decide) (by decide)).2 (by omega)

theorem toList_toString_int (n : Int) :
    (toString n).toList = if n < 0 then '-' :: natText n.natAbs else natText n.natAbs := by
  change n.repr.toList = _
  rw [Int.repr_eq_if]
  by_cases hn : n < 0
  · have habs : (-n).toNat = n.natAbs := by omega
    rw [if_neg (by omega), if_pos hn, habs, String.toList_append]
    exact congrArg (List.cons '-') (toList_toString_nat n.natAbs)
  · have habs : n.toNat = n.natAbs := by omega
    rw [if_pos (by omega), if_neg hn, habs]
    exact toList_toString_nat n.natAbs

/-- A printed integer of no more digits than may be read is read as itself. -/
theorem readInt?_toString {n : Int} (hlength : (natText n.natAbs).length ≤ maxDigits) :
    readInt? (toString n).toList = some n := by
  rw [toList_toString_int]
  by_cases hn : n < 0
  · have hneg : -(n.natAbs : Int) = n := by omega
    rw [if_pos hn, readInt?, readNat?_natText, if_pos hlength]
    exact congrArg some hneg
  · have hpos : (n.natAbs : Int) = n := by omega
    rw [if_neg hn, readInt?_natText, if_pos hlength, hpos]

end TableGraph.Number
