import TableGraph.Text.CaseTable

/-! # Upper, lower and title case

Full case mappings: one character may become several, and a capital sigma at the end of a word
becomes the final small sigma. ASCII letters are mapped by their own rule, so on ASCII text the
tables play no part (`upperForm_ascii`, `lowerForm_ascii`).
-/
namespace TableGraph.Text

def inRanges (ranges : List (Nat × Nat)) (n : Nat) : Bool := ranges.any fun r => r.1 ≤ n && n ≤ r.2

def charAt (code : Int) : Char := Char.ofNat code.toNat

/-- The mapped form of a character: an expansion if it has one, else the shift that covers it. -/
def mapped? (expansions : List (Nat × List Nat)) (shifts : List Shift) (c : Char) :
    Option (List Char) :=
  match expansions.lookup c.toNat with
  | some codes => some (codes.map Char.ofNat)
  | none => (shifts.find? fun s => s.covers c.toNat).map fun s => [charAt (c.toNat + s.offset)]

def isAscii (c : Char) : Bool := c.toNat < 0x80

def upperForm (c : Char) : List Char :=
  if isAscii c then [c.toUpper] else (mapped? upperExpansions upperShifts c).getD [c]

def titleForm (c : Char) : List Char :=
  if isAscii c then [c.toUpper] else (mapped? titleExpansions titleShifts c).getD (upperForm c)

def lowerForm (c : Char) : List Char :=
  if isAscii c then [c.toLower] else (mapped? lowerExpansions lowerShifts c).getD [c]

/-- The first character that the final-sigma rule does not look past has case. -/
def nextIsCased (s : List Char) : Bool :=
  match s.dropWhile fun c => inRanges caseIgnorable c.toNat with
  | [] => false
  | c :: _ => inRanges cased c.toNat

/-- Lower case of the text to the right, given the text to the left in reverse. -/
def lowerAfter (left : List Char) : List Char → List Char
  | [] => []
  | c :: r =>
    (if c = 'Σ' then (if nextIsCased left && !nextIsCased r then ['ς'] else ['σ']) else lowerForm c)
      ++ lowerAfter (c :: left) r

def lower (s : List Char) : List Char := lowerAfter [] s

/-- The first character in title case and the rest in lower case. -/
def capitalize : List Char → List Char
  | [] => []
  | c :: r => titleForm c ++ lowerAfter [c] r

theorem upperForm_ascii {c : Char} (h : isAscii c = true) : upperForm c = [c.toUpper] := by
  simp [upperForm, h]

theorem titleForm_ascii {c : Char} (h : isAscii c = true) : titleForm c = [c.toUpper] := by
  simp [titleForm, h]

theorem lowerForm_ascii {c : Char} (h : isAscii c = true) : lowerForm c = [c.toLower] := by
  simp [lowerForm, h]

theorem lowerAfter_ascii {s : List Char} (h : s.all isAscii = true) (left : List Char) :
    lowerAfter left s = s.map Char.toLower := by
  induction s generalizing left with
  | nil => rfl
  | cons c r ih =>
    simp only [List.all_cons, Bool.and_eq_true] at h
    have hc : c ≠ 'Σ' := by rintro rfl; exact absurd h.1 (by decide)
    simp [lowerAfter, hc, lowerForm_ascii h.1, ih h.2]

end TableGraph.Text
