/-! # Blanks and cuts

Text is handled as a list of characters. A blank is a character of the Unicode white space set
together with the four ASCII separators; trimming takes blanks off both ends, `words` are the
maximal runs without one, and `split` and `cut?` divide a text at a separator: `split_append` and
`cut?_append` take it apart there, and `eq_of_cut?` puts the two parts of a cut together again.
-/
namespace TableGraph.Text

def isBlank (c : Char) : Bool :=
  let n := c.toNat
  (0x9 ≤ n && n ≤ 0xd) || (0x1c ≤ n && n ≤ 0x20) || n == 0x85 || n == 0xa0 || n == 0x1680 ||
    (0x2000 ≤ n && n ≤ 0x200a) || n == 0x2028 || n == 0x2029 || n == 0x202f || n == 0x205f ||
    n == 0x3000

def trimLeft (s : List Char) : List Char := s.dropWhile isBlank

def trimRight (s : List Char) : List Char := (s.reverse.dropWhile isBlank).reverse

def trim (s : List Char) : List Char := trimRight (trimLeft s)

/-- The pieces between separators, one more than there are separators. -/
def split (sep : Char) : List Char → List (List Char)
  | [] => [[]]
  | c :: r =>
    if c = sep then [] :: split sep r
    else match split sep r with
      | [] => [[c]]
      | w :: ws => (c :: w) :: ws

/-- The text before the first separator and the text after it. -/
def cut? (sep : Char) : List Char → Option (List Char × List Char)
  | [] => none
  | c :: r => if c = sep then some ([], r) else (cut? sep r).map fun p => (c :: p.1, p.2)

/-- The word at the front, if any, is held back until a blank or the end closes it. -/
def wordsFrom (word : List Char) : List Char → List (List Char)
  | [] => if word.isEmpty then [] else [word.reverse]
  | c :: r =>
    if isBlank c then (if word.isEmpty then [] else [word.reverse]) ++ wordsFrom [] r
    else wordsFrom (c :: word) r

def words (s : List Char) : List (List Char) := wordsFrom [] s

/-- ASCII letters in lower case; enough to read a key word whatever its case. -/
def lowerAscii (s : List Char) : List Char := s.map Char.toLower

theorem trim_of_not_blank {s : List Char} (h : ∀ c ∈ s, isBlank c = false) : trim s = s := by
  have hdrop {t : List Char} (ht : ∀ c ∈ t, isBlank c = false) : t.dropWhile isBlank = t := by
    cases t with
    | nil => rfl
    | cons c r => simp [ht c List.mem_cons_self]
  have hr : ∀ c ∈ s.reverse, isBlank c = false := fun c hc => h c (List.mem_reverse.1 hc)
  rw [trim, trimLeft, hdrop h, trimRight, hdrop hr, List.reverse_reverse]

theorem split_ne_nil (sep : Char) (s : List Char) : split sep s ≠ [] := by
  cases s with
  | nil => simp [split]
  | cons c r =>
    simp only [split]
    split
    · simp
    · split <;> simp

/-- No piece holds a separator. -/
theorem not_mem_of_mem_split {sep : Char} {s w : List Char} (hw : w ∈ split sep s) : sep ∉ w := by
  induction s generalizing w with
  | nil => simp_all [split]
  | cons c r ih =>
    simp only [split] at hw
    split at hw
    · rcases List.mem_cons.1 hw with rfl | hw
      · simp
      · exact ih hw
    · rename_i hc
      cases hs : split sep r with
      | nil => exact absurd hs (split_ne_nil sep r)
      | cons v vs =>
        rw [hs] at hw ih
        rcases List.mem_cons.1 hw with rfl | hw
        · have := ih (List.mem_cons_self ..)
          simp only [List.mem_cons, not_or]
          exact ⟨fun h => hc h.symm, this⟩
        · exact ih (List.mem_cons_of_mem _ hw)

theorem mem_of_mem_split {sep c : Char} {s w : List Char} (hw : w ∈ split sep s) (hc : c ∈ w) : c ∈ s := by
  induction s generalizing w with
  | nil => simp_all [split]
  | cons d r ih =>
    simp only [split] at hw
    split at hw
    · rcases List.mem_cons.1 hw with rfl | hw
      · cases hc
      · exact List.mem_cons_of_mem d (ih hw hc)
    · cases hs : split sep r with
      | nil => exact absurd hs (split_ne_nil sep r)
      | cons v vs =>
        rw [hs] at hw ih
        rcases List.mem_cons.1 hw with rfl | hw
        · rcases List.mem_cons.1 hc with rfl | hc
          · exact List.mem_cons_self
          · exact List.mem_cons_of_mem d (ih List.mem_cons_self hc)
        · exact List.mem_cons_of_mem d (ih (List.mem_cons_of_mem v hw) hc)

theorem split_of_not_mem {sep : Char} {s : List Char} (h : sep ∉ s) : split sep s = [s] := by
  induction s with
  | nil => rfl
  | cons c r ih =>
    rw [List.mem_cons, not_or] at h
    rw [split, if_neg (Ne.symm h.1), ih h.2]

theorem split_append {sep : Char} {s : List Char} (h : sep ∉ s) (r : List Char) :
    split sep (s ++ sep :: r) = s :: split sep r := by
  induction s with
  | nil => simp [split]
  | cons c s ih =>
    rw [List.mem_cons, not_or] at h
    rw [List.cons_append, split, if_neg (Ne.symm h.1), ih h.2]

theorem cut?_append {sep : Char} {s : List Char} (h : sep ∉ s) (r : List Char) :
    cut? sep (s ++ sep :: r) = some (s, r) := by
  induction s with
  | nil => simp [cut?]
  | cons c s ih =>
    rw [List.mem_cons, not_or] at h
    rw [List.cons_append, cut?, if_neg (Ne.symm h.1), ih h.2, Option.map_some]

theorem eq_of_cut? {sep : Char} {s a b : List Char} (h : cut? sep s = some (a, b)) :
    s = a ++ sep :: b ∧ sep ∉ a := by
  induction s generalizing a b with
  | nil => simp [cut?] at h
  | cons c r ih =>
    simp only [cut?] at h
    split at h
    · rename_i hc
      simp only [Option.some.injEq, Prod.mk.injEq] at h
      obtain ⟨rfl, rfl⟩ := h
      simp [hc]
    · rename_i hc
      obtain ⟨⟨a', b'⟩, hr, he⟩ := Option.map_eq_some_iff.1 h
      simp only [Prod.mk.injEq] at he
      obtain ⟨rfl, rfl⟩ := he
      obtain ⟨hr, hm⟩ := ih hr
      refine ⟨by simp [hr], ?_⟩
      simp only [List.mem_cons, not_or]
      exact ⟨fun h => hc h.symm, hm⟩

theorem cut?_eq_none {sep : Char} {s : List Char} (h : cut? sep s = none) : sep ∉ s := by
  induction s with
  | nil => simp
  | cons c r ih =>
    simp only [cut?] at h
    split at h
    · simp at h
    · rename_i hc
      simp only [List.mem_cons, not_or]
      exact ⟨fun h => hc h.symm, ih (by simpa using h)⟩

end TableGraph.Text
