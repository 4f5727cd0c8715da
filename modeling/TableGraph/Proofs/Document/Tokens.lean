import Mathlib.Data.List.Forall2
import TableGraph.Document.Token
import TableGraph.Proofs.Naming.Validity

/-! # Reading tokens piece by piece

A text without a comment is read as its tokens whatever comes before it or after it, as long as no name
runs on over its end. So the tokens of a text that is put together from pieces are those of its pieces, and
blanks between them do not show.
-/
namespace TableGraph.Document

/-- The characters are read as these tokens, and no comment starts in them. -/
structure Lexes (s : List Char) (ts : List Token) : Prop where
  tokens : tokensFrom? [] false s = some ts
  uncommented : '#' ∉ s

/-- The text does not start with a character that a name before it would go on with. -/
def Detached (s : List Char) : Prop := ∀ c ∈ s.head?, Name.isPart c = false

/-- The characters of a name, which may be reserved. -/
structure IsWord (s : List Char) : Prop where
  start : ∃ c ∈ s.head?, Name.isStart c = true
  parts : ∀ c ∈ s, Name.isPart c = true

theorem isPart_of_isIgnored {c : Char} (h : isIgnored c = true) : Name.isPart c = false := by
  have hall : [' ', '\t', '\n', '\r', ',', Char.ofNat 0xfeff].all (fun d => !Name.isPart d) = true := by decide
  simpa using List.all_eq_true.1 hall c (by simpa [isIgnored] using h)

theorem isPart_of_isPunctuator {c : Char} (h : isPunctuator c = true) :
    Name.isPart c = false ∧ isIgnored c = false ∧ c ≠ '#' := by
  have hall : ['!', '(', ')', '[', ']', ':', '\x7b', '\x7d'].all
      (fun d => !Name.isPart d && !isIgnored d && d ≠ '#') = true := by decide
  simpa [and_assoc] using List.all_eq_true.1 hall c (by simpa [isPunctuator] using h)

theorem isWord_iff (s : List Char) : IsWord s ↔ s.head?.any Name.isStart = true ∧ s.all Name.isPart = true := by
  rw [Option.any_eq_true, List.all_eq_true]
  exact ⟨fun h => ⟨h.start, h.parts⟩, fun h => ⟨h.1, h.2⟩⟩

instance (s : List Char) : Decidable (IsWord s) := decidable_of_iff _ (isWord_iff s).symm

theorem isWord_cons {c : Char} {r : List Char} (hc : Name.isStart c = true) (hr : ∀ d ∈ r, Name.isPart d = true) :
    IsWord (c :: r) where
  start := ⟨c, rfl, hc⟩
  parts := List.forall_mem_cons.2 ⟨Name.isPart_of_isStart hc, hr⟩

theorem exists_cons_of_isWord {s : List Char} (h : IsWord s) :
    ∃ c r, s = c :: r ∧ Name.isStart c = true ∧ ∀ d ∈ r, Name.isPart d = true := by
  obtain ⟨⟨c, hc, hstart⟩, hparts⟩ := h
  cases s with
  | nil => cases hc
  | cons d r =>
    obtain rfl : d = c := Option.some.inj hc
    exact ⟨d, r, rfl, hstart, (List.forall_mem_cons.1 hparts).2⟩

/-! ## What is held back -/

/-- A name that is held back ends where the text goes on with something else. -/
theorem tokensFrom?_detached (held : List Char) {rest : List Char} (h : Detached rest) :
    tokensFrom? held false rest = (closeName held ++ ·) <$> tokensFrom? [] false rest := by
  cases rest with
  | nil => simp [tokensFrom?, closeName]
  | cons c r =>
    have hc : Name.isPart c = false := h c rfl
    have hnone : closeName [] = [] := rfl
    simp [tokensFrom?, hc, hnone]

theorem tokensFrom?_cons (held : List Char) (c : Char) (r : List Char) :
    tokensFrom? held false (c :: r) =
      if Name.isPart c && (!held.isEmpty || Name.isStart c) then tokensFrom? (c :: held) false r
      else (closeName held ++ ·) <$>
        if isIgnored c then tokensFrom? [] false r
        else if c = '#' then tokensFrom? [] true r
        else if isPunctuator c then (.punctuator c :: ·) <$> tokensFrom? [] false r
        else none := by
  rw [tokensFrom?, if_neg Bool.false_ne_true]

/-- What was read of a text is still read of it when more comes after it. -/
theorem tokensFrom?_append {s held : List Char} {ts : List Token} (hs : tokensFrom? held false s = some ts)
    (hc : '#' ∉ s) {rest : List Char} (hr : Detached rest) :
    tokensFrom? held false (s ++ rest) = (ts ++ ·) <$> tokensFrom? [] false rest := by
  induction s generalizing held ts with
  | nil =>
    obtain rfl : closeName held = ts := Option.some.inj hs
    exact tokensFrom?_detached held hr
  | cons c r ih =>
    obtain ⟨hne, hc⟩ : '#' ≠ c ∧ '#' ∉ r := by simpa using hc
    rw [tokensFrom?_cons] at hs
    rw [List.cons_append, tokensFrom?_cons]
    by_cases hname : (Name.isPart c && (!held.isEmpty || Name.isStart c)) = true
    · rw [if_pos hname] at hs ⊢
      exact ih hs hc
    · rw [if_neg hname] at hs ⊢
      obtain ⟨us, hus, rfl⟩ := Option.map_eq_some_iff.1 hs
      by_cases hi : isIgnored c = true
      · rw [if_pos hi] at hus ⊢
        rw [ih hus hc]
        simp [Function.comp_def]
      · rw [if_neg hi, if_neg hne.symm] at hus ⊢
        by_cases hp : isPunctuator c = true
        · rw [if_pos hp] at hus ⊢
          obtain ⟨vs, hvs, rfl⟩ := Option.map_eq_some_iff.1 hus
          rw [ih hvs hc]
          simp [Function.comp_def]
        · rw [if_neg hp] at hus
          cases hus

theorem tokensFrom?_word {r : List Char} (hr : ∀ d ∈ r, Name.isPart d = true) {held : List Char}
    (hheld : held ≠ []) : tokensFrom? held false r = some [.name (String.ofList (held.reverse ++ r))] := by
  induction r generalizing held with
  | nil => simp [tokensFrom?, closeName, hheld]
  | cons c r ih =>
    obtain ⟨hc, hr⟩ := List.forall_mem_cons.1 hr
    have hmore := ih hr (List.cons_ne_nil c held)
    simpa [tokensFrom?, hc, hheld] using hmore

/-! ## Pieces -/

namespace Lexes

theorem nil : Lexes [] [] := ⟨rfl, List.not_mem_nil⟩

theorem word {s : List Char} (h : IsWord s) : Lexes s [.name (String.ofList s)] where
  tokens := by
    obtain ⟨c, r, rfl, hc, hr⟩ := exists_cons_of_isWord h
    have hrest := tokensFrom?_word hr (List.cons_ne_nil c [])
    simpa [tokensFrom?, Name.isPart_of_isStart hc, hc] using hrest
  uncommented := by
    intro hm
    have hno : Name.isPart '#' = false := by decide
    rw [h.parts '#' hm] at hno
    cases hno

theorem append {s t : List Char} {ts us : List Token} (hs : Lexes s ts) (ht : Lexes t us) (hd : Detached t) :
    Lexes (s ++ t) (ts ++ us) where
  tokens := by
    rw [tokensFrom?_append hs.tokens hs.uncommented hd, ht.tokens]
    rfl
  uncommented := by
    rw [List.mem_append, not_or]
    exact ⟨hs.uncommented, ht.uncommented⟩

theorem cons_ignored {c : Char} (hc : isIgnored c = true) {s : List Char} {ts : List Token} (h : Lexes s ts) :
    Lexes (c :: s) ts where
  tokens := by
    have hnone : closeName [] = [] := rfl
    simp [tokensFrom?, isPart_of_isIgnored hc, hc, hnone, h.tokens]
  uncommented := by
    have hne : '#' ≠ c := by
      rintro rfl
      cases hc
    simp [hne, h.uncommented]

theorem cons_punctuator {c : Char} (hc : isPunctuator c = true) {s : List Char} {ts : List Token} (h : Lexes s ts) :
    Lexes (c :: s) (.punctuator c :: ts) where
  tokens := by
    obtain ⟨hpart, hignored, hne⟩ := isPart_of_isPunctuator hc
    have hnone : closeName [] = [] := rfl
    simp [tokensFrom?, hpart, hignored, hne, hc, hnone, h.tokens]
  uncommented := by
    obtain ⟨-, -, hne⟩ := isPart_of_isPunctuator hc
    simp [hne.symm, h.uncommented]

theorem ignored_append {gap : List Char} (hgap : ∀ c ∈ gap, isIgnored c = true) {s : List Char} {ts : List Token}
    (h : Lexes s ts) : Lexes (gap ++ s) ts := by
  induction gap with
  | nil => exact h
  | cons c r ih =>
    obtain ⟨hc, hr⟩ := List.forall_mem_cons.1 hgap
    exact cons_ignored hc (ih hr)

/-- Pieces with blanks between them. -/
theorem intercalate {gap : List Char} (hgap : ∀ c ∈ gap, isIgnored c = true) (hne : gap ≠ [])
    {pieces : List (List Char)} {tss : List (List Token)} (h : List.Forall₂ Lexes pieces tss) :
    Lexes (gap.intercalate pieces) tss.flatten := by
  induction h with
  | nil => exact nil
  | @cons p ts rest uss hp hrest ih =>
    cases hrest with
    | nil => simpa using hp
    | @cons q us more vss hq hmore =>
      rw [List.intercalate_cons_cons, List.append_assoc, List.flatten_cons]
      refine append hp (ignored_append hgap ih) ?_
      intro c hc
      cases gap with
      | nil => exact absurd rfl hne
      | cons g r =>
        obtain rfl : g = c := Option.some.inj hc
        exact isPart_of_isIgnored (hgap g List.mem_cons_self)

end Lexes

end TableGraph.Document
