import Mathlib.Data.List.DropRight
import TableGraph.Text.Blank

/-! # Pieces of a text

A trimmed text begins and ends without a blank (`tight_trim`), and such a text is trimmed already
(`trim_of_tight`). Trimming takes blanks only (`mem_trim_iff`), and on the left none behind a text that is not blank
(`trimLeft_append`). Pieces without the separator, written one after the other with the separator between them,
are what the text is split into again (`split_intercalate`).
-/
namespace TableGraph.Text

/-- Of a text the characters in it are looked at, not all that there are. -/
instance decidableForallChar (p : Char → Prop) [DecidablePred p] (s : List Char) : Decidable (∀ c ∈ s, p c) :=
  List.decidableBAll p s

instance decidableForallEnd (p : Char → Prop) [DecidablePred p] : (o : Option Char) → Decidable (∀ c ∈ o, p c)
  | none => isTrue fun _ hc => nomatch hc
  | some c => decidable_of_iff (p c) ⟨fun h _ hc => Option.some.inj hc ▸ h, fun h => h c rfl⟩

/-- No blank stands at either end. -/
structure Tight (s : List Char) : Prop where
  first : ∀ c ∈ s.head?, isBlank c = false
  last : ∀ c ∈ s.getLast?, isBlank c = false

theorem trim_of_tight {s : List Char} (h : Tight s) : trim s = s := by
  have hleft : trimLeft s = s := by
    cases s with
    | nil => rfl
    | cons c r => simp [trimLeft, h.first c rfl]
  rw [trim, hleft]
  refine List.rdropWhile_eq_self_iff.2 fun hne hblank => ?_
  have hlast := h.last (s.getLast hne) (List.getLast?_eq_some_getLast hne)
  exact Bool.false_ne_true (hlast.symm.trans hblank)

theorem first_dropWhile (s : List Char) : ∀ c ∈ (s.dropWhile isBlank).head?, isBlank c = false := by
  intro c hc
  have h := List.head?_dropWhile_not isBlank s
  rwa [Option.mem_def.1 hc] at h

theorem tight_trim (s : List Char) : Tight (trim s) where
  first c hc := by
    -- the first character stays when the right end is trimmed
    obtain ⟨rest, hrest⟩ : trim s <+: trimLeft s := List.rdropWhile_prefix isBlank _
    refine first_dropWhile s c ?_
    change c ∈ (trimLeft s).head?
    rw [← hrest, List.head?_append, Option.mem_def.1 hc]
    rfl
  last c hc := by
    rw [trim, trimRight, List.getLast?_reverse] at hc
    exact first_dropWhile _ c hc

theorem trim_eq_nil_iff {s : List Char} : trim s = [] ↔ ∀ c ∈ s, isBlank c = true := by
  constructor
  · intro h c hc
    have hleft : ∀ d ∈ trimLeft s, isBlank d = true := List.rdropWhile_eq_nil_iff.1 h
    cases hs : trimLeft s with
    | nil => exact List.dropWhile_eq_nil_iff.1 hs c hc
    | cons d r =>
      have hd := first_dropWhile s d (by rw [show s.dropWhile isBlank = d :: r from hs]; rfl)
      rw [hleft d (hs ▸ List.mem_cons_self)] at hd
      cases hd
  · intro h
    have hleft : trimLeft s = [] := List.dropWhile_eq_nil_iff.2 h
    rw [trim, hleft]
    rfl

/-! ## Trimming on the left -/

theorem trimLeft_trimLeft (s : List Char) : trimLeft (trimLeft s) = trimLeft s := List.dropWhile_idempotent isBlank s

theorem trim_trimLeft (s : List Char) : trim (trimLeft s) = trim s := by
  rw [trim, trimLeft_trimLeft, trim]

theorem trimLeft_subset (s : List Char) : trimLeft s ⊆ s := (List.dropWhile_suffix isBlank).subset

/-- Trimming takes blanks only. -/
theorem mem_trimLeft_iff {s : List Char} {c : Char} (hc : isBlank c = false) : c ∈ trimLeft s ↔ c ∈ s := by
  refine ⟨fun h => trimLeft_subset s h, fun h => ?_⟩
  rw [← List.takeWhile_append_dropWhile (p := isBlank) (l := s)] at h
  rcases List.mem_append.1 h with h | h
  · rw [List.mem_takeWhile_imp h] at hc
    cases hc
  · exact h

theorem mem_trim_iff {s : List Char} {c : Char} (hc : isBlank c = false) : c ∈ trim s ↔ c ∈ s := by
  have hright : trim s = (trimLeft (trimLeft s).reverse).reverse := rfl
  rw [hright, List.mem_reverse, mem_trimLeft_iff hc, List.mem_reverse, mem_trimLeft_iff hc]

/-- Behind a text that is not blank nothing is trimmed on the left. -/
theorem trimLeft_append {s : List Char} (hs : trim s ≠ []) (t : List Char) : trimLeft (s ++ t) = trimLeft s ++ t := by
  have hne : (s.dropWhile isBlank).isEmpty = false := by
    rw [Bool.eq_false_iff]
    intro hnil
    refine hs (trim_eq_nil_iff.2 fun c hc => ?_)
    exact List.dropWhile_eq_nil_iff.1 (List.isEmpty_iff.1 hnil) c hc
  rw [trimLeft, List.dropWhile_append, hne]
  rfl

theorem tight_append {s t : List Char} (hs : s ≠ []) (ht : t ≠ []) (hfirst : ∀ c ∈ s.head?, isBlank c = false)
    (hlast : ∀ c ∈ t.getLast?, isBlank c = false) : Tight (s ++ t) where
  first c hc := by
    rw [List.head?_append_of_ne_nil _ hs] at hc
    exact hfirst c hc
  last c hc := by
    rw [List.getLast?_append_of_ne_nil _ ht] at hc
    exact hlast c hc

/-! ## Split and put together -/

/-- The pieces of two texts put together with the separator between them. -/
theorem split_joined (sep : Char) (s t : List Char) : split sep (s ++ sep :: t) = split sep s ++ split sep t := by
  induction s with
  | nil => simp [split]
  | cons c r ih =>
    rw [List.cons_append, split, split, ih]
    split
    · rfl
    · cases hr : split sep r with
      | nil => exact absurd hr (split_ne_nil sep r)
      | cons w ws => rfl

theorem split_intercalate {sep : Char} {pieces : List (List Char)} (hne : pieces ≠ [])
    (h : ∀ w ∈ pieces, sep ∉ w) : split sep ([sep].intercalate pieces) = pieces := by
  induction pieces with
  | nil => exact absurd rfl hne
  | cons w rest ih =>
    obtain ⟨hw, hrest⟩ := List.forall_mem_cons.1 h
    cases rest with
    | nil => rw [List.intercalate_singleton, split_of_not_mem hw]
    | cons v more =>
      rw [List.intercalate_cons_cons, List.append_assoc, List.singleton_append, split_append hw,
        ih (List.cons_ne_nil v more) hrest]

end TableGraph.Text
