import Mathlib.Data.List.Forall2
import TableGraph.Proofs.Schema.KeySets

/-! # Plain values

A value is plain if it is made of scalars, lists and maps only, and no map has two entries of one name, as
in every text form of data. A plain value is the same as itself, and so is whatever it holds.
-/
namespace TableGraph.Value

mutual

def IsPlain : Value → Prop
  | scalar _ => True
  | list items => ArePlain items
  | map entries => (Assoc.keys entries).Nodup ∧ EntriesPlain entries
  | record row _ => (Assoc.keys row).Nodup ∧ EntriesPlain row
  | object _ => False

def ArePlain : List Value → Prop
  | [] => True
  | v :: r => v.IsPlain ∧ ArePlain r

def EntriesPlain : List (String × Value) → Prop
  | [] => True
  | (_, v) :: r => v.IsPlain ∧ EntriesPlain r

end

theorem arePlain_iff {items : List Value} : ArePlain items ↔ ∀ v ∈ items, v.IsPlain := by
  induction items with
  | nil => simp [ArePlain]
  | cons v r ih => simp [ArePlain, ih]

theorem entriesPlain_iff {entries : List (String × Value)} : EntriesPlain entries ↔ ∀ p ∈ entries, p.2.IsPlain := by
  induction entries with
  | nil => simp [EntriesPlain]
  | cons p r ih => simp [EntriesPlain, ih]

/-- The entries of a plain value have names of their own and hold plain values. -/
theorem IsPlain.entries {v : Value} (h : v.IsPlain) {m : Assoc String Value} (hm : v.entries? = some m) :
    (Assoc.keys m).Nodup ∧ ∀ p ∈ m, p.2.IsPlain := by
  unfold entries? at hm
  split at hm
  · cases hm
    rw [IsPlain, entriesPlain_iff] at h
    exact h
  · cases hm
    rw [IsPlain, entriesPlain_iff] at h
    exact h
  · cases hm

theorem IsPlain.items {v : Value} (h : v.IsPlain) {l : List Value} (hl : v.iterated = .ok l) : ∀ w ∈ l, w.IsPlain := by
  unfold iterated at hl
  split at hl
  · cases hl
    rw [IsPlain, arePlain_iff] at h
    exact h
  · cases hl
    simp
  · cases hl
    simp
  · cases hl

/-! ## Sameness -/

mutual

theorem IsPlain.same_self : ∀ {v : Value}, v.IsPlain → v.same v = true
  | scalar a, _ => by
    rw [same]
    exact a.same_refl
  | list items, h => by
    rw [same]
    exact sameItems_self (by simpa [IsPlain] using h)
  | map entries, h => by
    rw [IsPlain] at h
    rw [same, decide_eq_true rfl, Bool.true_and]
    exact sameEntries_self h.2 fun p hp => Assoc.get?_eq_some_of_mem h.1 hp
  | record row args, h => by
    rw [IsPlain] at h
    rw [same, decide_eq_true rfl, Bool.true_and]
    exact sameEntries_self h.2 fun p hp => Assoc.get?_eq_some_of_mem h.1 hp
  | object attributes, h => by
    rw [IsPlain] at h
    exact h.elim

theorem sameItems_self : ∀ {items : List Value}, ArePlain items → sameItems items items = true
  | [], _ => by rw [sameItems]
  | v :: r, h => by
    rw [ArePlain] at h
    rw [sameItems, h.1.same_self, sameItems_self h.2]
    rfl

/-- Entries that a map holds have their likes in it. -/
theorem sameEntries_self : ∀ {entries m : List (String × Value)}, EntriesPlain entries →
    (∀ p ∈ entries, Assoc.get? m p.1 = some p.2) → sameEntries entries m = true
  | [], _, _, _ => by rw [sameEntries]
  | (k, v) :: r, m, h, hm => by
    rw [EntriesPlain] at h
    have hk : Assoc.get? m k = some v := hm (k, v) List.mem_cons_self
    have hr := sameEntries_self h.2 fun p hp => hm p (List.mem_cons_of_mem (k, v) hp)
    rw [sameEntries, hk, hr]
    simpa using h.1.same_self

end

end TableGraph.Value
