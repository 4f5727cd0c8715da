import TableGraph.Schema.Outline

/-! # Foreign keys as a set

Whether the foreign keys of a table can be put in order depends on the set of them only
(`toBool_sorted_eq`). Of keys that are the same one is kept, and it stands for the others: two scalars
that are the same have one place on the line of numbers, or are one scalar, so the order of two keys
is that of any two that are the same as they.
-/
namespace TableGraph

namespace Scalar

theorem same_iff {a b : Scalar} : a.same b = true ↔ a.place? = b.place? ∧ (a.place? = none → a = b) := by
  unfold same
  cases ha : a.place? with
  | none =>
    cases hb : b.place? with
    | none => simp
    | some q => simp
  | some p =>
    cases hb : b.place? with
    | none => simp
    | some q => simp

theorem same_refl (a : Scalar) : a.same a = true := same_iff.2 ⟨rfl, fun _ => rfl⟩

theorem same_symm {a b : Scalar} (h : a.same b = true) : b.same a = true := by
  obtain ⟨hplace, heq⟩ := same_iff.1 h
  exact same_iff.2 ⟨hplace.symm, fun hb => (heq (hplace.trans hb)).symm⟩

theorem same_trans {a b c : Scalar} (hab : a.same b = true) (hbc : b.same c = true) : a.same c = true := by
  obtain ⟨hplace, heq⟩ := same_iff.1 hab
  obtain ⟨hplace', heq'⟩ := same_iff.1 hbc
  exact same_iff.2 ⟨hplace.trans hplace', fun ha => (heq ha).trans (heq' (hplace ▸ ha))⟩

theorem same_congr {a a' b b' : Scalar} (ha : a.same a' = true) (hb : b.same b' = true) :
    a.same b = a'.same b' := by
  rw [Bool.eq_iff_iff]
  constructor
  · exact fun h => same_trans (same_symm ha) (same_trans h hb)
  · exact fun h => same_trans ha (same_trans h (same_symm hb))

/-- Unless both are texts the places decide. -/
theorem before?_eq {a b : Scalar} (h : a.place? ≠ none ∨ b.place? ≠ none) :
    a.before? b = a.place?.bind fun p => b.place?.map p.lt := by
  unfold before?
  split
  · rcases h with h | h
    · exact absurd rfl h
    · exact absurd rfl h
  · split
    · rename_i p q ha hb
      rw [ha, hb]
      rfl
    · rename_i hno
      cases ha : a.place? with
      | none => rfl
      | some p =>
        cases hb : b.place? with
        | none => rfl
        | some q => exact absurd hb (hno p q ha)

theorem before?_congr {a a' b b' : Scalar} (ha : a.same a' = true) (hb : b.same b' = true) :
    a.before? b = a'.before? b' := by
  obtain ⟨hplace, heq⟩ := same_iff.1 ha
  obtain ⟨hplace', heq'⟩ := same_iff.1 hb
  by_cases h : a.place? = none ∧ b.place? = none
  · rw [heq h.1, heq' h.2]
  · have hno : a.place? ≠ none ∨ b.place? ≠ none := Decidable.not_and_iff_or_not.1 h
    rw [before?_eq hno, hplace, hplace']
    rw [hplace, hplace'] at hno
    exact (before?_eq hno).symm

end Scalar

namespace Value

theorem isScalar_of_same {v w : Value} (h : v.same w = true) (hw : w.isScalar = true) : v.isScalar = true := by
  cases w with
  | scalar b =>
    cases v with
    | scalar a => rfl
    | list a => simp [same] at h
    | map a => simp [same] at h
    | record a args => simp [same] at h
    | object a => simp [same] at h
  | list b => cases hw
  | map b => cases hw
  | record b args => cases hw
  | object b => cases hw

theorem exists_scalar {v : Value} (h : v.isScalar = true) : ∃ s, v = .scalar s := by
  cases v with
  | scalar s => exact ⟨s, rfl⟩
  | list items => cases h
  | map entries => cases h
  | record row args => cases h
  | object attributes => cases h

/-- Values of which the second is a scalar are the same only if they are two scalars that are. -/
theorem same_scalar {v w : Value} (h : v.same w = true) (hw : w.isScalar = true) :
    ∃ a b, v = .scalar a ∧ w = .scalar b ∧ a.same b = true := by
  obtain ⟨b, rfl⟩ := exists_scalar hw
  obtain ⟨a, rfl⟩ := exists_scalar (isScalar_of_same h hw)
  exact ⟨a, b, rfl, rfl, by simpa [same] using h⟩

theorem same_congr {v v' w w' : Value} (hv : v.same v' = true) (hw : w.same w' = true) (hsv : v'.isScalar = true)
    (hsw : w'.isScalar = true) : v.same w = v'.same w' ∧ v.before? w = v'.before? w' := by
  obtain ⟨a, a', rfl, rfl, ha⟩ := same_scalar hv hsv
  obtain ⟨b, b', rfl, rfl, hb⟩ := same_scalar hw hsw
  simpa [same, before?] using ⟨Scalar.same_congr ha hb, Scalar.before?_congr ha hb⟩

end Value

namespace OutlineKey

def IsScalar (f : OutlineKey) : Prop := f.labels.all Value.isScalar = true

theorem sameItems_nil {m : List Value} : Value.sameItems [] m = true ↔ m = [] := by
  cases m with
  | nil => simp [Value.sameItems]
  | cons b s => simp [Value.sameItems]

theorem sameItems_cons {a : Value} {r m : List Value} : Value.sameItems (a :: r) m = true ↔
    ∃ b s, m = b :: s ∧ a.same b = true ∧ Value.sameItems r s = true := by
  cases m with
  | nil => simp [Value.sameItems]
  | cons b s =>
    rw [Value.sameItems, Bool.and_eq_true]
    constructor
    · exact fun h => ⟨b, s, rfl, h⟩
    · rintro ⟨b', s', he, h⟩
      obtain ⟨rfl, rfl⟩ := List.cons.inj he
      exact h

theorem all_isScalar_of_same {l m : List Value} (h : Value.sameItems l m = true) (hm : m.all Value.isScalar = true) :
    l.all Value.isScalar = true := by
  induction l generalizing m with
  | nil => rfl
  | cons a r ih =>
    obtain ⟨b, s, rfl, hab, hrs⟩ := sameItems_cons.1 h
    rw [List.all_cons, Bool.and_eq_true] at hm ⊢
    exact ⟨Value.isScalar_of_same hab hm.1, ih hrs hm.2⟩

theorem sameItems_refl {l : List Value} (h : l.all Value.isScalar = true) : Value.sameItems l l = true := by
  induction l with
  | nil => rfl
  | cons v r ih =>
    rw [List.all_cons, Bool.and_eq_true] at h
    obtain ⟨a, rfl⟩ := Value.exists_scalar h.1
    refine sameItems_cons.2 ⟨_, r, rfl, ?_, ih h.2⟩
    simpa [Value.same] using Scalar.same_refl a

/-- Lists of scalars compare like any that are the same. -/
theorem items_congr {l l' m m' : List Value} (hl : Value.sameItems l l' = true) (hm : Value.sameItems m m' = true)
    (hl' : l'.all Value.isScalar = true) (hm' : m'.all Value.isScalar = true) :
    Value.sameItems l m = Value.sameItems l' m' ∧ before? l m = before? l' m' := by
  induction l generalizing l' m m' with
  | nil =>
    obtain rfl := sameItems_nil.1 hl
    cases m with
    | nil =>
      obtain rfl := sameItems_nil.1 hm
      exact ⟨rfl, rfl⟩
    | cons b s =>
      obtain ⟨b', s', rfl, -, -⟩ := sameItems_cons.1 hm
      exact ⟨rfl, rfl⟩
  | cons a r ih =>
    obtain ⟨a', r', rfl, ha, hr⟩ := sameItems_cons.1 hl
    cases m with
    | nil =>
      obtain rfl := sameItems_nil.1 hm
      exact ⟨rfl, rfl⟩
    | cons b s =>
      obtain ⟨b', s', rfl, hb, hs⟩ := sameItems_cons.1 hm
      rw [List.all_cons, Bool.and_eq_true] at hl' hm'
      obtain ⟨hsame, hbefore⟩ := Value.same_congr ha hb hl'.1 hm'.1
      obtain ⟨hitems, hrest⟩ := ih hr hs hl'.2 hm'.2
      simp only [Value.sameItems, before?, hsame, hbefore, hitems, hrest, and_self]

/-! ## The distinct keys -/

theorem mem_of_mem_distinct {held keys : List OutlineKey} {f : OutlineKey} (h : f ∈ distinct held keys) :
    f ∈ held ∨ f ∈ keys := by
  induction keys generalizing held with
  | nil => exact .inl h
  | cons g r ih =>
    rcases ih h with hm | hm
    · split at hm
      · exact .inl hm
      · rcases List.mem_append.1 hm with hm | hm
        · exact .inl hm
        · exact .inr (List.mem_cons.2 (.inl (List.mem_singleton.1 hm)))
    · exact .inr (List.mem_cons_of_mem g hm)

theorem mem_distinct_of_held {held : List OutlineKey} (keys : List OutlineKey) {f : OutlineKey} (h : f ∈ held) :
    f ∈ distinct held keys := by
  induction keys generalizing held with
  | nil => exact h
  | cons g r ih =>
    apply ih
    split
    · exact h
    · exact List.mem_append_left _ h

/-- Every key is among the distinct ones or the same as one of them. -/
theorem exists_mem_distinct (held : List OutlineKey) {keys : List OutlineKey} {f : OutlineKey} (h : f ∈ keys) :
    ∃ g ∈ distinct held keys, f = g ∨ f.same g = true := by
  induction keys generalizing held with
  | nil => cases h
  | cons k r ih =>
    rcases List.mem_cons.1 h with rfl | h
    · rw [distinct]
      split
      · rename_i hany
        obtain ⟨g, hg, hsame⟩ := List.any_eq_true.1 hany
        exact ⟨g, mem_distinct_of_held r hg, .inr hsame⟩
      · exact ⟨f, mem_distinct_of_held r (List.mem_append_right _ (List.mem_singleton.2 rfl)), .inl rfl⟩
    · exact ih _ h

/-- Keys of scalars any two of which are the same or compare. -/
def Orderly (keys : List OutlineKey) : Prop :=
  ∀ f ∈ keys, f.IsScalar ∧ ∀ g ∈ keys, f.same g = true ∨ f.comparable g = true

theorem orderly_distinct_iff (keys : List OutlineKey) : Orderly (distinct [] keys) ↔ Orderly keys := by
  constructor
  · intro h
    have hlike : ∀ f ∈ keys, ∃ g ∈ distinct [] keys, g.IsScalar ∧ f.same g = true := by
      intro f hf
      obtain ⟨g, hg, hfg⟩ := exists_mem_distinct [] hf
      refine ⟨g, hg, (h g hg).1, ?_⟩
      rcases hfg with rfl | hsame
      · exact sameItems_refl (h f hg).1
      · exact hsame
    intro f hf
    obtain ⟨f', hf', hscalar, hsame⟩ := hlike f hf
    refine ⟨all_isScalar_of_same hsame hscalar, ?_⟩
    intro g hg
    obtain ⟨g', hg', hscalar', hsame'⟩ := hlike g hg
    obtain ⟨hitems, hbefore⟩ := items_congr hsame hsame' hscalar hscalar'
    have hcompared := (h f' hf').2 g' hg'
    rwa [same, comparable, ← hitems, ← hbefore] at hcompared
  · intro h f hf
    have hsub : ∀ g ∈ distinct [] keys, g ∈ keys := by
      intro g hg
      rcases mem_of_mem_distinct hg with hg | hg
      · cases hg
      · exact hg
    exact ⟨(h f (hsub f hf)).1, fun g hg => (h f (hsub f hf)).2 g (hsub g hg)⟩

theorem toBool_sorted_iff (keys : List OutlineKey) : (sorted keys).toBool = true ↔ Orderly keys := by
  rw [← orderly_distinct_iff]
  simp only [sorted]
  split
  · rename_i h
    simp only [List.all_eq_true, Bool.and_eq_true, Bool.or_eq_true] at h
    refine iff_of_true rfl fun f hf => ?_
    exact ⟨List.all_eq_true.2 (h f hf).1, (h f hf).2⟩
  · rename_i h
    refine iff_of_false Bool.false_ne_true fun ho => h ?_
    simp only [List.all_eq_true, Bool.and_eq_true, Bool.or_eq_true]
    exact fun f hf => ⟨List.all_eq_true.1 (ho f hf).1, (ho f hf).2⟩

/-- Neither the order nor the repetition of keys decides whether they can be put in order. -/
theorem toBool_sorted_eq {keys others : List OutlineKey} (h : ∀ f, f ∈ keys ↔ f ∈ others) :
    (sorted keys).toBool = (sorted others).toBool := by
  rw [Bool.eq_iff_iff, toBool_sorted_iff, toBool_sorted_iff]
  simp only [Orderly, h]

end OutlineKey

end TableGraph
