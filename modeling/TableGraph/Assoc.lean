/-! # Maps in insertion order

A map is a list of pairs. `put` gives a present key its new value in place and appends an absent
one, so the keys stay in the order in which they first came (`keys_put`). `get?` reads the first
pair of a key; `get?_put`, `get?_drop` and `get?_overlay` say what each operation does to it. Of the
pairs laid over a map the last one of a key counts.
-/
namespace TableGraph

abbrev Assoc (κ ν : Type) := List (κ × ν)

namespace Assoc
variable {κ ν : Type} [DecidableEq κ]

def get? (m : Assoc κ ν) (k : κ) : Option ν := (m.find? fun p => p.1 = k).map Prod.snd

def keys (m : Assoc κ ν) : List κ := m.map Prod.fst

def has (m : Assoc κ ν) (k : κ) : Bool := m.any fun p => p.1 = k

def put (m : Assoc κ ν) (k : κ) (v : ν) : Assoc κ ν :=
  match m with
  | [] => [(k, v)]
  | p :: r => if p.1 = k then (k, v) :: r else p :: put r k v

def drop (m : Assoc κ ν) (k : κ) : Assoc κ ν := m.filter fun p => p.1 ≠ k

/-- The value of one key goes through `f`, which is given `none` if the key is absent. -/
def change (m : Assoc κ ν) (k : κ) (f : Option ν → ν) : Assoc κ ν := put m k (f (get? m k))

/-- All pairs of `n` put into `m` in their order. -/
def overlay (m n : Assoc κ ν) : Assoc κ ν := n.foldl (fun m p => put m p.1 p.2) m

def ofList (pairs : List (κ × ν)) : Assoc κ ν := overlay [] pairs

@[simp] theorem get?_nil (k : κ) : get? ([] : Assoc κ ν) k = none := rfl

theorem get?_cons (p : κ × ν) (m : Assoc κ ν) (k : κ) :
    get? (p :: m) k = if p.1 = k then some p.2 else get? m k := by
  by_cases h : p.1 = k <;> simp [get?, h]

theorem get?_put (m : Assoc κ ν) (k j : κ) (v : ν) :
    get? (put m k v) j = if k = j then some v else get? m j := by
  induction m with
  | nil => simp [put, get?_cons]
  | cons p r ih => grind [put, get?_cons]

theorem get?_drop (m : Assoc κ ν) (k j : κ) :
    get? (drop m k) j = if k = j then none else get? m j := by
  induction m with
  | nil => simp [drop]
  | cons p r ih =>
    by_cases hp : p.1 = k
    · have : drop (p :: r) k = drop r k := by simp [drop, hp]
      rw [this, ih, get?_cons, hp]
      split <;> rfl
    · have : drop (p :: r) k = p :: drop r k := by simp [drop, hp]
      rw [this, get?_cons, get?_cons, ih]
      by_cases hj : p.1 = j
      · simp [hj, show ¬ k = j from fun h => hp (hj.trans h.symm)]
      · simp [hj]

theorem has_iff (m : Assoc κ ν) (k : κ) : has m k = true ↔ k ∈ keys m := by
  simp only [has, keys, List.any_eq_true, decide_eq_true_eq, List.mem_map]

theorem get?_isSome (m : Assoc κ ν) (k : κ) : (get? m k).isSome = has m k := by
  induction m with
  | nil => rfl
  | cons p r ih => by_cases h : p.1 = k <;> simp_all [get?_cons, has]

theorem keys_put (m : Assoc κ ν) (k : κ) (v : ν) :
    keys (put m k v) = if k ∈ keys m then keys m else keys m ++ [k] := by
  induction m with
  | nil => simp [put, keys]
  | cons p r ih => grind [put, keys]

theorem nodup_put {m : Assoc κ ν} (h : (keys m).Nodup) (k : κ) (v : ν) : (keys (put m k v)).Nodup := by
  rw [keys_put]
  split
  · exact h
  · rename_i hk
    rw [List.nodup_append]
    refine ⟨h, by simp, fun a ha b hb => ?_⟩
    rw [List.mem_singleton.1 hb]
    exact fun he => hk (he ▸ ha)

theorem mem_put {m : Assoc κ ν} {k : κ} {v : ν} {p : κ × ν} (h : p ∈ put m k v) : p = (k, v) ∨ p ∈ m := by
  induction m with
  | nil => exact .inl (List.mem_singleton.1 h)
  | cons q r ih =>
    by_cases hq : q.1 = k
    · rw [put, if_pos hq] at h
      rcases List.mem_cons.1 h with h | h
      · exact .inl h
      · exact .inr (List.mem_cons_of_mem q h)
    · rw [put, if_neg hq] at h
      rcases List.mem_cons.1 h with rfl | h
      · exact .inr List.mem_cons_self
      · rcases ih h with h | h
        · exact .inl h
        · exact .inr (List.mem_cons_of_mem q h)

theorem put_ne_nil (m : Assoc κ ν) (k : κ) (v : ν) : put m k v ≠ [] := by
  cases m with
  | nil => exact List.cons_ne_nil _ _
  | cons q r =>
    rw [put]
    split <;> exact List.cons_ne_nil _ _

theorem mem_overlay {m n : Assoc κ ν} {p : κ × ν} (h : p ∈ overlay m n) : p ∈ m ∨ p ∈ n := by
  induction n generalizing m with
  | nil => exact .inl h
  | cons q r ih =>
    rcases ih h with h | h
    · rcases mem_put h with rfl | h
      · exact .inr List.mem_cons_self
      · exact .inl h
    · exact .inr (List.mem_cons_of_mem q h)

theorem nodup_overlay {m : Assoc κ ν} (h : (keys m).Nodup) (n : Assoc κ ν) :
    (keys (overlay m n)).Nodup := by
  induction n generalizing m with
  | nil => exact h
  | cons p r ih => exact ih (nodup_put h p.1 p.2)

theorem put_of_not_mem {m : Assoc κ ν} {k : κ} (h : k ∉ keys m) (v : ν) : put m k v = m ++ [(k, v)] := by
  induction m with
  | nil => rfl
  | cons p r ih =>
    rw [keys, List.map_cons, List.mem_cons, not_or] at h
    rw [put, if_neg (Ne.symm h.1), ih h.2, List.cons_append]

theorem put_put (m : Assoc κ ν) (k : κ) (v w : ν) : put (put m k v) k w = put m k w := by
  induction m with
  | nil => simp [put]
  | cons p r ih => by_cases h : p.1 = k <;> simp [put, h, ih]

/-- To put what is there already changes nothing. -/
theorem put_eq_self_iff {m : Assoc κ ν} {k : κ} {v : ν} : put m k v = m ↔ get? m k = some v := by
  constructor
  · intro h
    rw [← h, get?_put, if_pos rfl]
  · intro h
    induction m with
    | nil => cases h
    | cons p r ih =>
      obtain ⟨j, w⟩ := p
      rw [get?_cons] at h
      by_cases hj : j = k
      · subst hj
        rw [if_pos rfl] at h
        obtain rfl := Option.some.inj h
        exact if_pos rfl
      · rw [if_neg hj] at h
        rw [put, if_neg hj, ih h]

/-- What else is put does not move a key that is there already. -/
theorem put_comm {m : Assoc κ ν} {j k : κ} (hne : j ≠ k) (hk : k ∈ keys m) (v w : ν) :
    put (put m j v) k w = put (put m k w) j v := by
  induction m with
  | nil => cases hk
  | cons p r ih =>
    by_cases hpj : p.1 = j
    · simp [put, hpj, hne]
    · by_cases hpk : p.1 = k
      · simp [put, hpk, Ne.symm hne]
      · have hr : k ∈ keys r := (List.mem_cons.1 hk).resolve_left (Ne.symm hpk)
        simp [put, hpj, hpk, ih hr]

theorem put_map {ks : List κ} (h : ks.Nodup) {k : κ} (hk : k ∈ ks) (f : κ → ν) (v : ν) :
    put (ks.map fun j => (j, f j)) k v = ks.map fun j => (j, if j = k then v else f j) := by
  induction ks with
  | nil => cases hk
  | cons j r ih =>
    obtain ⟨hj, hr⟩ := List.nodup_cons.1 h
    rw [List.map_cons, List.map_cons, put]
    by_cases hjk : j = k
    · subst hjk
      rw [if_pos rfl, if_pos rfl]
      congr 1
      refine List.map_congr_left fun i hi => ?_
      have hij : ¬ i = j := fun he => hj (he ▸ hi)
      rw [if_neg hij]
    · rw [if_neg hjk, if_neg hjk, ih hr ((List.mem_cons.1 hk).resolve_left (Ne.symm hjk))]

theorem get?_map {ks : List κ} {k : κ} (hk : k ∈ ks) (f : κ → ν) : get? (ks.map fun j => (j, f j)) k = some (f k) := by
  induction ks with
  | nil => cases hk
  | cons j r ih =>
    rw [List.map_cons, get?_cons]
    by_cases hjk : j = k
    · rw [if_pos hjk, hjk]
    · rw [if_neg hjk, ih ((List.mem_cons.1 hk).resolve_left (Ne.symm hjk))]

theorem get?_append (m n : Assoc κ ν) (k : κ) : get? (m ++ n) k = (get? m k).or (get? n k) := by
  induction m with
  | nil => rfl
  | cons p r ih => by_cases h : p.1 = k <;> simp [get?_cons, h, ih]

theorem mem_of_get? {m : Assoc κ ν} {k : κ} {v : ν} (h : get? m k = some v) : (k, v) ∈ m := by
  obtain ⟨p, hp, rfl⟩ := Option.map_eq_some_iff.1 h
  have hk : p.1 = k := by simpa using List.find?_some hp
  exact hk ▸ List.mem_of_find?_eq_some hp

theorem get?_eq_none_iff {m : Assoc κ ν} {k : κ} : get? m k = none ↔ k ∉ keys m := by
  rw [← has_iff, ← get?_isSome, ← Option.not_isSome_iff_eq_none]

theorem mem_keys_of_get? {m : Assoc κ ν} {k : κ} {v : ν} (h : get? m k = some v) : k ∈ keys m :=
  List.mem_map_of_mem (mem_of_get? h)

theorem get?_eq_some_of_mem {m : Assoc κ ν} (hm : (keys m).Nodup) {k : κ} {v : ν} (h : (k, v) ∈ m) :
    get? m k = some v := by
  induction m with
  | nil => simp at h
  | cons p r ih =>
    obtain ⟨hp, hr⟩ := List.nodup_cons.1 hm
    rcases List.mem_cons.1 h with rfl | h
    · simp [get?_cons]
    · have hk : k ∈ r.map Prod.fst := List.mem_map.2 ⟨(k, v), h, rfl⟩
      have hpk : p.1 ≠ k := fun he => hp (he ▸ hk)
      rw [get?_cons, if_neg hpk, ih hr h]

theorem overlay_append (m a b : Assoc κ ν) : overlay m (a ++ b) = overlay (overlay m a) b :=
  List.foldl_append

theorem overlay_concat (m a : Assoc κ ν) (k : κ) (v : ν) : overlay m (a ++ [(k, v)]) = put (overlay m a) k v :=
  overlay_append m a [(k, v)]

theorem get?_overlay (m n : Assoc κ ν) (k : κ) : get? (overlay m n) k = (get? n.reverse k).or (get? m k) := by
  induction n generalizing m with
  | nil => rfl
  | cons p r ih =>
    change get? (overlay (put m p.1 p.2) r) k = _
    rw [ih, get?_put, List.reverse_cons, get?_append, get?_cons, get?_nil]
    cases get? r.reverse k <;> by_cases h : p.1 = k <;> simp [h]

theorem mem_keys_overlay {m n : Assoc κ ν} {k : κ} : k ∈ keys (overlay m n) ↔ k ∈ keys m ∨ k ∈ keys n := by
  have hn : k ∈ keys n.reverse ↔ k ∈ keys n := by simp [keys]
  rw [← hn]
  simp only [← has_iff, ← get?_isSome, get?_overlay, Option.isSome_or, Bool.or_eq_true]
  exact Or.comm

theorem isEmpty_overlay_nil (n : Assoc κ ν) : (overlay [] n).isEmpty = n.isEmpty := by
  cases n with
  | nil => rfl
  | cons p r =>
    have hk : p.1 ∈ keys (overlay [] (p :: r)) := mem_keys_overlay.2 (.inr List.mem_cons_self)
    cases ho : overlay [] (p :: r) with
    | nil =>
      rw [ho] at hk
      cases hk
    | cons q u => rfl

theorem exists_get?_reverse {n : Assoc κ ν} {k : κ} (h : k ∈ keys n) : ∃ v, get? n.reverse k = some v := by
  have hk : has n.reverse k = true := by
    rw [has_iff]
    simpa [keys] using h
  rw [← get?_isSome] at hk
  exact Option.isSome_iff_exists.1 hk

/-- A key with one value only. -/
theorem get?_reverse_of_unique {n : Assoc κ ν} {k : κ} {v : ν} (h : (k, v) ∈ n)
    (hu : ∀ w, (k, w) ∈ n → w = v) : get? n.reverse k = some v := by
  obtain ⟨w, hw⟩ := exists_get?_reverse (List.mem_map_of_mem h)
  rw [hw, hu w (List.mem_reverse.1 (mem_of_get? hw))]

theorem get?_reverse_of_nodup {n : Assoc κ ν} (hn : (keys n).Nodup) {k : κ} {v : ν} (h : (k, v) ∈ n) :
    get? n.reverse k = some v := by
  have hr : (keys n.reverse).Nodup := by
    rw [keys, List.map_reverse]
    exact (List.reverse_perm _).nodup_iff.2 hn
  exact get?_eq_some_of_mem hr (List.mem_reverse.2 h)

theorem get?_overlay_nil (n : Assoc κ ν) (k : κ) : get? (overlay [] n) k = get? n.reverse k := by
  rw [get?_overlay, get?_nil, Option.or_none]

theorem mem_iff_get? {m : Assoc κ ν} (hm : (keys m).Nodup) {k : κ} {v : ν} : (k, v) ∈ m ↔ get? m k = some v :=
  ⟨get?_eq_some_of_mem hm, mem_of_get?⟩

omit [DecidableEq κ] in
theorem nodup_filter {m : Assoc κ ν} (h : (keys m).Nodup) (f : κ × ν → Bool) : (keys (m.filter f)).Nodup :=
  (List.filter_sublist.map Prod.fst).nodup h

theorem get?_filter {m : Assoc κ ν} (h : (keys m).Nodup) (f : κ × ν → Bool) (k : κ) (v : ν) :
    get? (m.filter f) k = some v ↔ get? m k = some v ∧ f (k, v) = true := by
  rw [← mem_iff_get? (nodup_filter h f), ← mem_iff_get? h, List.mem_filter]

theorem nodup_overlay_nil (n : Assoc κ ν) : (keys (overlay [] n)).Nodup := by
  have hnil : (keys ([] : Assoc κ ν)).Nodup := List.nodup_nil
  exact nodup_overlay hnil n

theorem mem_overlay_nil {n : Assoc κ ν} {k : κ} {v : ν} :
    (k, v) ∈ overlay [] n ↔ get? n.reverse k = some v := by
  rw [mem_iff_get? (nodup_overlay_nil n), get?_overlay_nil]

/-- Of entries contributed one block after the other, those of the last block with the key count. -/
theorem exists_last_block {α : Type} {f : α → Assoc κ ν} {l : List α} {k : κ} {v : ν}
    (h : get? (l.flatMap f).reverse k = some v) :
    ∃ before a after, l = before ++ a :: after ∧ get? (f a).reverse k = some v ∧
      get? (after.flatMap f).reverse k = none := by
  induction l with
  | nil => cases h
  | cons b r ih =>
    rw [List.flatMap_cons, List.reverse_append, get?_append] at h
    cases hr : get? (r.flatMap f).reverse k with
    | none =>
      rw [hr, Option.none_or] at h
      exact ⟨[], b, r, rfl, h, hr⟩
    | some w =>
      rw [hr, Option.some_or] at h
      obtain ⟨before, a, after, he, ha, hnone⟩ := ih (hr.trans h)
      exact ⟨b :: before, a, after, by rw [he, List.cons_append], ha, hnone⟩

theorem get?_reverse_eq_none_iff {n : Assoc κ ν} {k : κ} : get? n.reverse k = none ↔ k ∉ keys n := by
  rw [get?_eq_none_iff, keys, List.map_reverse, List.mem_reverse]
  rfl

theorem get?_reverse_split (before : Assoc κ ν) {p : κ × ν} {after : Assoc κ ν} (h : p.1 ∉ keys after) :
    get? (before ++ p :: after).reverse p.1 = some p.2 := by
  rw [List.reverse_append, List.reverse_cons, List.append_assoc, get?_append, get?_reverse_eq_none_iff.2 h,
    Option.none_or, List.singleton_append, get?_cons, if_pos rfl]

/-- Of entries contributed one by one, the last one with the key counts. -/
theorem exists_last_entry {α : Type} {f : α → κ × ν} {l : List α} {k : κ} {v : ν}
    (h : get? (l.map f).reverse k = some v) :
    ∃ before a after, l = before ++ a :: after ∧ f a = (k, v) ∧ ∀ b ∈ after, (f b).1 ≠ k := by
  rw [List.map_eq_flatMap] at h
  obtain ⟨before, a, after, he, ha, hnone⟩ := exists_last_block h
  refine ⟨before, a, after, he, ?_, ?_⟩
  · have hm : (k, v) ∈ [f a] := List.mem_reverse.1 (mem_of_get? ha)
    exact (List.mem_singleton.1 hm).symm
  · intro b hb hk
    rw [get?_reverse_eq_none_iff] at hnone
    exact hnone (List.mem_map.2 ⟨f b, List.mem_flatMap.2 ⟨b, hb, List.mem_singleton.2 rfl⟩, hk⟩)

end Assoc

end TableGraph
