import Mathlib.Data.List.Basic
import TableGraph.Failure

/-! # Chains of steps that may fail

A statement is carried out step by step, and the first step that fails decides. What a chain yields
comes from what each step yields, and what a list of steps yields from its members.
-/
namespace TableGraph.Chain
variable {ε α β : Type}

theorem bind_eq_ok {x : Except ε α} {f : α → Except ε β} {b : β} :
    x >>= f = .ok b ↔ ∃ a, x = .ok a ∧ f a = .ok b := by
  cases x with
  | error e => simp [Bind.bind, Except.bind]
  | ok a => simp [Bind.bind, Except.bind]

theorem bind_eq_error {x : Except ε α} {f : α → Except ε β} {e : ε} :
    x >>= f = .error e ↔ x = .error e ∨ ∃ a, x = .ok a ∧ f a = .error e := by
  cases x with
  | error e => simp [Bind.bind, Except.bind]
  | ok a => simp [Bind.bind, Except.bind]

theorem map_eq_ok {x : Except ε α} {f : α → β} {b : β} : x.map f = .ok b ↔ ∃ a, x = .ok a ∧ f a = b := by
  cases x with
  | error e => simp [Except.map]
  | ok a => simp [Except.map]

theorem map_eq_error {x : Except ε α} {f : α → β} {e : ε} : x.map f = .error e ↔ x = .error e := by
  cases x with
  | error e => simp [Except.map]
  | ok a => simp [Except.map]

theorem mapError_eq_ok {δ : Type} {x : Except ε α} {f : ε → δ} {a : α} : x.mapError f = .ok a ↔ x = .ok a := by
  cases x with
  | error e => simp [Except.mapError]
  | ok a => simp [Except.mapError]

theorem mapError_eq_error {δ : Type} {x : Except ε α} {f : ε → δ} {d : δ} :
    x.mapError f = .error d ↔ ∃ e, x = .error e ∧ f e = d := by
  cases x with
  | error e => simp [Except.mapError]
  | ok a => simp [Except.mapError]

/-! ## Lists of steps -/

theorem mapM_cons_ok {f : α → Except ε β} {a : α} {l : List α} {m : List β} :
    (a :: l).mapM f = .ok m ↔ ∃ b r, f a = .ok b ∧ l.mapM f = .ok r ∧ m = b :: r := by
  rw [List.mapM_cons, bind_eq_ok]
  constructor
  · rintro ⟨b, hb, h⟩
    obtain ⟨r, hr, he⟩ := bind_eq_ok.1 h
    exact ⟨b, r, hb, hr, (Except.ok.inj he).symm⟩
  · rintro ⟨b, r, hb, hr, rfl⟩
    exact ⟨b, hb, bind_eq_ok.2 ⟨r, hr, rfl⟩⟩

theorem exists_of_mem {f : α → Except ε β} {l : List α} {m : List β} (h : l.mapM f = .ok m) {a : α} (ha : a ∈ l) :
    ∃ b ∈ m, f a = .ok b := by
  induction l generalizing m with
  | nil => cases ha
  | cons c l ih =>
    obtain ⟨b, r, hb, hr, rfl⟩ := mapM_cons_ok.1 h
    rcases List.mem_cons.1 ha with rfl | ha
    · exact ⟨b, List.mem_cons_self, hb⟩
    · obtain ⟨d, hd, he⟩ := ih hr ha
      exact ⟨d, List.mem_cons_of_mem b hd, he⟩

theorem exists_of_mem_result {f : α → Except ε β} {l : List α} {m : List β} (h : l.mapM f = .ok m) {b : β}
    (hb : b ∈ m) : ∃ a ∈ l, f a = .ok b := by
  induction l generalizing m with
  | nil =>
    rw [← Except.ok.inj h] at hb
    cases hb
  | cons c l ih =>
    obtain ⟨d, r, hd, hr, rfl⟩ := mapM_cons_ok.1 h
    rcases List.mem_cons.1 hb with rfl | hb
    · exact ⟨c, List.mem_cons_self, hd⟩
    · obtain ⟨a, ha, he⟩ := ih hr hb
      exact ⟨a, List.mem_cons_of_mem c ha, he⟩

/-- A list of steps fails with the first of them that fails. -/
theorem mapM_eq_error_iff {f : α → Except ε β} {l : List α} {e : ε} :
    l.mapM f = .error e ↔ ∃ before a after, l = before ++ a :: after ∧ (∀ b ∈ before, ∃ c, f b = .ok c) ∧
      f a = .error e := by
  induction l with
  | nil =>
    constructor
    · intro h
      cases h
    · rintro ⟨before, a, after, h, -⟩
      cases before <;> cases h
  | cons d l ih =>
    rw [List.mapM_cons, bind_eq_error]
    constructor
    · rintro (hd | ⟨c, hc, h⟩)
      · exact ⟨[], d, l, rfl, (fun _ hb => nomatch hb), hd⟩
      · rcases bind_eq_error.1 h with h | ⟨r, -, h⟩
        · obtain ⟨before, a, after, rfl, hbefore, ha⟩ := ih.1 h
          exact ⟨d :: before, a, after, rfl, List.forall_mem_cons.2 ⟨⟨c, hc⟩, hbefore⟩, ha⟩
        · cases h
    · rintro ⟨before, a, after, h, hbefore, ha⟩
      cases before with
      | nil =>
        obtain ⟨rfl, -⟩ := List.cons.inj h
        exact .inl ha
      | cons b before =>
        obtain ⟨rfl, hl⟩ := List.cons.inj h
        obtain ⟨⟨c, hc⟩, hbefore⟩ := List.forall_mem_cons.1 hbefore
        exact .inr ⟨c, hc, bind_eq_error.2 (.inl (ih.2 ⟨before, a, after, hl, hbefore, ha⟩))⟩

theorem exists_of_error {f : α → Except ε β} {l : List α} {e : ε} (h : l.mapM f = .error e) :
    ∃ a ∈ l, f a = .error e := by
  obtain ⟨before, a, after, rfl, -, ha⟩ := mapM_eq_error_iff.1 h
  exact ⟨a, List.mem_append_right before List.mem_cons_self, ha⟩

theorem exists_mapM {f : α → Except ε β} {l : List α} (h : ∀ a ∈ l, ∃ b, f a = .ok b) : ∃ m, l.mapM f = .ok m := by
  cases hm : l.mapM f with
  | ok m => exact ⟨m, rfl⟩
  | error e =>
    obtain ⟨a, ha, he⟩ := exists_of_error hm
    obtain ⟨b, hb⟩ := h a ha
    cases he.symm.trans hb

/-- What every step of a fold keeps, the fold keeps. -/
theorem foldlM_keeps {f : β → α → Except ε β} {P : β → Prop} (hf : ∀ b a c, P b → f b a = .ok c → P c)
    {l : List α} {b c : β} (hb : P b) (h : l.foldlM f b = .ok c) : P c := by
  induction l generalizing b with
  | nil => exact Except.ok.inj h ▸ hb
  | cons a l ih =>
    rw [List.foldlM_cons] at h
    obtain ⟨d, hd, h⟩ := bind_eq_ok.1 h
    exact ih (hf b a d hb hd) h

/-- A fold whose steps fail for their members only reads all of them first. -/
theorem foldlM_read {γ : Type} {read : α → Except ε β} {use : γ → β → γ} (l : List α) (c : γ) :
    l.foldlM (fun c a => (read a).map (use c)) c = (l.mapM read).map fun bs => bs.foldl use c := by
  induction l generalizing c with
  | nil => rfl
  | cons a l ih =>
    rw [List.foldlM_cons, List.mapM_cons]
    cases read a with
    | error e => rfl
    | ok b =>
      refine (ih (use c b)).trans ?_
      cases l.mapM read <;> rfl

theorem length_of_mapM {f : α → Except ε β} {l : List α} {m : List β} (h : l.mapM f = .ok m) : m.length = l.length := by
  induction l generalizing m with
  | nil =>
    cases h
    rfl
  | cons c l ih =>
    obtain ⟨b, r, -, hr, rfl⟩ := mapM_cons_ok.1 h
    rw [List.length_cons, List.length_cons, ih hr]

theorem mapM_append_ok {f : α → Except ε β} {l r : List α} {m : List β} :
    (l ++ r).mapM f = .ok m ↔ ∃ a b, l.mapM f = .ok a ∧ r.mapM f = .ok b ∧ m = a ++ b := by
  rw [List.mapM_append, bind_eq_ok]
  constructor
  · rintro ⟨a, ha, h⟩
    obtain ⟨b, hb, he⟩ := bind_eq_ok.1 h
    exact ⟨a, b, ha, hb, (Except.ok.inj he).symm⟩
  · rintro ⟨a, b, ha, hb, rfl⟩
    exact ⟨a, ha, bind_eq_ok.2 ⟨b, hb, rfl⟩⟩

theorem mapM_singleton {f : α → Except ε β} {a : α} {b : β} (h : f a = .ok b) : [a].mapM f = .ok [b] :=
  mapM_cons_ok.2 ⟨b, [], h, rfl, rfl⟩

end TableGraph.Chain
