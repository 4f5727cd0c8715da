import TableGraph.Work

/-! # Runs of work

What happens in a run of work in sequence is what happens in the first part, and after it what happens
in the second, unless the first one fails (`run_bind`). Turning a failure of data into null asks nothing
more of the database (`calls_orNull`), and reports one loss (`run_contained`). What every answer keeps true of
the database stays true in a run (`run_keeps`), and databases that answer alike cannot be told apart by one
(`run_congr`). Work put together from parts asks what its parts ask (`AsksOnly`).
-/
namespace TableGraph

def Call.writes : Call → Bool
  | .insert .. => true
  | .update .. => true
  | _ => false

namespace Work

variable {ι α β σ : Type}

namespace Outcome

/-- A run before which something else happened. -/
def precededBy (o : Outcome ι α σ) (past : List (Happening ι)) : Outcome ι α σ := { o with trace := past ++ o.trace }

/-- A run that goes on with its result. A failure ends it. -/
def andThen (o : Outcome ι α σ) (k : α → σ → Outcome ι β σ) : Outcome ι β σ :=
  match o.result with
  | .ok a => (k a o.state).precededBy o.trace
  | .error e => { o with result := .error e }

/-- A run that goes on with its failure if it has one. -/
def orElse (o : Outcome ι α σ) (k : Failure → σ → Outcome ι α σ) : Outcome ι α σ :=
  match o.result with
  | .ok _ => o
  | .error e => (k e o.state).precededBy o.trace

/-- The questions to the database, in their order. -/
def calls (o : Outcome ι α σ) : List Call :=
  o.trace.filterMap fun
    | .call c => some c
    | .event _ => none

@[simp] theorem calls_precededBy_call (o : Outcome ι α σ) (c : Call) :
    (o.precededBy [.call c]).calls = c :: o.calls := rfl

theorem calls_precededBy (o : Outcome ι α σ) (past : List (Happening ι)) :
    (o.precededBy past).calls = (past.filterMap fun
      | .call c => some c
      | .event _ => none) ++ o.calls :=
  List.filterMap_append

/-- What was reported, in its order. -/
def events (o : Outcome ι α σ) : List (Event ι) :=
  o.trace.filterMap fun
    | .event e => some e
    | .call _ => none

theorem precededBy_precededBy (o : Outcome ι α σ) (past further : List (Happening ι)) :
    (o.precededBy past).precededBy further = o.precededBy (further ++ past) := by
  simp [precededBy]

theorem precededBy_andThen (o : Outcome ι α σ) (past : List (Happening ι)) (k : α → σ → Outcome ι β σ) :
    (o.precededBy past).andThen k = (o.andThen k).precededBy past := by
  obtain ⟨result, state, trace⟩ := o
  cases result with
  | ok a => exact (precededBy_precededBy (k a state) trace past).symm
  | error e => rfl

theorem precededBy_orElse (o : Outcome ι α σ) (past : List (Happening ι)) (k : Failure → σ → Outcome ι α σ) :
    (o.precededBy past).orElse k = (o.orElse k).precededBy past := by
  obtain ⟨result, state, trace⟩ := o
  cases result with
  | ok a => rfl
  | error e => exact (precededBy_precededBy (k e state) trace past).symm

/-- Two runs with the same result in which the same happened, and related states at their ends. -/
structure Alike (R : σ → σ → Prop) (o o' : Outcome ι α σ) : Prop where
  result : o'.result = o.result
  trace : o'.trace = o.trace
  state : R o.state o'.state

theorem Alike.precededBy {R : σ → σ → Prop} {o o' : Outcome ι α σ} (h : o.Alike R o') (past : List (Happening ι)) :
    (o.precededBy past).Alike R (o'.precededBy past) := ⟨h.result, congrArg (past ++ ·) h.trace, h.state⟩

/-- A failure of data becomes null and is reported as a loss at the end. -/
def contained (loss : Loss) (o : Outcome ι Value σ) : Outcome ι Value σ :=
  match o.result with
  | .ok _ => o
  | .error e =>
    if e.isData then { o with result := .ok .null, trace := o.trace ++ [.event (.lost loss e)] } else o

section Contained
variable {loss : Loss} {o : Outcome ι Value σ}

theorem contained_of_ok {v : Value} (h : o.result = .ok v) : o.contained loss = o := by
  rw [contained, h]

theorem contained_of_data {e : Failure} (h : o.result = .error e) (hdata : e.isData = true) :
    o.contained loss = { o with result := .ok .null, trace := o.trace ++ [.event (.lost loss e)] } := by
  rw [contained, h]
  exact if_pos hdata

theorem contained_of_stays {e : Failure} (h : o.result = .error e) (hstays : e.isData = false) :
    o.contained loss = o := by
  rw [contained, h]
  exact if_neg (by simp [hstays])

theorem state_contained (loss : Loss) (o : Outcome ι Value σ) : (o.contained loss).state = o.state := by
  unfold contained
  split
  · rfl
  · split <;> rfl

theorem calls_contained (loss : Loss) (o : Outcome ι Value σ) : (o.contained loss).calls = o.calls := by
  unfold contained
  split
  · rfl
  · split
    · simp [calls]
    · rfl

end Contained

end Outcome

theorem bind_assoc {γ : Type} (w : Work ι α) (k : α → Work ι β) (l : β → Work ι γ) :
    (w.bind k).bind l = w.bind fun a => (k a).bind l := by
  induction w with
  | done r => cases r <;> rfl
  | emit e next ih => exact congrArg (emit e) ih
  | ask c next ih => exact congrArg (ask c) (funext ih)
  | both c d next ih => exact congrArg (both c d) (funext fun r => funext (ih r))

variable (answer : (c : Call) → σ → Except Failure c.Answer × σ)

theorem run_emit (e : Event ι) (w : Work ι α) (s : σ) :
    (emit e w).run answer s = (w.run answer s).precededBy [.event e] := rfl

theorem run_ask (c : Call) (next : Except Failure c.Answer → Work ι α) (s : σ) :
    (ask c next).run answer s = ((next (answer c s).1).run answer (answer c s).2).precededBy [.call c] := rfl

theorem run_both (c d : Call) (next : Except Failure c.Answer → Except Failure d.Answer → Work ι α) (s : σ) :
    (both c d next).run answer s =
      ((next (answer c s).1 (answer d (answer c s).2).1).run answer (answer d (answer c s).2).2).precededBy
        [.call c, .call d] := rfl

theorem run_bind (w : Work ι α) (k : α → Work ι β) (s : σ) :
    (w.bind k).run answer s = (w.run answer s).andThen fun a s => (k a).run answer s := by
  induction w generalizing s with
  | done r => cases r <;> rfl
  | emit e next ih => rw [bind, run_emit, run_emit, ih, Outcome.precededBy_andThen]
  | ask c next ih => rw [bind, run_ask, run_ask, ih, Outcome.precededBy_andThen]
  | both c d next ih => rw [bind, run_both, run_both, ih, Outcome.precededBy_andThen]

theorem run_recover (w : Work ι α) (k : Failure → Work ι α) (s : σ) :
    (w.recover k).run answer s = (w.run answer s).orElse fun e s => (k e).run answer s := by
  induction w generalizing s with
  | done r => cases r <;> rfl
  | emit e next ih => rw [recover, run_emit, run_emit, ih, Outcome.precededBy_orElse]
  | ask c next ih => rw [recover, run_ask, run_ask, ih, Outcome.precededBy_orElse]
  | both c d next ih => rw [recover, run_both, run_both, ih, Outcome.precededBy_orElse]

/-- To contain the failures of work is to contain the failure of its run. -/
theorem run_contained (loss : Loss) (w : Work ι Value) (s : σ) :
    (orNull loss w).run answer s = (w.run answer s).contained loss := by
  rw [orNull, run_recover, Outcome.orElse]
  cases hw : (w.run answer s).result with
  | ok v => exact (Outcome.contained_of_ok hw).symm
  | error e =>
    by_cases hdata : e.isData = true
    · rw [Outcome.contained_of_data hw hdata]
      simp only [if_pos hdata]
      rfl
    · have hstays : e.isData = false := Bool.not_eq_true _ ▸ hdata
      rw [Outcome.contained_of_stays hw hstays]
      simp only [hstays, Bool.false_eq_true, if_false, fail, run, Outcome.precededBy, List.append_nil, ← hw]

/-- What every answer keeps true of the state, a run keeps true. -/
theorem run_keeps {P : σ → Prop} (h : ∀ c s, P s → P (answer c s).2) (w : Work ι α) {s : σ} (hs : P s) :
    P (w.run answer s).state := by
  induction w generalizing s with
  | done r => exact hs
  | emit e next ih => exact ih hs
  | ask c next ih => exact ih _ (h c s hs)
  | both c d next ih => exact ih _ _ (h d _ (h c s hs))

/-- Work that asks nothing changes nothing. -/
theorem state_of_calls_nil (w : Work ι α) {s : σ} (h : (w.run answer s).calls = []) : (w.run answer s).state = s := by
  induction w generalizing s with
  | done r => rfl
  | emit e next ih => exact ih h
  | ask c next ih => cases h
  | both c d next ih => cases h

/-- From two states that answer alike and stay so, runs have the same result and the same happens in them. -/
theorem run_congr {R : σ → σ → Prop}
    (h : ∀ c s s', R s s' → (answer c s').1 = (answer c s).1 ∧ R (answer c s).2 (answer c s').2) (w : Work ι α)
    {s s' : σ} (hs : R s s') : (w.run answer s).Alike R (w.run answer s') := by
  induction w generalizing s s' with
  | done r => exact ⟨rfl, rfl, hs⟩
  | emit e next ih => exact (ih hs).precededBy [.event e]
  | ask c next ih =>
    obtain ⟨hanswer, hnext⟩ := h c s s' hs
    rw [run_ask, run_ask, hanswer]
    exact (ih _ hnext).precededBy _
  | both c d next ih =>
    obtain ⟨hfirst, hnext⟩ := h c s s' hs
    obtain ⟨hsecond, hlater⟩ := h d _ _ hnext
    rw [run_both, run_both, hfirst, hsecond]
    exact (ih _ _ hlater).precededBy _

variable {answer}

/-- Work that leaves null where data fails has the result of the work itself, or null. -/
theorem result_of_orNull {loss : Loss} {w : Work ι Value} {s : σ} {v : Value}
    (h : ((orNull loss w).run answer s).result = .ok v) : v = .null ∨ (w.run answer s).result = .ok v := by
  rw [run_contained] at h
  cases hw : (w.run answer s).result with
  | ok a =>
    rw [Outcome.contained_of_ok hw] at h
    exact .inr (hw.symm.trans h)
  | error e =>
    cases hdata : e.isData with
    | true =>
      rw [Outcome.contained_of_data hw hdata] at h
      exact .inl (Except.ok.inj h).symm
    | false =>
      rw [Outcome.contained_of_stays hw hdata] at h
      cases hw.symm.trans h

/-- What becomes of a failure asks nothing. -/
theorem calls_orNull (loss : Loss) (w : Work ι Value) (s : σ) :
    ((orNull loss w).run answer s).calls = (w.run answer s).calls := by
  rw [run_contained, Outcome.calls_contained]

/-! ## What is asked -/

/-- Whatever a database answers, all questions of the work are of one kind. -/
def AsksOnly (P : Call → Prop) (w : Work ι α) : Prop :=
  ∀ (σ : Type) (answer : (c : Call) → σ → Except Failure c.Answer × σ) (s : σ), ∀ c ∈ (w.run answer s).calls, P c

section AsksOnly
variable {P : Call → Prop}

theorem asksOnly_done (r : Except Failure α) : AsksOnly P (done r : Work ι α) := fun _ _ _ _ hc => nomatch hc

theorem asksOnly_request {c : Call} (hc : P c) : AsksOnly P (request c : Work ι c.Answer) := by
  intro σ answer s d hd
  rw [request, run_ask, Outcome.calls_precededBy_call] at hd
  rcases List.mem_cons.1 hd with rfl | hd
  · exact hc
  · cases hd

theorem asksOnly_both {c d : Call} {next : Except Failure c.Answer → Except Failure d.Answer → Work ι α} (hc : P c)
    (hd : P d) (hnext : ∀ r r', AsksOnly P (next r r')) : AsksOnly P (both c d next) := by
  intro σ answer s e he
  rw [run_both] at he
  rcases List.mem_cons.1 he with rfl | he
  · exact hc
  · rcases List.mem_cons.1 he with rfl | he
    · exact hd
    · exact hnext _ _ σ answer _ e he

theorem AsksOnly.bind {w : Work ι α} {k : α → Work ι β} (hw : AsksOnly P w) (hk : ∀ a, AsksOnly P (k a)) :
    AsksOnly P (w >>= k) := by
  intro σ answer s c hc
  change c ∈ ((w.bind k).run answer s).calls at hc
  rw [run_bind, Outcome.andThen] at hc
  split at hc
  · rw [Outcome.calls_precededBy] at hc
    exact (List.mem_append.1 hc).elim (hw σ answer s c) (hk _ σ answer _ c)
  · exact hw σ answer s c hc

/-- Work that goes on with what was read goes on with that only. -/
theorem asksOnly_ofExcept {x : Except Failure α} {k : α → Work ι β} (hk : ∀ a, x = .ok a → AsksOnly P (k a)) :
    AsksOnly P (ofExcept x >>= k) := by
  cases x with
  | ok a => exact hk a rfl
  | error e => exact asksOnly_done _

theorem AsksOnly.orNull {w : Work ι Value} (hw : AsksOnly P w) (loss : Loss) : AsksOnly P (w.orNull loss) := by
  intro σ answer s c hc
  rw [calls_orNull] at hc
  exact hw σ answer s c hc

end AsksOnly

end Work

end TableGraph
