import Mathlib.Data.List.Basic
import TableGraph.Proofs.Work

/-! # Work of several clients in turns

Several clients work on one database, each a tree of questions of its own. In each turn one of them asks one
question and the database answers it as a whole (`Interleaving`). What is done stays done (`Interleaving.stays`),
and up to the next turn of a client the others go on without it (`Interleaving.next_turn`).
-/
namespace TableGraph

namespace Work
variable {ι α σ : Type}

/-- The questions that work may ask next, and how it goes on with the answer. -/
inductive Asks : Work ι α → (c : Call) → (Except Failure c.Answer → Work ι α) → Prop where
  | ask (c : Call) (next : Except Failure c.Answer → Work ι α) : Asks (.ask c next) c next
  | first (c d : Call) (next : Except Failure c.Answer → Except Failure d.Answer → Work ι α) :
      Asks (.both c d next) c fun r => .ask d (next r)
  | second (c d : Call) (next : Except Failure c.Answer → Except Failure d.Answer → Work ι α) :
      Asks (.both c d next) d fun q => .ask c fun r => next r q

/-- A turn: whose it was, what was asked, and whether there was an answer or a failure. -/
structure Turn where
  client : Nat
  call : Call
  answered : Bool

/-- A turn in which something was written. -/
def Turn.commits (turn : Turn) : Bool := turn.call.writes && turn.answered

def isAnswered {β : Type} (x : Except Failure β) : Bool :=
  match x with
  | .ok _ => true
  | .error _ => false

/-- A run of several clients on one database, from their work and a state to what is left of the work and another
state. What a client reports is no turn. -/
inductive Interleaving (answer : (c : Call) → σ → Except Failure c.Answer × σ) :
    List (Work ι α) → σ → List Turn → List (Work ι α) → σ → Prop where
  | rest (pool : List (Work ι α)) (s : σ) : Interleaving answer pool s [] pool s
  | report {pool left : List (Work ι α)} {s s' : σ} {turns : List Turn} {i : Nat} {e : Event ι} {next : Work ι α}
      (here : pool[i]? = some (.emit e next)) (later : Interleaving answer (pool.set i next) s turns left s') :
      Interleaving answer pool s turns left s'
  | turn {pool left : List (Work ι α)} {s s' : σ} {turns : List Turn} {i : Nat} {w : Work ι α} {c : Call}
      {next : Except Failure c.Answer → Work ι α} (here : pool[i]? = some w) (asks : Asks w c next)
      (later : Interleaving answer (pool.set i (next (answer c s).1)) (answer c s).2 turns left s') :
      Interleaving answer pool s (⟨i, c, isAnswered (answer c s).1⟩ :: turns) left s'

variable {answer : (c : Call) → σ → Except Failure c.Answer × σ}

namespace Interleaving
variable {pool left : List (Work ι α)} {s s' : σ} {turns : List Turn}

/-- The work of one client while another one takes a turn. -/
theorem getElem?_set_other {i j : Nat} (hij : i ≠ j) (w : Work ι α) : (pool.set j w)[i]? = pool[i]? := by
  rw [List.getElem?_set, if_neg (Ne.symm hij)]

theorem getElem?_set_self {i : Nat} {v : Work ι α} (h : pool[i]? = some v) (w : Work ι α) :
    (pool.set i w)[i]? = some w := by
  rw [List.getElem?_set_self (List.getElem?_eq_some_iff.1 h).1]

/-- What is done stays done. -/
theorem stays (h : Interleaving answer pool s turns left s') {i : Nat} {r : Except Failure α}
    (hi : pool[i]? = some (.done r)) : left[i]? = some (.done r) := by
  induction h with
  | rest => exact hi
  | @report pool left s s' turns j e next here later ih =>
    apply ih
    rw [getElem?_set_other, hi]
    rintro rfl
    cases hi.symm.trans here
  | @turn pool left s s' turns j w c next here asks later ih =>
    apply ih
    rw [getElem?_set_other, hi]
    rintro rfl
    obtain rfl := Option.some.inj (hi.symm.trans here)
    cases asks

/-- Who is done takes no turns. -/
theorem idle (h : Interleaving answer pool s turns left s') {i : Nat} {r : Except Failure α}
    (hi : pool[i]? = some (.done r)) : ∀ turn ∈ turns, turn.client ≠ i := by
  induction h with
  | rest => simp
  | @report pool left s s' turns j e next here later ih =>
    apply ih
    rw [getElem?_set_other, hi]
    rintro rfl
    cases hi.symm.trans here
  | @turn pool left s s' turns j w c next here asks later ih =>
    have hij : j ≠ i := by
      rintro rfl
      obtain rfl := Option.some.inj (hi.symm.trans here)
      cases asks
    exact List.forall_mem_cons.2 ⟨hij, ih ((getElem?_set_other (Ne.symm hij) _).trans hi)⟩

/-- Work that waits for an answer. -/
def Waits (w : Work ι α) : Prop :=
  match w with
  | .ask .. => True
  | .both .. => True
  | _ => False

/-- A client that waits for an answer and is done in the end gets its turn, and up to then it waits. -/
theorem next_turn (h : Interleaving answer pool s turns left s') {i : Nat} {w : Work ι α} (hi : pool[i]? = some w)
    (hw : Waits w) {r : Except Failure α} (hdone : left[i]? = some (.done r)) :
    ∃ before after between t, ∃ (c : Call) (next : Except Failure c.Answer → Work ι α),
      turns = before ++ ⟨i, c, isAnswered (answer c t).1⟩ :: after ∧ (∀ turn ∈ before, turn.client ≠ i) ∧
      Interleaving answer pool s before between t ∧ between[i]? = some w ∧ Asks w c next ∧
      Interleaving answer (between.set i (next (answer c t).1)) (answer c t).2 after left s' := by
  induction h with
  | rest pool s =>
    obtain rfl := Option.some.inj (hi.symm.trans hdone)
    cases hw
  | @report pool left s s' turns j e next here later ih =>
    have hij : i ≠ j := by
      rintro rfl
      obtain rfl := Option.some.inj (hi.symm.trans here)
      cases hw
    obtain ⟨before, after, between, t, c, goOn, hturns, hothers, hbefore, hrest⟩ :=
      ih ((getElem?_set_other hij _).trans hi) hdone
    exact ⟨before, after, between, t, c, goOn, hturns, hothers, .report here hbefore, hrest⟩
  | @turn pool left s s' turns j v c next here asks later ih =>
    by_cases hij : i = j
    · subst hij
      obtain rfl := Option.some.inj (hi.symm.trans here)
      exact ⟨[], turns, pool, s, c, next, rfl, by simp, .rest pool s, hi, asks, later⟩
    · obtain ⟨before, after, between, t, d, goOn, rfl, hothers, hbefore, hrest⟩ :=
        ih ((getElem?_set_other hij _).trans hi) hdone
      refine ⟨_ :: before, after, between, t, d, goOn, rfl, ?_, .turn here asks hbefore, hrest⟩
      exact List.forall_mem_cons.2 ⟨Ne.symm hij, hothers⟩

end Interleaving

end Work

end TableGraph
