import TableGraph.Proofs.Concurrency.Calls

/-! # Errands

What a resolver does for the database is one of four things: it gets a page, the first row or the row that a relation
leads to, or it puts an item (`Errand`). Every errand is an attempt, and what becomes of a failure of it is the same for
all four (`run_work`): a failure of data is reported as the loss of this errand and leaves null, and any other stays.
-/
namespace TableGraph

/-- One of the four things that a resolver does. -/
inductive Errand where
  | page (table : Option String) (args : Args)
  | first (table : Option String) (args : Args)
  | put (table : Option String) (args : Args)
  | related (rel : Relation) (parent : Value) (args : Args)

namespace Errand
open Resolver
variable {ι σ : Type}

def work (r : Resolver ι) : Errand → Work ι Value
  | .page table args => r.page table args
  | .first table args => r.first table args
  | .put table args => r.put table args
  | .related rel parent args => r.related rel parent args

/-- The table that is asked about. -/
def table : Errand → Option String
  | .page table _ => table
  | .first table _ => table
  | .put table _ => table
  | .related rel _ _ => some rel.referencedTable

/-- What is lost if the errand fails. -/
def loss : Errand → Loss
  | .page table _ => .page table
  | .first table _ => .first table
  | .put table _ => .put table
  | .related rel _ _ => .relation rel.type rel.field

/-- The arguments cannot be understood: a filter or a pagination that cannot be read, an input that gives no columns, or
a parent that keeps something else in the place of the arguments of its request. -/
def Misread : Errand → Failure → Prop
  | .page _ args, e => requestArgs args = .error e
  | .first _ args, e => requestArgs args = .error e
  | .put _ args, e => suppliedValues args = .error e
  | .related rel parent args, e =>
    (parent.member rel.column).isNull = false ∧ (requestArgs args = .error e ∨ inheritedArgs parent = .error e)

/-- The row that a relation leads to, as it is asked for. -/
def follow (rel : Relation) (parent : Value) (args : Args) : Work ι Value := do
  let own ← .ofExcept (requestArgs args)
  let inherited ← .ofExcept (inheritedArgs parent)
  let scope := callScope ((passedOn rel inherited own).forScope rel.field)
  firstOf (some rel.referencedTable)
    { scope with
      conditions := scope.conditions ++ [Store.StoredTable.keyed rel.referencedColumn (parent.member rel.column)] }
    (passedOn rel inherited own)

/-- What is done for an errand, whatever becomes of a failure. -/
def attempt (r : Resolver ι) : Errand → Work ι Value
  | .page table args => r.requireConnection do
    let request ← .ofExcept (requestArgs args)
    r.pageOf table (request.forRoot table) request
  | .first table args => r.requireConnection do
    let request ← .ofExcept (requestArgs args)
    firstOf table (callScope (request.forRoot table)) request
  | .put table args => r.requireConnection do
    let supplied ← .ofExcept (suppliedValues args)
    (write table (r.keyOf table) (writtenValues (r.keyOf table) supplied)).bind fun row => .done (.ok (recordOr row))
  | .related rel parent args =>
    if (parent.member rel.column).isNull then .done (.ok .null) else r.requireConnection (follow rel parent args)

/-! ## What becomes of a failure -/

theorem pairOf_error {v : Value} {e : Failure} (h : pairOf v = .error e) : e.isData = false := by
  have hname {k : Value} {f : String → String × Value} (h : (pairName k).map f = .error e) : e.isData = false := by
    unfold pairName at h
    split at h <;> cases h
    rfl
  unfold pairOf at h
  repeat' split at h
  all_goals first
    | exact hname h
    | cases h <;> rfl

/-- An input that gives no columns is no failure of data. -/
theorem suppliedValues_error {args : Args} {e : Failure} (h : suppliedValues args = .error e) : e.isData = false := by
  unfold suppliedValues at h
  dsimp only at h
  split at h
  · have h := Chain.map_eq_error.1 h
    unfold inputValues at h
    split at h
    · obtain ⟨v, -, h⟩ := Chain.exists_of_error (Chain.map_eq_error.1 h)
      exact pairOf_error h
    · cases h
      rfl
    · split at h <;> cases h
      rfl
  · cases h

theorem run_requireConnection (answer : (c : Call) → σ → Except Failure c.Answer × σ) (r : Resolver ι) (loss : Loss)
    (w : Work ι Value) (s : σ) :
    (r.requireConnection (.orNull loss w)).run answer s = ((r.requireConnection w).run answer s).contained loss := by
  unfold requireConnection
  split
  · exact Work.run_contained answer loss w s
  · rfl

/-- Every errand is its attempt, the failures of which are contained in the same way. -/
theorem run_work (answer : (c : Call) → σ → Except Failure c.Answer × σ) (r : Resolver ι) (q : Errand) (s : σ) :
    (q.work r).run answer s = ((q.attempt r).run answer s).contained q.loss := by
  cases q with
  | page table args => exact run_requireConnection answer r _ _ s
  | first table args => exact run_requireConnection answer r _ _ s
  | put table args =>
    simp only [work, attempt, loss, Resolver.put, requireConnection]
    split
    · cases hsupplied : suppliedValues args with
      | error e =>
        have hstays := suppliedValues_error hsupplied
        exact (Work.Outcome.contained_of_stays (o := ⟨.error e, s, []⟩) rfl hstays).symm
      | ok supplied => exact Work.run_contained answer (.put table) _ s
    · rfl
  | related rel parent args =>
    simp only [work, attempt, loss, Resolver.related]
    split
    · rfl
    · exact run_requireConnection answer r _ _ s

end Errand

end TableGraph
