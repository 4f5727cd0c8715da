import TableGraph.Catalog.Generated

/-! # Work that asks the database

What a field does is a tree: it ends with a result, reports an event, or asks the database and goes
on with the answer, whatever that is. Two questions may be asked at once; the database may take them
in either order. `Work.run` lets a given database answer and keeps what happened.
-/
namespace TableGraph

/-- A question to the database about a table. A field that reads none names none. -/
inductive Call where
  | count (table : Option String) (conditions : List (Condition Value))
  | select (table : Option String) (args : ScopeArgs Value)
  | find (table : Option String) (keys : Row)
  | insert (table : Option String) (values : Row)
  | update (table : Option String) (keys values : Row)

abbrev Call.Answer : Call → Type
  | count .. => Int
  | select .. => List Row
  | find .. => Option Row
  | insert .. => Option Row
  | update .. => Option Row

structure FieldQuery where
  type : String
  field : String
  parent : Value
  args : Args
  context : Value

/-- A failure that cost a field its data. -/
inductive Loss where
  | page (table : Option String)
  | first (table : Option String)
  | put (table : Option String)
  | relation (type field : String)
  deriving DecidableEq

def Loss.subject : Loss → String
  | page t => "get_page on " ++ tableText t
  | first t => "get_first_of on " ++ tableText t
  | put t => "put_item on " ++ tableText t
  | relation t f => "Relation " ++ t ++ "." ++ f

/-- The host's code `ι` is called, or data is lost. Without a host's hook the built-in one acts. -/
inductive Event (ι : Type) where
  | validator (hook : Option ι) (query : FieldQuery)
  | rejected (hook : Option ι) (query : FieldQuery)
  | handler (code : ι)
  | lost (loss : Loss) (failure : Failure)

inductive Work (ι α : Type) where
  | done (result : Except Failure α)
  | emit (event : Event ι) (next : Work ι α)
  | ask (call : Call) (next : Except Failure call.Answer → Work ι α)
  | both (first second : Call) (next : Except Failure first.Answer → Except Failure second.Answer → Work ι α)

namespace Work
variable {ι α β σ : Type}

def bind : Work ι α → (α → Work ι β) → Work ι β
  | done (.ok a), k => k a
  | done (.error e), _ => done (.error e)
  | emit event next, k => emit event (next.bind k)
  | ask call next, k => ask call fun r => (next r).bind k
  | both c d next, k => both c d fun r s => (next r s).bind k

instance : Monad (Work ι) where
  pure a := done (.ok a)
  bind := bind

def fail (e : Failure) : Work ι α := done (.error e)

def ofExcept (r : Except Failure α) : Work ι α := done r

def request (call : Call) : Work ι call.Answer := ask call done

def report (event : Event ι) : Work ι Unit := emit event (done (.ok ()))

def recover : Work ι α → (Failure → Work ι α) → Work ι α
  | done (.ok a), _ => done (.ok a)
  | done (.error e), k => k e
  | emit event next, k => emit event (next.recover k)
  | ask call next, k => ask call fun r => (next r).recover k
  | both c d next, k => both c d fun r s => (next r s).recover k

/-- A failure of data becomes null and is reported; any other failure stays. -/
def orNull (loss : Loss) (w : Work ι Value) : Work ι Value :=
  w.recover fun e => if e.isData then emit (.lost loss e) (done (.ok .null)) else fail e

inductive Happening (ι : Type) where
  | event (e : Event ι)
  | call (c : Call)

structure Outcome (ι α σ : Type) where
  result : Except Failure α
  state : σ
  trace : List (Happening ι)

/-- Work on a database with state `σ`; of two questions at once, the first one is taken first. -/
def run (answer : (c : Call) → σ → Except Failure c.Answer × σ) : Work ι α → σ → Outcome ι α σ
  | done r, s => ⟨r, s, []⟩
  | emit e next, s =>
    let o := next.run answer s
    { o with trace := .event e :: o.trace }
  | ask c next, s =>
    let (r, s) := answer c s
    let o := (next r).run answer s
    { o with trace := .call c :: o.trace }
  | both c d next, s =>
    let (r, s) := answer c s
    let (q, s) := answer d s
    let o := (next r q).run answer s
    { o with trace := .call c :: .call d :: o.trace }

end Work

def Failure.isImmediate : Failure → Bool
  | request _ => true
  | host _ => true
  | database .comparison => true
  | database .general => true
  | _ => false

/-- The answers to two questions asked at once. If one fails, so do both: with a failure found
before the database is asked if there is one, otherwise with that of the earlier question. -/
def bothAnswers {α β : Type} (r : Except Failure α) (s : Except Failure β) : Except Failure (α × β) :=
  match r, s with
  | .ok a, .ok b => .ok (a, b)
  | .error e, .ok _ => .error e
  | .ok _, .error e => .error e
  | .error e, .error f => .error (if f.isImmediate && !e.isImmediate then f else e)

end TableGraph
