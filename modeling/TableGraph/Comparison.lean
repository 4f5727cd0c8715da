import TableGraph.Column
import TableGraph.Request.Filter

/-! # Conditions as comparisons of a table

A condition names its column and operator by text. Understanding it finds both, reads a text value as
the column's kind, except for patterns, and settles comparison with null: it is or is not null.
Null has no order, and neither do the booleans.
-/
namespace TableGraph

inductive Test where
  | isNull
  | isNotNull
  | eq
  | ne
  | lt
  | le
  | gt
  | ge
  | like
  deriving DecidableEq

structure Comparison where
  column : Column
  test : Test
  value : Value

def Operator.test : Operator → Test
  | eq => .eq
  | ne => .ne
  | lt => .lt
  | lte => .le
  | gt => .gt
  | gte => .ge
  | like => .like

/-- The test that an operator makes with a value. -/
def Operator.testWith (op : Operator) : Value → Except DatabaseError Test
  | .scalar .null => match op with
    | eq => .ok .isNull
    | ne => .ok .isNotNull
    | _ => .error .comparison
  | .scalar (.bool _) => match op with
    | eq => .ok .eq
    | ne => .ok .ne
    | _ => .error .comparison
  | _ => .ok op.test

namespace TableShape

def columnNamed (t : TableShape) (name : String) : Except Failure Column :=
  match t.column? name with
  | some c => .ok c
  | none => .error (.request (.unknownColumn name t.name))

def compare (t : TableShape) (c : Condition Value) : Except Failure Comparison := do
  let column ← t.columnNamed c.column
  match Operator.ofName? c.op with
  | none => .error (.request (.unknownOperator c.op))
  | some op =>
    let value ← if op = .like then .ok c.value else (column.coerce c.value).mapError .request
    let test ← (op.testWith value).mapError .database
    return ⟨column, test, value⟩

/-- All conditions in their order; the first fault is reported. -/
def compareAll (t : TableShape) (cs : List (Condition Value)) : Except Failure (List Comparison) :=
  cs.mapM t.compare

end TableShape

end TableGraph
