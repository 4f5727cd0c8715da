import TableGraph.Text.Blank
import TableGraph.Request.Scope
import TableGraph.Request.Error

/-! # Filter strings

A filter is a list of segments separated by bars, each `[scope:]column op value`. The marks
`: = < > ! ~` end the scope and the column; the operator is the longest that fits; the value is the
rest of the segment, on one line. Blank segments are passed over, and the first segment of another
form is reported.
-/
namespace TableGraph

inductive Operator where
  | eq
  | ne
  | lt
  | lte
  | gt
  | gte
  | like
  deriving DecidableEq

namespace Operator

def all : List Operator := [eq, ne, lt, lte, gt, gte, like]

def name : Operator → String
  | eq => "eq"
  | ne => "ne"
  | lt => "lt"
  | lte => "lte"
  | gt => "gt"
  | gte => "gte"
  | like => "like"

def symbol : Operator → List Char
  | eq => ['=']
  | ne => ['!', '=']
  | lt => ['<']
  | lte => ['<', '=']
  | gt => ['>']
  | gte => ['>', '=']
  | like => ['~']

def ofName? (name : String) : Option Operator := all.find? fun o => o.name = name

theorem ofName?_name (o : Operator) : ofName? o.name = some o := by cases o <;> decide

/-- The longest operator at the front and what follows it. -/
def read? : List Char → Option (Operator × List Char)
  | '!' :: '=' :: r => some (ne, r)
  | '>' :: '=' :: r => some (gte, r)
  | '<' :: '=' :: r => some (lte, r)
  | '=' :: r => some (eq, r)
  | '~' :: r => some (like, r)
  | '>' :: r => some (gt, r)
  | '<' :: r => some (lt, r)
  | _ => none

end Operator

namespace Request
open TableGraph.Text

/-- The segments that are not blank, without the blanks around them. -/
def segments (raw : List Char) : List (List Char) :=
  ((split '|' raw).map trim).filter fun s => !s.isEmpty

def isMark (c : Char) : Bool := c ∈ [':', '=', '<', '>', '!', '~']

/-- A blank scope is the root. -/
def scopeOf (raw : List Char) : Option String :=
  let s := trim raw
  if s.isEmpty then none else some (String.ofList s)

/-- `column op value`, where the column takes at least one character. -/
def readComparison? (s : List Char) : Option (Condition String) :=
  let column := s.takeWhile fun c => !isMark c
  if column.isEmpty then none
  else match Operator.read? (s.dropWhile fun c => !isMark c) with
    | some (op, value) =>
      if '\n' ∈ value then none else some ⟨String.ofList (trim column), op.name, String.ofList value⟩
    | none => none

def readCondition? (s : List Char) : Option (Option String × Condition String) :=
  let head := s.takeWhile fun c => !isMark c
  match s.dropWhile fun c => !isMark c with
  | ':' :: r => if head.isEmpty then none else (readComparison? r).map fun c => (scopeOf head, c)
  | _ => (readComparison? s).map fun c => (none, c)

def addCondition (scopes : Scopes) (segment : List Char) : Except RequestError Scopes :=
  match readCondition? segment with
  | some (scope, c) => .ok (RequestArgs.join scopes scope { conditions := [c] })
  | none => .error (.invalidFilter (String.ofList segment))

def parseFilter (raw : List Char) : Except RequestError Scopes := (segments raw).foldlM addCondition []

end Request

end TableGraph
