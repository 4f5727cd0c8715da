import TableGraph.Number.Decimal
import TableGraph.Calendar.DateTime
import TableGraph.Request.Scope
import TableGraph.Text.Quoted

/-! # Values

A scalar is what one cell of a row can hold. A value is what a field can produce or be given: a
scalar, a list, a map in insertion order, a row that carries the arguments of its request, or an
object that has attributes but is no map.
-/
namespace TableGraph

inductive Scalar where
  | null
  | bool (b : Bool)
  | int (n : Int)
  | float (x : Binary64)
  | text (s : String)
  | decimal (d : Decimal)
  | datetime (t : DateTime)
  | date (d : Date)
  | bytes (b : List UInt8)
  deriving DecidableEq

inductive Value where
  | scalar (s : Scalar)
  | list (items : List Value)
  | map (entries : List (String × Value))
  | record (row : List (String × Value)) (args : RequestArgs)
  | object (attributes : List (String × Value))

abbrev Args := Assoc String Value

abbrev Row := Assoc String Value

namespace Scalar
open TableGraph.Text

/-- The text of a scalar, as it stands in messages and names. -/
def display : Scalar → String
  | null => "None"
  | bool true => "True"
  | bool false => "False"
  | int n => toString n
  | float x => Number.messageText x
  | text s => s
  | decimal d => d.toText
  | datetime t => t.display
  | date d => d.toText
  | bytes b => quotedBytes b

/-- The text of a scalar inside a list or map: text is quoted, and what is told apart by its kind
shows it. -/
def literal : Scalar → String
  | text s => quoted s
  | decimal d => "Decimal('" ++ d.toText ++ "')"
  | datetime t => t.literal
  | date d => d.literal
  | s => s.display

/-- The numbers that a number is made of. -/
def numberPart (n : Int) (name : String) : Option Int :=
  if name ∈ ["real", "numerator"] then some n
  else if name = "imag" then some 0
  else if name = "denominator" then some 1
  else none

def datePart (d : Date) (name : String) : Option Nat :=
  [("year", d.year), ("month", d.month), ("day", d.day)].lookup name

def clockPart (c : Clock) (name : String) : Option Nat :=
  [("hour", c.hour), ("minute", c.minute), ("second", c.second), ("microsecond", c.microsecond),
    ("fold", 0)].lookup name

/-- The part of a scalar under a name: of a number, a date or a time. -/
def part (s : Scalar) (name : String) : Option Scalar :=
  match s with
  | bool b => (numberPart (if b then 1 else 0) name).map .int
  | int n => (numberPart n name).map .int
  | float x => if name = "real" then some (.float x) else if name = "imag" then some (.float (.zero false)) else none
  | date d => (datePart d name).map fun n => .int n
  | datetime t => (datePart t.date name <|> clockPart t.clock name).map fun n => .int n
  | _ => none

/-- Null, false, zero and what is empty do not count as given. -/
def isGiven : Scalar → Bool
  | null => false
  | bool b => b
  | int n => n ≠ 0
  | float x => !x.isZero
  | text s => s ≠ ""
  | decimal (.finite _ c _) => c ≠ 0
  | bytes b => !b.isEmpty
  | _ => true

end Scalar

namespace Value

def null : Value := .scalar .null

def text (s : String) : Value := .scalar (.text s)

def int (n : Int) : Value := .scalar (.int n)

def bool (b : Bool) : Value := .scalar (.bool b)

def isNull : Value → Bool
  | scalar .null => true
  | _ => false

def isGiven : Value → Bool
  | scalar s => s.isGiven
  | list items => !items.isEmpty
  | map entries => !entries.isEmpty
  | record row _ => !row.isEmpty
  | object _ => true

mutual

def literal : Value → String
  | scalar s => s.literal
  | list items => "[" ++ ", ".intercalate (literals items) ++ "]"
  | map entries => "\x7b" ++ ", ".intercalate (entryLiterals entries) ++ "\x7d"
  | record row _ => "\x7b" ++ ", ".intercalate (entryLiterals row) ++ "\x7d"
  | object _ => "object"

def literals : List Value → List String
  | [] => []
  | v :: r => v.literal :: literals r

def entryLiterals : List (String × Value) → List String
  | [] => []
  | (k, v) :: r => (Text.quoted k ++ ": " ++ v.literal) :: entryLiterals r

end

def display : Value → String
  | scalar s => s.display
  | v => v.literal

def givenText (v : Value) : String := if v.isGiven then v.display else ""

def entries? : Value → Option (Assoc String Value)
  | map entries => some entries
  | record row _ => some row
  | _ => none

/-- What a value holds under a name: an entry of a map, an attribute of an object or a part of a
scalar. -/
def member (v : Value) (name : String) : Value :=
  match v with
  | map entries => (Assoc.get? entries name).getD null
  | record row _ => (Assoc.get? row name).getD null
  | object attributes => (Assoc.get? attributes name).getD null
  | scalar s => ((s.part name).map scalar).getD null
  | list _ => null

/-- The request arguments that a value carries, none unless it is a row of a request. -/
def requestArgs : Value → RequestArgs
  | record _ args => args
  | _ => .empty

end Value

end TableGraph
