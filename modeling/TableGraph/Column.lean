import TableGraph.Number.Integer
import TableGraph.Value
import TableGraph.Failure

/-! # Columns and what text means to them

A text compared with or written to a column is read as a value of the column's kind: a boolean
word, an integer, a number, a date with or without a time; a column of any other kind takes text as
it is. Values that are no text are never changed. `coerceRow` keeps the known columns of a row and
reads their texts.
-/
namespace TableGraph
open TableGraph.Text

inductive ColumnKind where
  | boolean
  | integer
  | floating
  | numeric (places : Nat)
  | datetime (keepsOffset : Bool)
  | date
  /-- Dates in a form that none can be written in, with a time of day or without. -/
  | formless (timed : Bool)
  | time
  | binary
  /-- Lists, maps and scalars as JSON text. Null is written as such a text too, or kept as it is. -/
  | json (writesNull : Bool)
  /-- JSON in a packed form that can be read but not made. -/
  | packedJson
  | plain
  deriving DecidableEq

structure Column where
  name : String
  kind : ColumnKind
  deriving DecidableEq

/-- A table as statements see it. -/
structure TableShape where
  name : String
  columns : List Column
  deriving DecidableEq

def TableShape.column? (t : TableShape) (name : String) : Option Column :=
  t.columns.find? fun c => c.name = name

def trueWords : List String := ["true", "t", "1", "yes", "y"]

def falseWords : List String := ["false", "f", "0", "no", "n"]

def readBoolean? (s : List Char) : Option Bool :=
  let word := String.ofList (lowerAscii s)
  if word ∈ trueWords then some true else if word ∈ falseWords then some false else none

namespace ColumnKind

/-- What a text is read as; `none` for kinds that take it as it is. -/
def reading : ColumnKind → Option Reading
  | boolean => some .boolean
  | integer => some .integer
  | floating => some .number
  | numeric _ => some .number
  | datetime _ => some .datetime
  | date => some .date
  | formless timed => some (if timed then .datetime else .date)
  | _ => none

def readDateTime? (keepsOffset : Bool) (s : List Char) : Option DateTime :=
  (DateTime.read? (DateTime.spellZulu s)).map fun t => if keepsOffset then t else { t with offset := none }

/-- The value of a text without blanks around it. -/
def readText? (kind : ColumnKind) (s : List Char) : Option Scalar :=
  match kind with
  | boolean => (readBoolean? s).map .bool
  | integer => (Number.readInt? s).map .int
  | floating => (Number.readBinary64? s).map .float
  | numeric _ => (Number.readBinary64? s).map .float
  | datetime keepsOffset => (readDateTime? keepsOffset s).map .datetime
  | date => (Date.read? s).map .date
  | formless true => (readDateTime? false s).map .datetime
  | formless false => (Date.read? s).map .date
  | _ => some (.text (String.ofList s))

end ColumnKind

namespace Column

def coerceText (c : Column) (s : String) : Except RequestError Scalar :=
  match c.kind.reading with
  | none => .ok (.text s)
  | some reading => match c.kind.readText? (trim s.toList) with
    | some x => .ok x
    | none => .error (.unreadable reading s c.name)

def coerce (c : Column) : Value → Except RequestError Value
  | .scalar (.text s) => (c.coerceText s).map .scalar
  | v => .ok v

theorem coerce_text (c : Column) (s : String) : c.coerce (.text s) = (c.coerceText s).map .scalar := rfl

end Column

/-- The known columns of a row with their texts read; the first that cannot be read is reported. -/
def TableShape.coerceRow (t : TableShape) : Row → Except RequestError Row
  | [] => .ok []
  | (k, v) :: r => match t.column? k with
    | none => t.coerceRow r
    | some c => do
      let v ← c.coerce v
      let rest ← t.coerceRow r
      return (k, v) :: rest

end TableGraph
