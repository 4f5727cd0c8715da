import TableGraph.Text.Quoted

/-! # Faults of a request

What can be wrong with the strings and names of a request, by cause, with the wording of each in
one function. A request with such a fault gets no data; it does not fail the document.
-/
namespace TableGraph

/-- What the text of a value was read as. -/
inductive Reading where
  | boolean
  | integer
  | number
  | datetime
  | date
  deriving DecidableEq

def Reading.name : Reading → String
  | .boolean => "boolean"
  | .integer => "integer"
  | .number => "number"
  | .datetime => "datetime"
  | .date => "date"

inductive RequestError where
  | invalidFilter (segment : String)
  | invalidPagination (segment : String)
  | notInteger (key segment : String)
  | negative (key segment : String)
  | invalidOrder (segment : String)
  | invalidDirection (word : String)
  | unreadable (reading : Reading) (text column : String)
  | unknownColumn (column table : String)
  | unknownTable (table : Option String)
  | unknownOperator (op : String)
  | host (message : String)
  deriving DecidableEq

/-- How a table is named in messages, if it is named at all. -/
def tableText (table : Option String) : String := table.getD "None"

namespace RequestError
open TableGraph.Text

def message : RequestError → String
  | invalidFilter s => "Invalid filter segment: " ++ quoted s
  | invalidPagination s => "Invalid pagination segment: " ++ quoted s
  | notInteger k s => k ++ " must be an integer in pagination segment " ++ quoted s
  | negative k s => k ++ " must be non-negative in pagination segment " ++ quoted s
  | invalidOrder s => "Invalid orderby in pagination segment " ++ quoted s
  | invalidDirection w => "Invalid order direction '" ++ w ++ "'. Must be 'asc' or 'desc'."
  | unreadable r t c => "Invalid " ++ r.name ++ " value " ++ quoted t ++ " for column " ++ c
  | unknownColumn c t => "Unknown column '" ++ c ++ "' on table '" ++ t ++ "'"
  | unknownTable t => "Unknown table '" ++ tableText t ++ "'"
  | unknownOperator op => "Unknown filter operator: " ++ op
  | host m => m

end RequestError

end TableGraph
