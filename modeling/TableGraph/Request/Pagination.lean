import TableGraph.Number.Integer
import TableGraph.Request.Filter

/-! # Pagination strings

A pagination is a list of segments separated by bars, each `[scope:]limit=N`, `[scope:]offset=N` or
`[scope:]orderby=column [asc|desc]`. A later limit or offset of a scope replaces the earlier one,
while orders accumulate. The first segment of another form is reported.
-/
namespace TableGraph.Request
open TableGraph.Text

def readCount (key : String) (segment value : List Char) : Except RequestError Int :=
  match Number.readInt? (trim value) with
  | none => .error (.notInteger key (String.ofList segment))
  | some n => if n < 0 then .error (.negative key (String.ofList segment)) else .ok n

def readOrder (segment value : List Char) : Except RequestError (String × Direction) :=
  match words value with
  | [column] => .ok (String.ofList column, .asc)
  | [column, word] =>
    match String.ofList (lowerAscii word) with
    | "asc" => .ok (String.ofList column, .asc)
    | "desc" => .ok (String.ofList column, .desc)
    | _ => .error (.invalidDirection (String.ofList word))
  | _ => .error (.invalidOrder (String.ofList segment))

/-- The scope of a segment and the rest of it. A colon after an equals sign belongs to the value. -/
def takeScope (segment : List Char) : Option String × List Char :=
  match cut? ':' segment with
  | some (head, rest) => if '=' ∈ head then (none, segment) else (scopeOf head, rest)
  | none => (none, segment)

def update (scopes : Scopes) (scope : Option String) (f : ScopeArgs String → ScopeArgs String) : Scopes :=
  scopes.change scope fun a => f (a.getD .empty)

def addPaging (scopes : Scopes) (segment : List Char) : Except RequestError Scopes :=
  let (scope, body) := takeScope segment
  match cut? '=' body with
  | none => .error (.invalidPagination (String.ofList segment))
  | some (key, value) =>
    match String.ofList (lowerAscii (trim key)) with
    | "limit" => (readCount "limit" segment value).map fun n =>
        update scopes scope fun a => { a with limit := some n }
    | "offset" => (readCount "offset" segment value).map fun n =>
        update scopes scope fun a => { a with offset := n }
    | "orderby" => (readOrder segment value).map fun o =>
        update scopes scope fun a => { a with order := a.order ++ [o] }
    | _ => .error (.invalidPagination (String.ofList segment))

def parsePagination (raw : List Char) : Except RequestError Scopes := (segments raw).foldlM addPaging []

/-- The arguments of a request; a fault of the filter is reported before one of the pagination. -/
def parse (filter pagination : List Char) : Except RequestError RequestArgs := do
  let conditions ← parseFilter filter
  let paging ← parsePagination pagination
  return (RequestArgs.mk conditions).overlay ⟨paging⟩

end TableGraph.Request
