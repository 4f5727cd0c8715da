import TableGraph.Request.Pagination
import TableGraph.Resolver.Basic

/-! # Pages, rows, writes and relations

The four things that generated fields do. Each reads the filter and pagination strings among its
arguments, asks the database, and hands rows on as records that carry the arguments of their
request, so that the relation fields below find their own fragments. A failure of data leaves null
and is reported; a resolver without a database fails.
-/
namespace TableGraph

def Condition.toCall (c : Condition String) : Condition Value := ⟨c.column, c.op, .text c.value⟩

namespace Resolver
variable {ι : Type}

def requireConnection (r : Resolver ι) (w : Work ι Value) : Work ι Value :=
  if r.connected then w else .fail (.config .noConnection)

def requestArgs (args : Args) : Except Failure RequestArgs :=
  let textOf (name : String) : List Char := ((args.get? name).getD .null).givenText.toList
  (Request.parse (textOf "filter") (textOf "pagination")).mapError .request

def records (args : RequestArgs) (rows : List Row) : List Value := rows.map fun row => .record row args

def pageOf (r : Resolver ι) (table : Option String) (scope : ScopeArgs String) (args : RequestArgs) : Work ι Value :=
  let conditions := scope.conditions.map Condition.toCall
  .both (.count table conditions)
    (.select table ⟨conditions, some (r.settings.clampLimit scope.limit), scope.offset, scope.order⟩)
    fun total rows => .ofExcept do
      let (total, rows) ← bothAnswers total rows
      return .map [("total", .int total), ("items", .list (records args rows))]

def page (r : Resolver ι) (table : Option String) (args : Args) : Work ι Value :=
  r.requireConnection (.orNull (.page table) do
    let request ← .ofExcept (requestArgs args)
    r.pageOf table (request.forRoot table) request)

def firstOf (table : Option String) (scope : ScopeArgs Value) (args : RequestArgs) : Work ι Value := do
  let rows ← .request (.select table { scope with limit := some 1 })
  return (records args rows).headD .null

def callScope (scope : ScopeArgs String) : ScopeArgs Value :=
  ⟨scope.conditions.map Condition.toCall, scope.limit, scope.offset, scope.order⟩

def first (r : Resolver ι) (table : Option String) (args : Args) : Work ι Value :=
  r.requireConnection (.orNull (.first table) do
    let request ← .ofExcept (requestArgs args)
    firstOf table (callScope (request.forRoot table)) request)

def pairName : Value → Except Failure String
  | .scalar s => .ok s.display
  | _ => .error .wrongKind

/-- The two members of something of two, a column and its value. -/
def pairOf (v : Value) : Except Failure (String × Value) :=
  match v with
  | .list [k, v] => (pairName k).map fun k => (k, v)
  | .list _ => .error .unreadable
  | .scalar (.text s) => match s.toList with
    | [k, v] => .ok (String.singleton k, .text (String.singleton v))
    | _ => .error .unreadable
  | v => match v.entries? with
    | some [(k, _), (v, _)] => .ok (k, .text v)
    | some _ => .error .unreadable
    | none => .error .wrongKind

def inputValues (input : Value) : Except Failure Row :=
  match input with
  | .list items => (items.mapM pairOf).map Assoc.ofList
  | .scalar (.text _) => .error .unreadable
  | v => match v.entries? with
    | some m => .ok m
    | none => .error .wrongKind

/-- The columns to write: those of the input, and over them the flat arguments. -/
def suppliedValues (args : Args) : Except Failure Row :=
  let input := (args.get? "input").getD .null
  let flat := args.drop "input"
  if input.isGiven then (inputValues input).map fun m => Assoc.overlay m flat else .ok flat

/-- A null key column is left for the database to fill. -/
def writtenValues (key : List String) (values : Row) : Row :=
  values.filter fun p => !(p.1 ∈ key && p.2.isNull)

def keyValues (key : List String) (values : Row) : Row :=
  key.foldl (fun m k => match values.get? k with | some v => m.put k v | none => m) []

/-- Updates the row with the supplied key if there is one, otherwise inserts. -/
def write (table : Option String) (key : List String) (values : Row) : Work ι (Option Row) := do
  let keys := keyValues key values
  if !key.isEmpty && keys.length = key.length then
    match ← (.request (.find table keys) : Work ι (Option Row)) with
    | some _ => .request (.update table keys (values.filter fun p => !keys.has p.1))
    | none => .request (.insert table values)
  else .request (.insert table values)

def keyOf (r : Resolver ι) (table : Option String) : List String :=
  match r.schema, table with
  | some s, some t => s.primaryKey t
  | _, _ => []

def put (r : Resolver ι) (table : Option String) (args : Args) : Work ι Value :=
  r.requireConnection do
    let supplied ← .ofExcept (suppliedValues args)
    let key := r.keyOf table
    .orNull (.put table) do
      let row ← write table key (writtenValues key supplied)
      return match row with
        | some row => .record row .empty
        | none => .null

/-- A field's own bare fragments are meant for the field itself. -/
def ownScope (field : String) (own : RequestArgs) : RequestArgs :=
  match own.scopes.get? none with
  | some root => ⟨RequestArgs.join (own.scopes.drop none) (some field) root⟩
  | none => own

/-- The request arguments that come with a parent. What else an object keeps in their place is none. -/
def inheritedArgs : Value → Except Failure RequestArgs
  | .object attributes =>
    if ((Assoc.get? attributes "request_args").getD .null).isGiven then .error .noAttribute else .ok .empty
  | v => .ok v.requestArgs

/-- The row that a relation refers to. The fragments scoped by the field's name that come with the
parent apply, then the field's own, then the key. -/
def related (r : Resolver ι) (rel : Relation) (parent : Value) (args : Args) : Work ι Value :=
  let key := parent.member rel.column
  if key.isNull then .done (.ok .null)
  else r.requireConnection (.orNull (.relation rel.type rel.field) do
    let own ← .ofExcept (requestArgs args)
    let inherited ← .ofExcept (inheritedArgs parent)
    let request := inherited.overlay (ownScope rel.field own)
    let scope := callScope (request.forScope rel.field)
    firstOf (some rel.referencedTable)
      { scope with conditions := scope.conditions ++ [⟨rel.referencedColumn, Operator.eq.name, key⟩] } request)

end Resolver

end TableGraph
