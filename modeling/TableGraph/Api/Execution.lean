import TableGraph.Api.Basic
import TableGraph.Document.Binding

/-! # Walking a selection

The type definitions of an API are bound to its resolvers, and a selection of fields is walked depth
first: a bound field is resolved, another one is read from its parent. Below a field with a
selection of its own, the items of a list are walked one by one, null stays null, and anything else
is the parent of the fields selected.
-/
namespace TableGraph

/-- A field asked for: its name, the key its value is answered under, its arguments, and what is
selected below it. -/
inductive Selection where
  | field (name : String) (key : String) (args : Args) (below : Option (List Selection))
deriving Inhabited

namespace Api
variable {ι : Type}

/-- The schema bound to the resolvers in force. -/
def bind (a : Api ι) (refresh : Bool) : Except Failure Document.BoundSchema × Api ι :=
  let (text, a) := a.text refresh
  (Document.bind text a.fieldMap, a)

end Api

/-- A value with `f` in place of it, or of every item if it is a list. Null stays null. -/
def overItems {ι : Type} (f : Value → Work ι Value) : Value → Work ι Value
  | .list items => do
    return .list (← items.mapM fun v => if v.isNull then .done (.ok .null) else f v)
  | .scalar .null => .done (.ok .null)
  | v => f v

/-- What a walk needs to know: how a field is resolved, and the bound schema. -/
structure Walk (ι : Type) where
  resolve : FieldQuery → Work ι Value
  schema : Document.BoundSchema
  context : Value

namespace Walk
variable {ι : Type}

/-- Names that the arguments of a resolved field cannot have, since what is passed with them goes by
those names. -/
def reservedArguments : List String := ["parent", "info"]

def value (w : Walk ι) (f : Document.BoundField) (type : String) (parent : Value) (args : Args) : Work ι Value :=
  if !f.bound then .done (.ok (parent.member f.name))
  else if reservedArguments.any args.has then .fail .wrongKind
  else w.resolve ⟨type, f.name, parent, args, w.context⟩

mutual

def select (w : Walk ι) (type : String) (parent : Value) : List Selection → Work ι (Assoc String Value)
  | [] => .done (.ok [])
  | s :: rest => do
    let p ← w.selectField type parent s
    let more ← w.select type parent rest
    return p :: more

def selectField (w : Walk ι) (type : String) (parent : Value) : Selection → Work ι (String × Value)
  | .field name key args below => do
    let f ← .ofExcept (w.schema.fieldOf type name)
    let v ← w.value f type parent args
    match below with
    | none => return (key, v)
    | some fields =>
      let v ← overItems (fun parent => do
        return .map (Assoc.ofList (← w.select f.type.typeName parent fields))) v
      return (key, v)

end

end Walk

namespace Api
variable {ι : Type}

/-- Walks a selection on a root type. -/
def execute (a : Api ι) (host : Host ι (Code ι)) (schema : Document.BoundSchema) (root : String)
    (context : Value) (selection : List Selection) : Work (Code ι) Value := do
  let w : Walk (Code ι) :=
    ⟨fun q => a.resolver.resolve host.withConstants q a.hasEngine, schema, context⟩
  return .map (Assoc.ofList (← w.select root .null selection))

end Api

end TableGraph
