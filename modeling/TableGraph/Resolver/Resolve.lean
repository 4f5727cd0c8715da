import TableGraph.Resolver.Retrieve

/-! # Resolving a field

Every field goes through the hook first: the validator in force sees the field, and only if its
verdict counts as given does the field's handler run; otherwise the code for rejected fields answers.
The host says what its code does; it is given the context of the field, from which it can run the
field's default.
-/
namespace TableGraph

/-- What the host's code is told about the field that it resolves. -/
structure FieldContext (ι : Type) where
  resolver : Resolver ι
  type : String
  field : String
  table : Option String
  context : Value
  default : Option Default

/-- What each piece `κ` of the host's code does for a resolver that keeps code `ι`. -/
structure Host (κ ι : Type) where
  handle : κ → FieldContext ι → Value → Args → Work ι Value
  validate : κ → FieldQuery → Work ι Value
  reject : κ → FieldQuery → Work ι Value

namespace FieldContext
variable {ι : Type}

def runDefault (c : FieldContext ι) (d : Default) (parent : Value) (args : Args) : Work ι Value :=
  match d with
  | .page => c.resolver.page c.table args
  | .first => c.resolver.first c.table args
  | .put => c.resolver.put c.table args
  | .related rel => c.resolver.related rel parent args

/-- What the field would do without an override. -/
def resolveDefault (c : FieldContext ι) (parent : Value) (args : Args) : Work ι Value :=
  match c.default with
  | some d => c.runDefault d parent args
  | none => .fail (.config (.noDefault c.type c.field))

end FieldContext

namespace Resolver
variable {ι : Type}

def verdict (r : Resolver ι) (host : Host ι ι) (q : FieldQuery) : Work ι Bool := do
  .report (.validator r.hook.validator q)
  match r.hook.validator with
  | some code => return (← host.validate code q).isGiven
  | none => return true

def rejection (r : Resolver ι) (host : Host ι ι) (q : FieldQuery) : Work ι Value := do
  .report (.rejected r.hook.rejected q)
  match r.hook.rejected with
  | some code => host.reject code q
  | none => return .null

def handle (r : Resolver ι) (host : Host ι ι) (q : FieldQuery) (connected : Bool) : Work ι Value :=
  match r.entry? q.type q.field with
  | none => .fail (.config (.noResolver q.type q.field))
  | some e =>
    let c : FieldContext ι := ⟨r, q.type, q.field, e.table, q.context, e.default⟩
    match e.handler connected with
    | none => .fail (.config (.noResolver q.type q.field))
    | some (.host code) => do
      .report (.handler code)
      host.handle code c q.parent q.args
    | some (.default d) => c.runDefault d q.parent q.args

/-- The hook, then the field's handler or the answer for rejected fields. -/
def resolve (r : Resolver ι) (host : Host ι ι) (q : FieldQuery) (connected : Bool) : Work ι Value := do
  if ← r.verdict host q then r.handle host q connected else r.rejection host q

end Resolver

end TableGraph
