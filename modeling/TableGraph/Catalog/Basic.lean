import TableGraph.Catalog.Generated

/-! # The catalog of types

The catalog holds the types generated from the last schema built, and on top of them the fields and
inputs added by hand, which outlive every build. `text` renders it as type definitions, inputs first;
the rendered text is kept until something changes or a fresh one is asked for.
-/
namespace TableGraph

structure Rendered where
  text : String
  connected : Bool
  deriving DecidableEq

structure Catalog where
  hashLength : Int := 8
  schema : Option Schema := none
  generated : Generated := {}
  addedTypes : Assoc String Fields := []
  addedInputs : Assoc String InputFields := []
  rendered : Option Rendered := none
  stale : Bool := true
  renderings : Nat := 0

namespace Catalog

/-- Sets a field of an added type. The type of the field is checked before those of its arguments. -/
def addField (c : Catalog) (type field : String) (returns : Value) (args : Args) :
    Except ConfigError Catalog := do
  if type = "" ∨ field = "" then throw .typeFieldNames
  let returns ← TypeRef.ofValue returns
  let args ← Field.declareAll args
  let fields := (c.addedTypes.get? type).getD []
  return { c with addedTypes := c.addedTypes.put type (fields.put field ⟨field, returns, args⟩), stale := true }

def addInput (c : Catalog) (type field : String) (given : Value) : Except ConfigError Catalog := do
  if type = "" ∨ field = "" then throw .inputFieldNames
  let ref ← TypeRef.ofValue given
  let fields := (c.addedInputs.get? type).getD []
  return { c with addedInputs := c.addedInputs.put type (fields.put field ref), stale := true }

def adopt (c : Catalog) (s : Schema) : Catalog :=
  { c with schema := some s, generated := Generated.build c.hashLength s, stale := true }

/-- Generates everything anew from the given schema, or else from the one given before. A schema that
types cannot be made from is kept all the same. -/
def build (c : Catalog) (schema : Option Schema) : Except Failure Unit × Catalog :=
  match schema <|> c.schema with
  | none => (.error (.config .noSchema), c)
  | some s => if s.isSound then (.ok (), c.adopt s) else (.error .wrongKind, { c with schema := some s })

/-- What the schema in force has that gets no type. -/
def omissions (c : Catalog) : List Omission := (c.schema.map Schema.omissions).getD []

/-- Types laid over others, field by field. -/
def layered {ν : Type} (below above : Assoc String (Assoc String ν)) : Assoc String (Assoc String ν) :=
  above.foldl (fun m p => m.put p.1 (((m.get? p.1).getD []).overlay p.2)) below

def types (c : Catalog) (connected : Bool) : Assoc String Fields :=
  if connected then layered c.generated.types c.addedTypes else c.addedTypes

def inputs (c : Catalog) (connected : Bool) : Assoc String InputFields :=
  if connected then layered c.generated.inputs c.addedInputs else c.addedInputs

def block (keyword name : String) (lines : List String) : String :=
  keyword ++ " " ++ name ++ " \x7b\n" ++ "\n".intercalate (lines.map fun l => "  " ++ l) ++ "\n\x7d"

def inputBlock (name : String) (fields : InputFields) : String :=
  block "input" name (fields.map fun p => p.1 ++ ": " ++ p.2.render)

def typeBlock (name : String) (fields : Fields) : String :=
  block "type" name (fields.map fun p => p.2.render)

/-- The type definitions of a catalog. What has no fields is left out. -/
def renderText (types : Assoc String Fields) (inputs : Assoc String InputFields) : String :=
  "\n\n".intercalate
    (((inputs.filter fun p => !p.2.isEmpty).map fun p => inputBlock p.1 p.2) ++
      ((types.filter fun p => !p.2.isEmpty).map fun p => typeBlock p.1 p.2)) ++ "\n"

def render (c : Catalog) (connected : Bool) : String := renderText (c.types connected) (c.inputs connected)

/-- The kept text, if it still stands for the catalog and this kind of connection. -/
def kept? (c : Catalog) (refresh connected : Bool) : Option String :=
  match c.rendered with
  | some r => if !refresh && !c.stale && r.connected = connected then some r.text else none
  | none => none

def text (c : Catalog) (refresh connected : Bool) : String × Catalog :=
  match c.kept? refresh connected with
  | some t => (t, c)
  | none =>
    let t := c.render connected
    (t, { c with rendered := some ⟨t, connected⟩, stale := false, renderings := c.renderings + 1 })

/-- The relation names given out, by table and column. -/
def relationNames (c : Catalog) : List (String × String × String) :=
  ascending (fun p => [p.1, p.2.1, p.2.2])
    (c.generated.relationNames.map fun p => (p.1.1, p.1.2, p.2))

end Catalog

end TableGraph
