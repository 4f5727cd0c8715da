import TableGraph.Catalog.Basic
import TableGraph.Work

/-! # Resolvers of fields

A resolver keeps one entry for every field that is resolved: the default made for a generated field,
and the host's own code that overrides it. Registering a catalog anew replaces the defaults and
keeps the overrides. A hook decides before every field whether it is resolved at all.

The host's code is a token of type `ι`; the resolver stores it and hands it back to be run.
-/
namespace TableGraph

structure Settings where
  defaultPageSize : Int := 25
  maxPageSize : Int := 100
  hashLength : Int := 8
  deriving DecidableEq

/-- The size of a page: never above the maximum if one is asked for. -/
def Settings.clampLimit (s : Settings) : Option Int → Int
  | none => s.defaultPageSize
  | some n => min n s.maxPageSize

inductive Default where
  | page
  | first
  | put
  | related (relation : Relation)
  deriving DecidableEq

/-- The host's code that lets fields be resolved, and the one that answers for those that are not.
Without them every field is resolved, and one that is not is null. -/
structure Hook (ι : Type) where
  validator : Option ι := none
  rejected : Option ι := none

structure Entry (ι : Type) where
  default : Option Default := none
  override : Option ι := none
  table : Option String := none
  args : Args := []

inductive Handler (ι : Type) where
  | host (code : ι)
  | default (d : Default)

/-- The override if there is one; the default takes a connection. -/
def Entry.handler {ι : Type} (e : Entry ι) (connected : Bool) : Option (Handler ι) :=
  match e.override with
  | some code => some (.host code)
  | none => if connected then e.default.map .default else none

structure Resolver (ι : Type) where
  settings : Settings := {}
  hook : Hook ι := {}
  schema : Option Schema := none
  connected : Bool := false
  entries : Assoc (String × String) (Entry ι) := []

namespace Resolver
variable {ι : Type}

/-- Replaces the validator, and the code for rejected fields if one is given. -/
def onBefore (r : Resolver ι) (validator : ι) (rejected : Option ι) : Resolver ι :=
  { r with hook := ⟨some validator, rejected <|> r.hook.rejected⟩ }

def entry? (r : Resolver ι) (type field : String) : Option (Entry ι) := r.entries.get? (type, field)

/-- Overrides a field. The code offered may be none that can be called. -/
def add (r : Resolver ι) (type field : String) (code : Option ι) (args : Args) :
    Except ConfigError (Resolver ι) :=
  if type = "" ∨ field = "" then .error .resolverNames
  else match code with
    | none => .error (.notCallable type field)
    | some code =>
      let e := (r.entry? type field).getD {}
      let e := { e with override := some code, args := if args.isEmpty then e.args else args }
      .ok { r with entries := r.entries.put (type, field) e }

/-- Drops all defaults, and with them the entries that have no override. -/
def dropDefaults (entries : Assoc (String × String) (Entry ι)) : Assoc (String × String) (Entry ι) :=
  (entries.filter fun p => p.2.override.isSome).map fun p => (p.1, { p.2 with default := none })

def setDefault (types : Assoc String Fields) (entries : Assoc (String × String) (Entry ι))
    (type field : String) (d : Default) (table : String) : Assoc (String × String) (Entry ι) :=
  let e := (entries.get? (type, field)).getD {}
  let declared : Args := match (types.get? type).bind fun fs => fs.get? field with
    | some f => f.args.map fun p => (p.1, p.2.given)
    | none => []
  entries.put (type, field)
    { e with default := some d, table := some table, args := if e.args.isEmpty then declared else e.args }

/-- The generated fields of one table with what they do and the table that they read. -/
def defaultsOf (t : TableTypes) : List (String × String × Default × String) :=
  [(queryType, t.listField, .page, t.table), (queryType, t.firstField, .first, t.table),
    (mutationType, t.putField, .put, t.table)] ++
    t.relations.map fun rel => (rel.type, rel.field, .related rel, rel.referencedTable)

def register (r : Resolver ι) (c : Catalog) : Resolver ι :=
  let types := c.types true
  { r with
    schema := c.schema
    entries := (c.generated.tables.flatMap defaultsOf).foldl
      (fun entries d => setDefault types entries d.1 d.2.1 d.2.2.1 d.2.2.2) (dropDefaults r.entries) }

def fieldMap (r : Resolver ι) (connected : Bool) : Assoc String (List String) :=
  (r.entries.filter fun p => (p.2.handler connected).isSome).foldl
    (fun m p => m.change p.1.1 fun fields => fields.getD [] ++ [p.1.2]) []

def resolves (r : Resolver ι) (connected : Bool) (type field : String) : Bool :=
  ((r.entry? type field).bind fun e => e.handler connected).isSome

end Resolver

end TableGraph
