import TableGraph.Product
import TableGraph.Resolver.Resolve

/-! # The API of a database

An API puts a catalog and a resolver behind one object. Connecting reads the schema of the database,
generates the types from it and registers their defaults; fields and inputs may be added by hand at
any time. An operation that fails keeps what it had already done.
-/
namespace TableGraph

/-- Code for a field: the host's, or a constant. -/
inductive Code (ι : Type) where
  | host (code : ι)
  | constant (value : Value)

def Host.withConstants {ι : Type} (host : Host ι (Code ι)) : Host (Code ι) (Code ι) where
  handle
    | .host code => host.handle code
    | .constant v => fun _ _ _ => .done (.ok v)
  validate
    | .host code => host.validate code
    | .constant v => fun _ => .done (.ok v)
  reject
    | .host code => host.reject code
    | .constant v => fun _ => .done (.ok v)

/-- Reads the schema of a namespace, without the tables that are left out. -/
abbrev Api.Introspect := Option String → List String → Except DatabaseError Schema

/-- How it goes to open the connection that a schema is read over, and to close it afterwards. -/
structure Connection where
  opening : Except DatabaseError Unit := .ok ()
  closing : Except DatabaseError Unit := .ok ()

/-- What is known of a database once its product is. -/
structure Link where
  product : Product
  known : List String := []
  deriving DecidableEq

namespace Link

/-- The tables of a schema are known, and no others. -/
def knowing (l : Link) (s : Schema) : Link := { l with known := s.tables.map (·.name) }

/-- Reads a schema over a connection. Its tables are known as soon as it is read whole. The connection is closed
whatever the reading came to, and if that fails, nothing else is told. -/
def introspect (l : Link) (look : Api.Introspect) (space : Option String) (exclude : List String) (c : Connection) :
    Except DatabaseError Schema × Link :=
  match c.opening with
  | .error e => (.error e, l)
  | .ok () =>
    let (read, l) := match look space exclude with
      | .error e => (.error e, l)
      | .ok s => (.ok s, l.knowing s)
    match c.closing with
    | .error e => (.error e, l)
    | .ok () => (read, l)

end Link

structure Api (ι : Type) where
  engine : Option Engine := none
  exclude : List String := []
  /-- The name of the product, if it is not to be detected. -/
  productName : Option String := none
  link : Option Link := none
  schema : Option Schema := none
  catalog : Catalog := {}
  resolver : Resolver (Code ι) := {}

/-- The last two of the segments between dots that are not empty. -/
def splitPath (path : String) : Option (String × String) :=
  let segments := (Text.split '.' (Text.trim path.toList)).filter fun s => !s.isEmpty
  match segments.reverse with
  | field :: type :: _ => some (String.ofList type, String.ofList field)
  | _ => none

namespace Api
variable {ι : Type}

def hasEngine (a : Api ι) : Bool := a.engine.isSome

/-- Adds a field and its code. A field whose code cannot be called is added all the same. -/
def add (a : Api ι) (type field : String) (returns : Value) (code : Option (Code ι)) (args : Args) :
    Except ConfigError Unit × Api ι :=
  match a.catalog.addField type field returns args with
  | .error e => (.error e, a)
  | .ok catalog =>
    let a := { a with catalog }
    match a.resolver.add type field code args with
    | .error e => (.error e, a)
    | .ok resolver => (.ok (), { a with resolver })

def addField (a : Api ι) (path : Value) (returns : Value) (code : Option (Code ι)) (args : Args) :
    Except ConfigError Unit × Api ι :=
  match splitPath path.givenText with
  | none => (.error .fieldPath, a)
  | some (type, field) => a.add type field returns code args

def addInput (a : Api ι) (path : Value) (type : Value) : Except ConfigError Unit × Api ι :=
  match splitPath path.givenText with
  | none => (.error .inputPath, a)
  | some (name, field) => match a.catalog.addInput name field type with
    | .error e => (.error e, a)
    | .ok catalog => (.ok (), { a with catalog })

def onBefore (a : Api ι) (validator : ι) (rejected : Option ι) : Api ι :=
  { a with resolver := a.resolver.onBefore (.host validator) (rejected.map .host) }

/-- A new API. If it has a name, a field of the query type tells it. -/
def create (name : String) (engine : Option Engine) (exclude : List String) (productName : Option String)
    (settings : Settings) (hook : Hook ι) : Api ι :=
  let a : Api ι := {
    engine, exclude, productName
    catalog := { hashLength := settings.hashLength }
    resolver := { settings, hook := ⟨hook.validator.map .host, hook.rejected.map .host⟩ } }
  if name = "" then a
  else (a.add queryType "getAPIName" (.text "String") (some (.constant (.text name))) []).2

def linked (a : Api ι) : Except ConfigError (Engine × Link) :=
  match a.engine with
  | none => .error .noEngine
  | some e => match a.link with
    | some l => .ok (e, l)
    | none => (Product.choose (some e) a.productName).map fun p => (e, ⟨p, []⟩)

/-- Takes over a schema that was read: types and defaults are made anew. -/
def adopt (a : Api ι) (l : Link) (s : Schema) : Api ι :=
  let catalog := a.catalog.adopt s
  { a with
    link := some l
    schema := some s
    catalog
    resolver := { a.resolver with connected := true }.register catalog }

/-- Reads the schema of a namespace, of the default one if none is named, and takes it over. -/
def connect (a : Api ι) (look : Introspect) (space : String) (c : Connection := {}) :
    Except Failure (List Omission) × Api ι :=
  match a.linked with
  | .error e => (.error (.config e), a)
  | .ok (e, l) =>
    let space := if space = "" then l.product.defaultNamespace e else some space
    match l.introspect look (l.product.namespaceArg e space) a.exclude c with
    | (.error e, l) => (.error (.database e), { a with link := some l })
    | (.ok s, l) => (.ok s.omissions, a.adopt l s)

/-- The schema, read if it was not yet or is to be read anew. -/
def databaseSchema (a : Api ι) (look : Introspect) (refresh : Bool) (c : Connection := {}) :
    Except Failure (Schema × List Omission) × Api ι :=
  match a.schema with
  | some s => if refresh then again else (.ok (s, []), a)
  | none => again
where
  again : Except Failure (Schema × List Omission) × Api ι :=
    match a.connect look "" c with
    | (.error e, a) => (.error e, a)
    | (.ok omissions, a) => match a.schema with
      | some s => (.ok (s, omissions), a)
      | none => (.error (.config .notConnected), a)

def availableTypes (a : Api ι) : Except ConfigError (List String) :=
  match a.link with
  | none => .error .notConnected
  | some l => .ok l.product.availableTypes

def knownTables (a : Api ι) : List String := (a.link.map Link.known).getD []

def text (a : Api ι) (refresh : Bool) : String × Api ι :=
  let (text, catalog) := a.catalog.text refresh a.hasEngine
  (text, { a with catalog })

def fieldMap (a : Api ι) : Assoc String (List String) := a.resolver.fieldMap a.hasEngine

end Api

end TableGraph
