import TableGraph.Document.Basic
import TableGraph.Ascending
import TableGraph.Assoc
import TableGraph.Catalog.TypeRef

/-! # Binding resolvers to type definitions

A document is consistent if every type and every field of a type and every argument of a field is
defined once and every named type is defined or given: the built-in scalars and the types of
introspection are. A definition under the name of a given type gives way to it. Binding marks the
fields of the object types that have a resolver.
-/
namespace TableGraph.Document

structure BoundField where
  name : String
  type : TypeExpr
  bound : Bool
  deriving DecidableEq

structure ObjectType where
  name : String
  fields : List BoundField
  deriving DecidableEq

/-- The object types and the input types of a document; the object types of introspection are among
them. -/
structure BoundSchema where
  objects : List ObjectType
  inputs : List ObjectType
  deriving DecidableEq

def hasRepeats (names : List String) : Bool :=
  match names with
  | [] => false
  | n :: r => n ∈ r || hasRepeats r

theorem hasRepeats_eq_false {names : List String} : hasRepeats names = false ↔ names.Nodup := by
  induction names with
  | nil => simp [hasRepeats]
  | cons n r ih => simp [hasRepeats, ih]

def required (name : String) : TypeExpr := .nonNull (.named name)

/-- A list without nulls that is not null. -/
def requiredList (name : String) : TypeExpr := .nonNull (.list (required name))

def unboundType (name : String) (fields : List (String × TypeExpr)) : ObjectType :=
  ⟨name, fields.map fun f => ⟨f.1, f.2, false⟩⟩

/-- The object types in which a document describes itself. -/
def introspectionTypes : List ObjectType := [
  unboundType "__Schema" [("description", .named "String"), ("types", requiredList "__Type"),
    ("queryType", required "__Type"), ("mutationType", .named "__Type"), ("subscriptionType", .named "__Type"),
    ("directives", requiredList "__Directive")],
  unboundType "__Directive" [("name", required "String"), ("description", .named "String"),
    ("isRepeatable", required "Boolean"), ("locations", requiredList "__DirectiveLocation"),
    ("args", requiredList "__InputValue")],
  unboundType "__Type" [("kind", required "__TypeKind"), ("name", .named "String"), ("description", .named "String"),
    ("specifiedByURL", .named "String"), ("fields", .list (required "__Field")),
    ("interfaces", .list (required "__Type")), ("possibleTypes", .list (required "__Type")),
    ("enumValues", .list (required "__EnumValue")), ("inputFields", .list (required "__InputValue")),
    ("ofType", .named "__Type"), ("isOneOf", .named "Boolean")],
  unboundType "__Field" [("name", required "String"), ("description", .named "String"),
    ("args", requiredList "__InputValue"), ("type", required "__Type"), ("isDeprecated", required "Boolean"),
    ("deprecationReason", .named "String")],
  unboundType "__InputValue" [("name", required "String"), ("description", .named "String"),
    ("type", required "__Type"), ("defaultValue", .named "String"), ("isDeprecated", required "Boolean"),
    ("deprecationReason", .named "String")],
  unboundType "__EnumValue" [("name", required "String"), ("description", .named "String"),
    ("isDeprecated", required "Boolean"), ("deprecationReason", .named "String")]]

/-- The names of types that need no definition. -/
def givenNames : List String :=
  builtInScalars ++ introspectionTypes.map (·.name) ++ ["__TypeKind", "__DirectiveLocation"]

def isGiven (name : String) : Bool := name ∈ givenNames

/-- Whether a name is that of a type. -/
def isKnown (ds : List TypeDefinition) (name : String) : Bool := isGiven name || ds.any fun d => d.name = name

/-- The names that a definition uses are all known. -/
def namesKnown (ds : List TypeDefinition) (d : TypeDefinition) : Bool :=
  d.fields.all fun f => isKnown ds f.type.typeName && f.args.all fun a => isKnown ds a.type.typeName

def definitionConsistent (ds : List TypeDefinition) (d : TypeDefinition) : Bool :=
  !hasRepeats (d.fields.map (·.name)) &&
    d.fields.all (fun f => !hasRepeats (f.args.map (·.name))) &&
    namesKnown ds d

def consistent (ds : List TypeDefinition) : Bool :=
  !hasRepeats (ds.map (·.name)) && ds.all (definitionConsistent ds)

/-- The types of one kind that a document defines, with no field bound. -/
def definedTypes (kind : Kind) (ds : List TypeDefinition) : List ObjectType :=
  (ds.filter fun d => d.kind = kind && !isGiven d.name).map fun d =>
    unboundType d.name (d.fields.map fun f => (f.name, f.type))

namespace BoundSchema

def ofDefinitions (ds : List TypeDefinition) : BoundSchema :=
  ⟨definedTypes .object ds ++ introspectionTypes, definedTypes .input ds⟩

def object? (s : BoundSchema) (name : String) : Option ObjectType := s.objects.find? fun o => o.name = name

def field? (s : BoundSchema) (type field : String) : Option BoundField :=
  (s.object? type).bind fun o => o.fields.find? fun f => f.name = field

/-- The object types but for those whose names are kept for introspection. -/
def publicObjects (s : BoundSchema) : List ObjectType :=
  s.objects.filter fun o => !(['_', '_'].isPrefixOf o.name.toList)

def bindField (s : BoundSchema) (type field : String) : BoundSchema :=
  { s with objects := s.objects.map fun o =>
    if o.name = type then
      { o with fields := o.fields.map fun f => if f.name = field then { f with bound := true } else f }
    else o }

/-- Binds the fields of one type. -/
def bindFields (s : BoundSchema) (type : String) : List String → Except ConfigError BoundSchema
  | [] => .ok s
  | field :: r =>
    if (s.field? type field).isSome then (s.bindField type field).bindFields type r
    else .error (.unknownField type field)

def bindType (s : BoundSchema) (p : String × List String) : Except ConfigError BoundSchema :=
  if (s.object? p.1).isSome then s.bindFields p.1 p.2 else .error (.unknownObjectType p.1)

/-- The field of a type, if there is one. A type without fields cannot be asked for one, and what a
field of an input type yields cannot be asked for. -/
def fieldOf (s : BoundSchema) (type field : String) : Except Failure BoundField :=
  match s.object? type, s.inputs.find? fun o => o.name = type with
  | some _, _ => match s.field? type field with
    | some f => .ok f
    | none => .error (.missingKey (.text field))
  | none, some o =>
    if o.fields.any fun f => f.name = field then .error .noAttribute else .error (.missingKey (.text field))
  | none, none => .error .noAttribute

end BoundSchema

/-- Reads a document and binds the fields that the resolver map names. -/
def bind (text : String) (resolvers : Assoc String (List String)) : Except Failure BoundSchema :=
  match read? text with
  | none => .error .unreadableTypes
  | some ds =>
    if consistent ds then (resolvers.foldlM BoundSchema.bindType (.ofDefinitions ds)).mapError .config
    else .error .inconsistentTypes

end TableGraph.Document
