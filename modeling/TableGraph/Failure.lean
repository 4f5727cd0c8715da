import TableGraph.Request.Error
import TableGraph.Value

/-! # Failures

Everything that can go wrong, by cause: a mistake in how the library is set up, a request that
cannot be understood, a refusal of the database, an integer that the database has no room for, a
value of a form that its use does not admit, and what host code raises. `isData` picks out those
that cost a field its data and no more.
-/
namespace TableGraph

/-- A mistake of setting up: found at once and never passed over. -/
inductive ConfigError where
  | listArity (items : String)
  | emptyType
  | typeFieldNames
  | inputFieldNames
  | fieldPath
  | inputPath
  | resolverNames
  | notCallable (type field : String)
  | noSchema
  | noEngine
  | engineRequired
  | noDriver (name : String)
  | noConnection
  | notConnected
  | noResolver (type field : String)
  | noDefault (type field : String)
  | unknownObjectType (type : String)
  | unknownField (type field : String)
  deriving DecidableEq

def ConfigError.message : ConfigError → String
  | listArity items => "List return types must have exactly one element, got " ++ items
  | emptyType => "Return type must not be empty"
  | typeFieldNames => "add_type requires a type name and a field name"
  | inputFieldNames => "add_input requires an input name and a field name"
  | fieldPath => "add_field path must be in format Type.field"
  | inputPath => "add_input path must be in format Input.field"
  | resolverNames => "Resolver type and field names must not be empty"
  | notCallable t f => "Resolver for " ++ t ++ "." ++ f ++ " must be callable"
  | noSchema => "No database schema to build from; connect first"
  | noEngine => "Invalid database engine"
  | engineRequired => "A SQLAlchemy AsyncEngine is required"
  | noDriver name => "Database driver not available: " ++ name
  | noConnection => "Resolver has no database driver; connect first"
  | notConnected => "Not connected"
  | noResolver t f => "No resolver registered for " ++ t ++ "." ++ f
  | noDefault t f => "No default resolver for " ++ t ++ "." ++ f
  | unknownObjectType t => "Resolver map refers to unknown object type '" ++ t ++ "'"
  | unknownField t f => "Resolver map refers to unknown field '" ++ t ++ "." ++ f ++ "'"

/-- A refusal on the way to or by the database. -/
inductive DatabaseError where
  | comparison
  /-- A value that the type of its column does not take. -/
  | binding
  /-- A value of a kind that no column takes. -/
  | unsupported
  | constraint
  /-- A statement in which a key and a written column go by one name. -/
  | nameClash
  | operation
  | missingTable
  | missingColumn
  | general
  deriving DecidableEq

inductive Failure where
  | config (e : ConfigError)
  | request (e : RequestError)
  | database (e : DatabaseError)
  /-- An integer outside the signed 64-bit range, or a limit or offset outside it. -/
  | outOfRange
  | unreadableTypes
  | inconsistentTypes
  /-- A value of a kind that has no place there. -/
  | wrongKind
  /-- A text, a pair or the like of the right kind that cannot be read. -/
  | unreadable
  | unreadableJson
  | noAttribute
  | noItem
  | missingKey (key : Scalar)
  | host (message : String)
  deriving DecidableEq

/-- Failures of the data of one field; they leave it empty and are reported as warnings. -/
def Failure.isData : Failure → Bool
  | request _ => true
  | database _ => true
  | _ => false

end TableGraph
