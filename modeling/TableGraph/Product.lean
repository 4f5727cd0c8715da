import TableGraph.Text.Case
import TableGraph.Failure

/-! # Database products

Three database products are supported. Which one an engine talks to is told by its dialect, unless
it is named; each product has its default namespace and its own list of column types.
-/
namespace TableGraph

/-- A way to a database: the name of its dialect and the database that its address names. -/
structure Engine where
  dialect : String
  database : Option String := none
  deriving DecidableEq

inductive Product where
  | sqlite
  | postgresql
  | mysql
  deriving DecidableEq

namespace Product

def all : List Product := [sqlite, postgresql, mysql]

def name : Product → String
  | sqlite => "sqlite"
  | postgresql => "postgresql"
  | mysql => "mysql"

def ofName (name : String) : Except ConfigError Product :=
  match all.find? fun p => p.name = name with
  | some p => .ok p
  | none => .error (.noDriver name)

/-- The product of a dialect, whatever its case. -/
def detect (e : Engine) : Except ConfigError Product :=
  let dialect := String.ofList (Text.lower e.dialect.toList)
  ofName (if dialect = "mariadb" then mysql.name else dialect)

/-- The product of an engine: the named one, or else that of the dialect. -/
def choose (e : Option Engine) (named : Option String) : Except ConfigError Product :=
  match e, named with
  | none, _ => .error .noEngine
  | some e, none => detect e
  | some _, some name => ofName name

def defaultNamespace (p : Product) (e : Engine) : Option String :=
  match p with
  | sqlite => some "main"
  | postgresql => some "public"
  | mysql => e.database

/-- The namespace to look in; `none` stands for the default one. -/
def namespaceArg (p : Product) (e : Engine) (name : Option String) : Option String :=
  if name = none ∨ name = some "" ∨ name = p.defaultNamespace e then none else name

def availableTypes : Product → List String
  | sqlite =>
    ["bigint", "blob", "boolean", "date", "datetime", "decimal", "float", "integer", "numeric", "real",
      "text", "varchar"]
  | postgresql =>
    ["bigint", "bigserial", "boolean", "bytea", "char", "date", "decimal", "double precision", "integer",
      "json", "jsonb", "numeric", "real", "serial", "smallint", "text", "time", "timestamp", "timestamptz",
      "uuid", "varchar"]
  | mysql =>
    ["bigint", "bit", "blob", "boolean", "char", "date", "datetime", "decimal", "double", "float", "int",
      "integer", "json", "longtext", "mediumint", "mediumtext", "smallint", "text", "time", "timestamp",
      "tinyint", "varchar"]

end Product

end TableGraph
