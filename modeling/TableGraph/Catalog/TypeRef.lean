import TableGraph.Text.Blank
import TableGraph.Value
import TableGraph.Failure

/-! # Type references and fields

A type reference is the name of a type inside some number of list brackets. It is given as a value:
a text, or a list with one member. A field has a name, a type, and arguments with their types; an
argument also keeps the value in which its type was given.
-/
namespace TableGraph
open TableGraph.Text

inductive TypeRef where
  | named (name : String)
  | list (inner : TypeRef)
  deriving DecidableEq

namespace TypeRef

def ofText (v : Value) : Except ConfigError TypeRef :=
  let s := trim v.givenText.toList
  if s.isEmpty then .error .emptyType else .ok (.named (String.ofList s))

def ofValue : Value → Except ConfigError TypeRef
  | .list [v] => (ofValue v).map .list
  | .list items => .error (.listArity (Value.list items).literal)
  | v => ofText v

def render : TypeRef → String
  | named name => name
  | list inner => "[" ++ inner.render ++ "]"

end TypeRef

/-- The type of an argument: as it was given, and as it is read. -/
structure Declared where
  given : Value
  ref : TypeRef

def Declared.named (name : String) : Declared := ⟨.text name, .named name⟩

def Declared.ofValue (v : Value) : Except ConfigError Declared := (TypeRef.ofValue v).map fun t => ⟨v, t⟩

structure Field where
  name : String
  returns : TypeRef
  args : Assoc String Declared := []

namespace Field

def declareAll (args : Args) : Except ConfigError (Assoc String Declared) :=
  args.mapM fun p => (Declared.ofValue p.2).map fun d => (p.1, d)

def renderArgs (args : Assoc String Declared) : String :=
  if args.isEmpty then ""
  else "(" ++ ", ".intercalate (args.map fun p => p.1 ++ ": " ++ p.2.ref.render) ++ ")"

def render (f : Field) : String := f.name ++ renderArgs f.args ++ ": " ++ f.returns.render

end Field

def integerTypes : List String :=
  ["integer", "int", "int2", "int4", "int8", "smallint", "bigint", "mediumint", "tinyint", "serial",
    "smallserial", "bigserial"]

def numberTypes : List String :=
  ["real", "float", "float4", "float8", "double", "decimal", "numeric", "money"]

def booleanTypes : List String := ["boolean", "bool"]

/-- The scalar type nearest to a native column type: that of its first word, up to a blank or an
opening parenthesis. A tiny integer of one digit is a boolean, and what is unknown is a text. -/
def scalarFor (nativeType : String) : String :=
  let raw := lowerAscii (trim nativeType.toList)
  let word := String.ofList (raw.takeWhile fun c => !isBlank c && c ≠ '(')
  if "tinyint(1)".toList.isPrefixOf raw then "Boolean"
  else if word ∈ integerTypes then "Int"
  else if word ∈ numberTypes then "Float"
  else if word ∈ booleanTypes then "Boolean"
  else "String"

/-- The scalar types that need no definition. -/
def builtInScalars : List String := ["String", "Int", "Float", "Boolean", "ID"]

end TableGraph
