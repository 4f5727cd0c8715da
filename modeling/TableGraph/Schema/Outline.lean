import TableGraph.Failure
import TableGraph.Schema
import TableGraph.Value.Order

/-! # Outlines of schemas

An outline is a schema in its plain form, a map from table names, in which any value may stand where
a name should. `Outline.ofValue` reads it, filling in what is left out, and `Outline.toValue` writes
it with the foreign keys in canonical order. Two outlines are the same if they hold the same tables,
in whichever order. `Outline.schema` keeps of an outline what a schema can hold, and
`Schema.outline` is the outline of a schema.
-/
namespace TableGraph

structure OutlineColumn where
  name : Value
  nativeType : String
  nullable : Bool
  primary : Bool

structure OutlineKey where
  column : Value
  referencedTable : Value
  referencedColumn : Value

structure OutlineTable where
  name : String
  columns : List OutlineColumn
  foreignKeys : List OutlineKey

structure Outline where
  tables : List OutlineTable

/-- The items to go through: those of a list, or none where there is something empty. What else can
be gone through holds no items of use. -/
def Value.iterated : Value → Except Failure (List Value)
  | .list l => .ok l
  | .map [] => .ok []
  | .scalar (.text "") => .ok []
  | _ => .error .wrongKind

namespace Outline

/-- The first of several names under which a map has an entry. -/
def lookup (names : List String) (v : Assoc String Value) : Option Value := names.firstM fun n => v.get? n

def required (v : Assoc String Value) (name : String) : Except Failure Value :=
  match v.get? name with
  | some x => .ok x
  | none => .error (.missingKey (.text name))

/-- The entries of a table or of all tables. -/
def entries (v : Value) : Except Failure (Assoc String Value) :=
  match v.entries? with
  | some m => .ok m
  | none => .error .noAttribute

/-- The entries of a column or of a foreign key. -/
def fields (v : Value) : Except Failure (Assoc String Value) :=
  match v.entries? with
  | some m => .ok m
  | none => .error .wrongKind

def readColumn (v : Value) : Except Failure OutlineColumn := do
  let m ← fields v
  let name ← required m "name"
  return {
    name
    nativeType := ((lookup ["native_type", "type"] m).map Value.display).getD "text"
    nullable := ((m.get? "nullable").map Value.isGiven).getD true
    primary := ((lookup ["is_primary_key", "primary"] m).map Value.isGiven).getD false }

def readForeignKey (v : Value) : Except Failure OutlineKey := do
  let m ← fields v
  let column ← required m "column"
  let referencedTable ← required m "referenced_table"
  return ⟨column, referencedTable, (m.get? "referenced_column").getD (.text "id")⟩

def readTable (name : String) (v : Value) : Except Failure OutlineTable := do
  let m ← entries v
  let columns ← (← ((m.get? "columns").getD (.list [])).iterated).mapM readColumn
  let foreignKeys ← (← ((m.get? "foreign_keys").getD (.list [])).iterated).mapM readForeignKey
  return ⟨name, columns, foreignKeys⟩

def ofValue (v : Value) : Except Failure Outline := do
  let tables ← (← entries v).mapM fun p => readTable p.1 p.2
  return ⟨tables⟩

end Outline

namespace OutlineKey

def labels (f : OutlineKey) : List Value := [f.column, f.referencedTable, f.referencedColumn]

def same (f g : OutlineKey) : Bool := Value.sameItems f.labels g.labels

/-- The order of two lists by the first place where they differ, if it has one. -/
def before? : List Value → List Value → Option Bool
  | a :: r, b :: s => if a.same b then before? r s else a.before? b
  | _, _ => some false

/-- Every key once: of those that are the same the first. -/
def distinct (held : List OutlineKey) : List OutlineKey → List OutlineKey
  | [] => held
  | f :: r => distinct (if held.any f.same then held else held ++ [f]) r

def comparable (f g : OutlineKey) : Bool := (before? f.labels g.labels).isSome

/-- Every key once, by column, then by what it refers to, if all can be compared. -/
def sorted (keys : List OutlineKey) : Except Failure (List OutlineKey) :=
  let keys := distinct [] keys
  if keys.all (fun f => f.labels.all Value.isScalar && keys.all fun g => f.same g || f.comparable g) then
    .ok (keys.mergeSort fun f g => before? g.labels f.labels ≠ some true)
  else .error .wrongKind

end OutlineKey

namespace OutlineTable

def primaryKey (t : OutlineTable) : List Value := (t.columns.filter (·.primary)).map (·.name)

/-- The column with a name, as far as names can be the same. -/
def column? (t : OutlineTable) (name : Value) : Option OutlineColumn := t.columns.find? fun c => c.name.same name

def sortedForeignKeys (t : OutlineTable) : Except Failure (List OutlineKey) := OutlineKey.sorted t.foreignKeys

def sameColumns (a b : List OutlineColumn) : Bool :=
  a.length = b.length && (a.zip b).all fun p =>
    p.1.name.same p.2.name && p.1.nativeType = p.2.nativeType && p.1.nullable = p.2.nullable && p.1.primary = p.2.primary

def sameKeys (a b : List OutlineKey) : Bool := a.length = b.length && (a.zip b).all fun p => p.1.same p.2

/-- Columns and foreign keys count in their order. -/
def same (t u : OutlineTable) : Bool :=
  t.name = u.name && sameColumns t.columns u.columns && sameKeys t.foreignKeys u.foreignKeys

end OutlineTable

namespace Outline

def table? (o : Outline) (name : String) : Option OutlineTable := o.tables.find? fun t => t.name = name

def same (o p : Outline) : Bool :=
  o.tables.length = p.tables.length && o.tables.all fun t => (p.table? t.name).any t.same

def columnValue (c : OutlineColumn) : Value :=
  .map [("name", c.name), ("native_type", .text c.nativeType), ("nullable", .bool c.nullable),
    ("is_primary_key", .bool c.primary)]

def foreignKeyValue (f : OutlineKey) : Value :=
  .map [("column", f.column), ("referenced_table", f.referencedTable),
    ("referenced_column", f.referencedColumn)]

def tableValue (t : OutlineTable) : Except Failure Value := do
  let keys ← t.sortedForeignKeys
  return .map [("columns", .list (t.columns.map columnValue)), ("foreign_keys", .list (keys.map foreignKeyValue))]

def toValue (o : Outline) : Except Failure Value := do
  let tables ← o.tables.mapM fun t => (tableValue t).map fun v => (t.name, v)
  return .map tables

/-- A text names a column, nothing given leaves it nameless, and anything else is a fault. -/
def namingOf : Value → Naming
  | .scalar (.text _) => .text
  | v => if v.isGiven then .faulty else .absent

def schemaColumn (c : OutlineColumn) : SchemaColumn :=
  ⟨c.name.display, c.nativeType, c.nullable, c.primary, namingOf c.name⟩

/-- Only texts lead from a column to a table. -/
def schemaKey? (f : OutlineKey) : Option ForeignKey :=
  match f.column, f.referencedTable with
  | .scalar (.text column), .scalar (.text table) => some ⟨column, table, f.referencedColumn.display⟩
  | _, _ => none

def schemaTable (t : OutlineTable) : SchemaTable where
  name := t.name
  columns := t.columns.map schemaColumn
  foreignKeys := t.foreignKeys.filterMap schemaKey?
  sortable := t.sortedForeignKeys.toBool

def schema (o : Outline) : Schema := ⟨o.tables.map schemaTable⟩

end Outline

namespace Schema

def outlineTable (t : SchemaTable) : OutlineTable where
  name := t.name
  columns := t.columns.map fun c => ⟨.text c.name, c.nativeType, c.nullable, c.primary⟩
  foreignKeys := t.foreignKeys.map fun f => ⟨.text f.column, .text f.referencedTable, .text f.referencedColumn⟩

def outline (s : Schema) : Outline := ⟨s.tables.map outlineTable⟩

end Schema

end TableGraph
