import TableGraph.Ascending

/-! # Relational schemas

A schema lists tables with their columns and foreign keys. A column may lack a proper name, and then
what stands for one names it in messages only.
-/
namespace TableGraph

/-- Whether a column is named by a text, by nothing, or by what cannot be looked at as a name. -/
inductive Naming where
  | text
  | absent
  | faulty
  deriving DecidableEq

structure SchemaColumn where
  name : String
  nativeType : String
  nullable : Bool
  primary : Bool
  naming : Naming := .text
  deriving DecidableEq

structure ForeignKey where
  column : String
  referencedTable : String
  referencedColumn : String
  deriving DecidableEq

def ForeignKey.key (f : ForeignKey) : List String := [f.column, f.referencedTable, f.referencedColumn]

theorem ForeignKey.key_injective {f g : ForeignKey} (h : f.key = g.key) : f = g := by
  cases f
  cases g
  simpa [ForeignKey.key] using h

structure SchemaTable where
  name : String
  columns : List SchemaColumn
  foreignKeys : List ForeignKey
  /-- Whether the foreign keys can be put in order. -/
  sortable : Bool := true
  deriving DecidableEq

namespace SchemaTable

def primaryKey (t : SchemaTable) : List String := (t.columns.filter (·.primary)).map (·.name)

/-- Every foreign key once, by column, then by what it refers to. -/
def sortedForeignKeys (t : SchemaTable) : List ForeignKey := ascending ForeignKey.key t.foreignKeys

/-- Whether types can be made from a table. -/
def isSound (t : SchemaTable) : Bool := t.sortable && t.columns.all fun c => c.naming ≠ .faulty

end SchemaTable

structure Schema where
  tables : List SchemaTable
  deriving DecidableEq

namespace Schema

def table? (s : Schema) (name : String) : Option SchemaTable := s.tables.find? fun t => t.name = name

def sortedTables (s : Schema) : List SchemaTable := ascending (fun t => [t.name]) s.tables

/-- The primary key of a table, empty if the schema has no such table. -/
def primaryKey (s : Schema) (table : String) : List String :=
  ((s.table? table).map SchemaTable.primaryKey).getD []

end Schema

end TableGraph
