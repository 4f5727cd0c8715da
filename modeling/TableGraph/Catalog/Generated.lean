import TableGraph.Schema
import TableGraph.Catalog.TypeRef
import TableGraph.Catalog.Namer

/-! # Types generated from a schema

Every table becomes an object type with its columns and its forward relations, a page type, an
input type, two fields of the query type and one of the mutation type. Tables are taken in the order
of their names. A column that is no name, and a table with no column left, is passed over with a
warning.
-/
namespace TableGraph

/-- A relation to the row that a foreign key refers to. -/
structure Relation where
  type : String
  field : String
  table : String
  column : String
  referencedTable : String
  referencedColumn : String
  deriving DecidableEq

/-- What was generated for one table. The other names are made from that of the object type. -/
structure TableTypes where
  table : String
  type : String
  columns : List String := []
  relations : List Relation := []
  deriving DecidableEq

namespace TableTypes

def pageOf (type : String) : String := "Page" ++ type
def inputOf (type : String) : String := "Input" ++ type

def page (t : TableTypes) : String := pageOf t.type
def input (t : TableTypes) : String := inputOf t.type
def listField (t : TableTypes) : String := "get" ++ t.type
def firstField (t : TableTypes) : String := "getFirstOf" ++ t.type
def putField (t : TableTypes) : String := "putItem" ++ t.type

end TableTypes

abbrev Fields := Assoc String Field
abbrev InputFields := Assoc String TypeRef

inductive Omission where
  | column (table column : String)
  | table (name : String)
  deriving DecidableEq

def Omission.message : Omission → String
  | column t c => "Skipping column " ++ t ++ "." ++ c ++ ": not a valid GraphQL name"
  | table t => "Skipping table " ++ t ++ ": no exposable columns"

structure Generated where
  types : Assoc String Fields := []
  inputs : Assoc String InputFields := []
  tables : List TableTypes := []
  relationNames : Assoc (String × String) String := []

/-- The three type names that go with a base name. -/
def typeNames (base : String) : List String := [base, TableTypes.pageOf base, TableTypes.inputOf base]

/-- The base name that a table falls back on, with a digest. -/
def taggedTypeName (hashLength : Int) (table : String) : String :=
  typeNameFor table ++ "_" ++ String.ofList (Name.tag hashLength [table])

/-- The base name of a table's types: with a digest if one of the three is in use. -/
def chooseTypeName (hashLength : Int) (used : List String) (table : String) : String :=
  if (typeNames (typeNameFor table)).any fun n => n ∈ used then taggedTypeName hashLength table
  else typeNameFor table

def assignTypeNames (hashLength : Int) : List String → List SchemaTable → List (SchemaTable × String)
  | _, [] => []
  | used, t :: r =>
    let base := chooseTypeName hashLength used t.name
    (t, base) :: assignTypeNames hashLength (used ++ typeNames base) r

def queryType : String := "Query"
def mutationType : String := "Mutation"

def pageArgs : Assoc String Declared := [("filter", .named "String"), ("pagination", .named "String")]

namespace Generated

def isAdmitted (c : SchemaColumn) : Bool := c.naming = .text && Name.isAdmitted c.name.toList

def columnFields (t : SchemaTable) : InputFields :=
  (t.columns.filter isAdmitted).foldl (fun fs c => fs.put c.name (.named (scalarFor c.nativeType))) []

def columnOmissions (table : String) (columns : List SchemaColumn) : List Omission :=
  (columns.filter fun c => !isAdmitted c).map fun c => .column table c.name

/-- What of a table gets no type: columns, and with the last of them the table. -/
def omissionsOf (t : SchemaTable) : List Omission :=
  columnOmissions t.name t.columns ++ (if (columnFields t).isEmpty then [.table t.name] else [])

/-- What was passed over on the way to the first table that types cannot be made from. -/
def omissionsUntilFault : List SchemaTable → List Omission
  | [] => []
  | t :: r =>
    if t.isSound then omissionsOf t ++ omissionsUntilFault r
    else columnOmissions t.name (t.columns.takeWhile fun c => c.naming ≠ .faulty)

structure RelationState where
  namer : Namer
  fields : Fields
  relations : List Relation := []

def addRelation (bases : Assoc String String) (table type : String) (s : RelationState) (f : ForeignKey) :
    RelationState :=
  match bases.get? f.referencedTable with
  | none => s
  | some target =>
    if s.fields.has f.column then
      let (name, namer) := s.namer.assign table f.column f.referencedTable
      { namer
        fields := s.fields.put name ⟨name, .named target, pageArgs⟩
        relations := s.relations ++ [⟨type, name, table, f.column, f.referencedTable, f.referencedColumn⟩] }
    else s

def scalarFields (t : SchemaTable) : Fields := (columnFields t).map fun p => (p.1, ⟨p.1, p.2, []⟩)

/-- The fields of a table: its columns, and after them the relations of its foreign keys. -/
def relate (bases : Assoc String String) (namer : Namer) (p : SchemaTable × String) : RelationState :=
  p.1.sortedForeignKeys.foldl (addRelation bases p.1.name p.2)
    { namer := namer.reserve p.1.name (Assoc.keys (scalarFields p.1)), fields := scalarFields p.1 }

def tableTypes (p : SchemaTable × String) (relations : List Relation) : TableTypes where
  table := p.1.name
  type := p.2
  columns := (p.1.columns.filter isAdmitted).map (·.name)
  relations

structure BuildState where
  namer : Namer
  types : Assoc String Fields := []
  inputs : Assoc String InputFields := []
  query : Fields := []
  mutation : Fields := []
  tables : List TableTypes := []

def pageFields (type : String) : Fields :=
  [("total", ⟨"total", .named "Int", []⟩), ("items", ⟨"items", .list (.named type), []⟩)]

def putArgs (t : TableTypes) (inputs : InputFields) : Assoc String Declared :=
  ("input", .named t.input) ::
    ((inputs.filter fun p => p.1 ≠ "input").map fun p => (p.1, ⟨.text p.2.render, p.2⟩))

def listOf (t : TableTypes) : Field := ⟨t.listField, .named t.page, pageArgs⟩

def firstOf (t : TableTypes) : Field := ⟨t.firstField, .named t.type, pageArgs⟩

def putOf (t : TableTypes) (inputs : InputFields) : Field := ⟨t.putField, .named t.type, putArgs t inputs⟩

def addTable (bases : Assoc String String) (s : BuildState) (p : SchemaTable × String) : BuildState :=
  let related := relate bases s.namer p
  let t := tableTypes p related.relations
  let s := { s with
    namer := related.namer
    tables := s.tables ++ [t] }
  if related.fields.isEmpty then s
  else { s with
    types := (s.types.put p.2 related.fields).put t.page (pageFields p.2)
    inputs := s.inputs.put t.input (columnFields p.1)
    query := (s.query.put t.listField (listOf t)).put t.firstField (firstOf t)
    mutation := s.mutation.put t.putField (putOf t (columnFields p.1)) }

/-- The tables in the order of their names, each with its base name. -/
def named (hashLength : Int) (schema : Schema) : List (SchemaTable × String) :=
  assignTypeNames hashLength Name.reservedTypes schema.sortedTables

def basesOf (named : List (SchemaTable × String)) : Assoc String String := named.map fun p => (p.1.name, p.2)

def build (hashLength : Int) (schema : Schema) : Generated :=
  let pairs := named hashLength schema
  let s := pairs.foldl (addTable (basesOf pairs)) { namer := { hashLength } }
  let types := s.types.put queryType s.query
  let types := if s.mutation.isEmpty then types else types.put mutationType s.mutation
  { types
    inputs := s.inputs
    tables := s.tables.filter fun t => types.has t.type
    relationNames := s.namer.names }

end Generated

namespace Schema

def isSound (s : Schema) : Bool := s.tables.all SchemaTable.isSound

/-- What gets no type, in the order of the tables' names, up to the first fault if there is one. -/
def omissions (s : Schema) : List Omission := Generated.omissionsUntilFault s.sortedTables

end Schema

end TableGraph
