import TableGraph.Store.Database

/-! # Reading the schema of a store

Introspection lists the tables of a namespace, without those to be left out, and describes their
columns and foreign keys. Tables that foreign keys lead to are read as well, in turn; a key to a
table that was left out is dropped, and one to a table or column that does not exist makes the whole
fail. There are two namespaces, the main one with all tables and an empty one for temporary tables.
-/
namespace TableGraph.Store.Database
variable (db : Database)

def targets (name : String) : List String :=
  ((db.table? name).map fun t => t.foreignKeys.map (·.referencedTable)).getD []

/-- The names together with those that their foreign keys lead to in one step. -/
def extend (names : List String) : List String :=
  (names.flatMap db.targets).foldl (fun names n => if n ∈ names then names else names ++ [n]) names

def keyCount : Nat := (db.tables.flatMap (·.foreignKeys)).length

/-- The names together with all that their foreign keys lead to. -/
def reach (names : List String) : List String := (List.range db.keyCount).foldl (fun names _ => db.extend names) names

/-- The name of a column as the table itself spells it. -/
def ownSpelling (t : StoredTable) (column : String) : String :=
  ((t.columns.find? fun c => sameName c.name column).map (·.name)).getD column

def foreignKeyOf (own : List String) (f : ForeignKey) : Except DatabaseError (Option ForeignKey) :=
  match db.table? f.referencedTable with
  | none => .error .missingTable
  | some t =>
    if t.columns.any (fun c => c.name = f.referencedColumn) then
      .ok (if f.referencedTable ∈ own then some f else none)
    else .error .missingColumn

def describe (own : List String) (name : String) : Except DatabaseError SchemaTable :=
  match db.table? name with
  | none => .error .missingTable
  | some t => do
    let keys ← t.foreignKeys.mapM fun f => db.foreignKeyOf own { f with column := ownSpelling t f.column }
    return {
      name
      columns := t.columns.map fun c =>
        { name := c.name, nativeType := c.type.render, nullable := c.nullable, primary := c.primary }
      foreignKeys := keys.filterMap id }

/-- The schema of all tables but those to be left out. -/
def introspectMain (exclude : List String) : Except DatabaseError Schema := do
  let reached := db.reach ((db.tables.map (·.name)).filter fun n => !(n ∈ exclude))
  if reached.any fun n => (db.table? n).isNone then throw .missingTable
  let own := ascending (fun n => [n]) (reached.filter fun n => !(n ∈ exclude))
  let tables ← own.mapM (db.describe own)
  return ⟨tables⟩

/-- The schema of a namespace; without a name, of the main one. -/
def introspect (space : Option String) (exclude : List String) : Except DatabaseError Schema :=
  match space with
  | none => db.introspectMain exclude
  | some name =>
    if sameName name "main" then db.introspectMain exclude
    else if sameName name "temp" then .ok ⟨[]⟩
    else .error .operation

end TableGraph.Store.Database
