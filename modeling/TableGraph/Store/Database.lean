import TableGraph.Store.Table
import TableGraph.Work

/-! # Answers of a store

A database is a list of tables. A statement is first understood: its table has to be among the known
ones, its columns and operators have to exist, its texts have to read as what the columns hold. Then
its values are bound, and then it is carried out, as a whole or not at all. The rows that it yields
are read as the kinds of their columns say, and a row that cannot be read undoes the statement. Where
inserted rows are not returned, they are looked up again by their key or by what was written.

This is one database among those that `Work.run` may be given. Others may order ties, compare texts
and refuse values in other ways; none is asked for more than the answers to a `Call`.
-/
namespace TableGraph.Store

structure Database where
  tables : List StoredTable
  returning : Bool := true
  deriving DecidableEq

/-- Names of tables are the same whatever the case of their ASCII letters. -/
def sameName (a b : String) : Bool := upperAscii a = upperAscii b

namespace Database

def table? (db : Database) (name : String) : Option StoredTable := db.tables.find? fun t => sameName t.name name

def replace (db : Database) (t : StoredTable) : Database :=
  { db with tables := db.tables.map fun u => if u.name = t.name then t else u }

end Database

structure BoundTest where
  column : String
  affinity : Affinity
  test : Test
  value : Cell

namespace StoredTable

def shape (t : StoredTable) (name : String) : TableShape := ⟨name, t.columns.map StoredColumn.column⟩

def affinityAt (t : StoredTable) (column : String) : Affinity :=
  ((t.columns.find? fun c => c.name = column).map StoredColumn.affinity).getD .blob

def prepareTest (c : Comparison) : Except Failure (Comparison × Value) :=
  (prepareOperand c.column.kind c.value).map fun v => (c, v)

def acceptTest (t : StoredTable) (p : Comparison × Value) : Except Failure BoundTest :=
  (accept p.2).map fun v => ⟨p.1.column.name, t.affinityAt p.1.column.name, p.1.test, v⟩

def maxTests : Nat := 999

def maxOrder : Nat := 2000

/-- What makes a statement impossible whatever its values: too many tests, or JSON to be packed. -/
def checkTests (cs : List Comparison) : Except Failure Unit :=
  if maxTests < cs.length || cs.any fun c => cannotPack c.column.kind c.value then .error (.database .operation)
  else .ok ()

def bindTests (t : StoredTable) (cs : List Comparison) : Except Failure (List BoundTest) := do
  let prepared ← cs.mapM prepareTest
  checkTests cs
  prepared.mapM t.acceptTest

def meets (t : StoredTable) (row : Cells) (b : BoundTest) : Bool :=
  holds b.affinity b.test (t.cellAt row b.column) b.value

def meetsAll (t : StoredTable) (bs : List BoundTest) (row : Cells) : Bool := bs.all (t.meets row)

/-- Null comes first in ascending order and last in descending order. -/
def comesBefore (t : StoredTable) (order : List (String × Direction)) (a b : Cells) : Bool :=
  match order with
  | [] => true
  | (column, d) :: rest =>
    let x := t.cellAt a column
    let y := t.cellAt b column
    if x.same y then t.comesBefore rest a b
    else match d with
      | .asc => x.lt y
      | .desc => y.lt x

/-- The order asked for, or else that of the key. -/
def orderOr (t : StoredTable) (order : List (String × Direction)) : List (String × Direction) :=
  if order.isEmpty then t.keyColumns.map fun c => (c.name, .asc) else order

/-- A limit below zero is none, and an offset below zero is zero. -/
def window (limit : Option Int) (offset : Int) (rows : List Cells) : List Cells :=
  let rest := rows.drop offset.toNat
  match limit with
  | none => rest
  | some n => if n < 0 then rest else rest.take n.toNat

def chosen (t : StoredTable) (bs : List BoundTest) : List Cells := t.rows.filter (t.meetsAll bs)

def sorted (t : StoredTable) (order : List (String × Direction)) (rows : List Cells) : List Cells :=
  rows.mergeSort (t.comesBefore (t.orderOr order))

def checkRange (n : Int) : Except Failure Unit := if fits n then .ok () else .error .outOfRange

def equalities (shape : TableShape) (keys : Row) : List Comparison :=
  keys.filterMap fun p => (shape.column? p.1).map fun c =>
    ⟨c, if p.2.isNull then .isNull else .eq, p.2⟩

/-- A pattern that is too long fails the statement as soon as a row comes to it. -/
def checkPatterns (t : StoredTable) (before : List BoundTest) : List BoundTest → Except Failure Unit
  | [] => .ok ()
  | b :: r =>
    if b.test = .like && isTooLong b.value && t.rows.any (t.meetsAll before) then .error (.database .operation)
    else t.checkPatterns (before ++ [b]) r

def checkOrder (order : List (String × Direction)) : Except Failure Unit :=
  if maxOrder < order.length then .error (.database .operation) else .ok ()

def select (t : StoredTable) (name : String) (args : ScopeArgs Value) : Except Failure (List Row) := do
  let cs ← (t.shape name).compareAll args.conditions
  let _ ← args.order.mapM fun p => (t.shape name).columnNamed p.1
  let bs ← t.bindTests cs
  checkOrder args.order
  checkRange (args.limit.getD 0)
  checkRange args.offset
  t.checkPatterns [] bs
  t.readRows (window args.limit args.offset (t.sorted args.order (t.chosen bs)))

def count (t : StoredTable) (name : String) (conditions : List (Condition Value)) : Except Failure Int := do
  let cs ← (t.shape name).compareAll conditions
  let bs ← t.bindTests cs
  t.checkPatterns [] bs
  return (t.chosen bs).length

def firstOf (t : StoredTable) (bs : List BoundTest) : Except Failure (Option Row) :=
  match t.chosen bs with
  | [] => .ok none
  | row :: _ => (t.readRow row).map some

def known (t : StoredTable) (name : String) (row : Row) : Except Failure Row :=
  ((t.shape name).coerceRow row).mapError .request

def find (t : StoredTable) (name : String) (keys : Row) : Except Failure (Option Row) := do
  let keys ← t.known name keys
  if keys.isEmpty then return none
  let bs ← t.bindTests (equalities (t.shape name) keys)
  t.firstOf bs

def inOrder (t : StoredTable) (values : Row) : List (StoredColumn × Value) :=
  t.columns.filterMap fun c => (values.get? c.name).map fun v => (c, v)

def prepareRow (t : StoredTable) (values : Row) : Except Failure (List (String × Value)) :=
  (t.inOrder values).mapM fun p => (prepare p.1.kind p.2).map fun v => (p.1.name, v)

def acceptRow (values : List (String × Value)) : Except Failure (Assoc String Cell) :=
  values.mapM fun p => (accept p.2).map fun c => (p.1, c)

/-- Names that a written column cannot have: they are those of the parts of a statement. -/
def reservedColumns : List String := ["self", "fn"]

def checkWritten (values : Row) : Except Failure Unit :=
  if values.any fun p => p.1 ∈ reservedColumns then .error .wrongKind else .ok ()

def checkPacked (t : StoredTable) (values : Row) : Except Failure Unit :=
  if (t.inOrder values).any fun p => p.1.kind = .packedJson then .error (.database .operation) else .ok ()

/-- The key column whose value an insert tells without being asked: a single integer column, with no
default and no foreign key. -/
def toldKey? (t : StoredTable) : Option String :=
  match t.keyColumns with
  | [c] =>
    if c.kind = .integer && c.default.isNone && !t.foreignKeys.any (fun f => f.column = c.name) then some c.name
    else none
  | _ => none

/-- The number that an insert tells: that of the new row, or the count of rows if they have none. -/
def toldNumber (t : StoredTable) (row : Cells) : Int := (t.rowNumber? row).getD t.rows.length

/-- The key of a new row as far as it is known without reading it. -/
def newKey (t : StoredTable) (values : Row) (row : Cells) : Row :=
  t.keyColumns.map fun c =>
    (c.name, (values.get? c.name).getD (if t.toldKey? = some c.name then .int (t.toldNumber row) else .null))

/-- Looks a new row up, by its key if all of it is known, otherwise by what was written. -/
def lookUp (t : StoredTable) (name : String) (values : Row) (row : Cells) : Except Failure (Option Row) := do
  let key := t.newKey values row
  let usable := !key.isEmpty && key.all fun p => !p.2.isNull
  let bs ← t.bindTests (equalities (t.shape name) (if usable then key else values))
  t.firstOf bs

def insert (t : StoredTable) (returning : Bool) (name : String) (values : Row) :
    Except Failure (Option Row × StoredTable) := do
  let values ← t.known name values
  checkWritten values
  let prepared ← t.prepareRow values
  t.checkPacked values
  let cells ← acceptRow prepared
  match t.insert? cells with
  | none => .error (.database .constraint)
  | some (row, t) =>
    let found ← if returning then (t.readRow (t.echoRow row)).map some else t.lookUp name values row
    return (found, t)

/-- Every run of marks that no parameter's name can hold becomes one underscore. -/
def joinMarks : List Char → List Char
  | [] => []
  | c :: r =>
    let isMark (c : Char) : Bool := c ∈ ['%', '(', ')', ' ', '$']
    if !isMark c then c :: joinMarks r
    else if r.head?.any isMark then joinMarks r
    else '_' :: joinMarks r

def stripUnderscores (s : List Char) : List Char :=
  ((s.dropWhile (· = '_')).reverse.dropWhile (· = '_')).reverse

/-- What the names of the parameters compared with a column start with. -/
def parameterBase (column : String) : String := String.ofList (stripUnderscores (joinMarks column.toList))

/-- The names of the parameters of tests; those with one base are numbered. -/
def parameterNames (bases : List String) : List String → List String
  | [] => []
  | b :: r => (b ++ "_" ++ toString (bases.count b + 1)) :: parameterNames (bases ++ [b]) r

/-- Whether a test compares with a parameter: nulls and booleans stand in the statement itself. -/
def hasParameter (c : Comparison) : Bool :=
  match c.value with
  | .scalar .null => false
  | .scalar (.bool _) => false
  | _ => true

/-- A parameter of a test may not have the name of a written column. -/
def checkNames (tests : List Comparison) (values : Row) : Except Failure Unit :=
  let names := parameterNames [] ((tests.filter hasParameter).map fun c => parameterBase c.column.name)
  if values.any fun p => p.1 ∈ names then .error (.database .nameClash) else .ok ()

def update (t : StoredTable) (name : String) (keys values : Row) : Except Failure (Option Row × StoredTable) := do
  let keys ← t.known name keys
  let values ← t.known name values
  let tests := equalities (t.shape name) keys
  checkWritten values
  checkNames tests values
  let prepared ← t.prepareRow values
  let _ ← tests.mapM prepareTest
  t.checkPacked values
  let cells ← acceptRow prepared
  let bs ← t.bindTests tests
  if cells.isEmpty then return (← t.firstOf bs, t)
  match t.update? (t.meetsAll bs) cells with
  | none => .error (.database .constraint)
  | some t => return (← t.firstOf bs, t)

end StoredTable

namespace Database

def tableNamed (db : Database) (known : List String) (table : Option String) : Except Failure (String × StoredTable) :=
  match table with
  | none => .error (.request (.unknownTable none))
  | some name => match (if name ∈ known then db.table? name else none) with
    | some t => .ok (name, t)
    | none => .error (.request (.unknownTable (some name)))

def write (db : Database) (known : List String) (table : Option String)
    (f : String → StoredTable → Except Failure (Option Row × StoredTable)) : Except Failure (Option Row) × Database :=
  match db.tableNamed known table with
  | .error e => (.error e, db)
  | .ok (name, t) => match f name t with
    | .error e => (.error e, db)
    | .ok (row, u) => (.ok row, db.replace u)

def answer (known : List String) (c : Call) (db : Database) : Except Failure c.Answer × Database :=
  match c with
  | .count table conditions => ((db.tableNamed known table).bind fun p => p.2.count p.1 conditions, db)
  | .select table args => ((db.tableNamed known table).bind fun p => p.2.select p.1 args, db)
  | .find table keys => ((db.tableNamed known table).bind fun p => p.2.find p.1 keys, db)
  | .insert table values => db.write known table fun name t => t.insert db.returning name values
  | .update table keys values => db.write known table fun name t => t.update name keys values

end Database

end TableGraph.Store
