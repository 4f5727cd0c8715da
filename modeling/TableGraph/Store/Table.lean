import TableGraph.Schema
import TableGraph.Store.Binding

/-! # Tables of a store

A table has columns with declared types, unique sets of columns, foreign keys that are not enforced,
and rows with one cell for each column. A single key column declared as INTEGER is the row number:
it is filled in if it is null, holds integers only, and rows stand in its order; in other tables
rows stand in the order in which they came. The key and the unique sets forbid two rows with the
same cells, null aside.

That is all that a table has. There are no triggers and no generated columns, so a row changes by
what a statement writes only. A key has no direction of its own, so a single key column declared as
INTEGER is the row number wherever it is declared, and one declared as INT never is.
-/
namespace TableGraph.Store

structure StoredColumn where
  name : String
  declared : String
  primary : Bool := false
  nullable : Bool := true
  default : Option Cell := none
  deriving DecidableEq

namespace StoredColumn

def type (c : StoredColumn) : DeclaredType := .ofText c.declared

def kind (c : StoredColumn) : ColumnKind := c.type.kind

def affinity (c : StoredColumn) : Affinity := affinityOf c.declared

def column (c : StoredColumn) : Column := ⟨c.name, c.kind⟩

/-- What an insert hands back for a cell: doubles of no more than 48 bits that are integers are kept
as such, and here it shows. -/
def echo (c : StoredColumn) (cell : Cell) : Cell :=
  match c.affinity, cell with
  | .real, .real x => match x.toInt? with
    | some n => if -0x800000000000 ≤ n ∧ n < 0x800000000000 then .int n else .real x
    | none => .real x
  | _, cell => cell

end StoredColumn

abbrev Cells := List Cell

structure StoredTable where
  name : String
  columns : List StoredColumn
  unique : List (List String) := []
  foreignKeys : List ForeignKey := []
  rows : List Cells := []
  deriving DecidableEq

namespace StoredTable

def keyColumns (t : StoredTable) : List StoredColumn := t.columns.filter (·.primary)

/-- The name of the column that is the row number. -/
def numberColumn? (t : StoredTable) : Option String :=
  match t.keyColumns with
  | [c] => if declaration c.declared = "INTEGER".toList then some c.name else none
  | _ => none

def cellAt (t : StoredTable) (row : Cells) (column : String) : Cell :=
  ((t.columns.zip row).find? fun p => p.1.name = column).elim .null Prod.snd

def rowNumber? (t : StoredTable) (row : Cells) : Option Int :=
  match t.numberColumn? with
  | none => none
  | some column => match t.cellAt row column with
    | .int n => some n
    | _ => none

/-- The least number from one on that no row has, where there is one. -/
def freeNumber (t : StoredTable) : Int :=
  let taken := t.rows.filterMap t.rowNumber?
  let free (n : Int) : Bool := n ≤ maxInt && !taken.contains n
  (((List.range taken.length).map fun n : Nat => (n : Int) + 1).find? free).getD maxInt

/-- The number of a new row is one more than the last. After the largest integer of 64 bits it is one
that is free; the store may then choose any. -/
def nextNumber (t : StoredTable) : Int :=
  match t.rows.filterMap t.rowNumber? with
  | [] => 1
  | n :: r =>
    let last := r.foldl max n
    if last < maxInt then last + 1 else t.freeNumber

def place (t : StoredTable) (row : Cells) : List Cells → List Cells
  | [] => [row]
  | first :: rest =>
    match t.rowNumber? row, t.rowNumber? first with
    | some n, some m => if n < m then row :: first :: rest else first :: t.place row rest
    | _, _ => first :: t.place row rest

/-- The sets of columns in which no two rows agree. -/
def uniqueSets (t : StoredTable) : List (List String) :=
  (if t.keyColumns.isEmpty then [] else [t.keyColumns.map (·.name)]) ++ t.unique

def agree (t : StoredTable) (a b : Cells) (columns : List String) : Bool :=
  columns.all fun c => !(t.cellAt a c).isNull && (t.cellAt a c).same (t.cellAt b c)

def conflict (t : StoredTable) (a b : Cells) : Bool := t.uniqueSets.any (t.agree a b)

def hasConflict (t : StoredTable) : List Cells → Bool
  | [] => false
  | row :: rest => rest.any (t.conflict row) || t.hasConflict rest

def complete (t : StoredTable) (row : Cells) : Bool :=
  (t.columns.zip row).all fun p =>
    if t.numberColumn? = some p.1.name then (match p.2 with | .int _ => true | _ => false)
    else p.1.nullable || !p.2.isNull

/-- The row with the given cells, the defaults for the columns not given, and its number. -/
def fill (t : StoredTable) (given : Assoc String Cell) : Cells :=
  t.columns.map fun c =>
    let cell := ((given.get? c.name).getD (c.default.getD .null)).stored c.affinity
    if t.numberColumn? = some c.name then
      match given.get? c.name with
      | none => .int t.nextNumber
      | some _ => if cell.isNull then .int t.nextNumber else cell
    else cell

def insert? (t : StoredTable) (given : Assoc String Cell) : Option (Cells × StoredTable) :=
  let row := t.fill given
  if t.complete row && !t.rows.any (t.conflict row) then some (row, { t with rows := t.place row t.rows })
  else none

def overwrite (t : StoredTable) (given : Assoc String Cell) (row : Cells) : Cells :=
  (t.columns.zip row).map fun p => match given.get? p.1.name with
    | some cell => cell.stored p.1.affinity
    | none => p.2

def update? (t : StoredTable) (chosen : Cells → Bool) (given : Assoc String Cell) : Option StoredTable :=
  let changed := t.rows.map fun row => if chosen row then t.overwrite given row else row
  if changed.all t.complete && !t.hasConflict changed then
    some { t with rows := changed.foldl (fun rows row => t.place row rows) [] }
  else none

def readRow (t : StoredTable) (row : Cells) : Except Failure Row :=
  (t.columns.zip row).mapM fun p => (readCell p.1.kind p.2).map fun v => (p.1.name, v)

def readRows (t : StoredTable) (rows : List Cells) : Except Failure (List Row) := rows.mapM t.readRow

def echoRow (t : StoredTable) (row : Cells) : Cells := (t.columns.zip row).map fun p => p.1.echo p.2

end StoredTable

/-- The text up to a quote, of which two stand for one. -/
def unquote (quote : Char) : List Char → List Char
  | c :: d :: r =>
    if c = quote then (if d = quote then quote :: unquote quote r else []) else c :: unquote quote (d :: r)
  | [c] => if c = quote then [] else [c]
  | [] => []

def readHex : List Char → List UInt8
  | a :: b :: r => match Json.hexDigit? a, Json.hexDigit? b with
    | some m, some n => UInt8.ofNat (16 * m + n) :: readHex r
    | _, _ => []
  | _ => []

/-- An integer written in hexadecimal; its 64 bits are read with a sign. -/
def hexNumber? : List Char → Option Int
  | '0' :: x :: r =>
    if (x = 'x' ∨ x = 'X') ∧ r ≠ [] then
      (r.mapM Json.hexDigit?).map fun ds => ((ds.foldl (fun n d => 16 * n + d) 0 : Nat) : Int).bmod 0x10000000000000000
    else none
  | _ => none

def unsignedLiteral? (negative : Bool) (s : List Char) : Option Cell :=
  match hexNumber? s with
  | some n => some (.int (if negative then -n else n))
  | none => unsignedNumber? negative s

/-- A word stands for a truth value, for null or for itself. -/
def wordLiteral (s : List Char) : Cell :=
  match String.ofList (Text.lowerAscii s) with
  | "true" => .int 1
  | "false" => .int 0
  | "null" => .null
  | _ => .text (String.ofList s)

def insideParentheses (s : List Char) : Option (List Char) :=
  match s with
  | '(' :: r => if r.getLast? = some ')' then some r.dropLast else none
  | _ => none

/-- The cell that a literal writes: a quoted text, bytes, a number or a word, in any number of
parentheses. -/
def readLiteralFrom : (fuel : Nat) → List Char → Cell
  | 0, _ => .null
  | fuel + 1, cs => match Text.trim cs with
    | '\'' :: r => .text (String.ofList (unquote '\'' r))
    | '"' :: r => .text (String.ofList (unquote '"' r))
    | '-' :: r => (unsignedLiteral? true (Text.trim r)).getD .null
    | '+' :: r => (unsignedLiteral? false (Text.trim r)).getD .null
    | s => match insideParentheses s, s with
      | some inner, _ => readLiteralFrom fuel inner
      | none, 'x' :: '\'' :: r => .blob (readHex (unquote '\'' r))
      | none, 'X' :: '\'' :: r => .blob (readHex (unquote '\'' r))
      | none, s => (unsignedLiteral? false s).getD (wordLiteral s)

def readLiteral (s : String) : Cell := readLiteralFrom (s.length + 1) s.toList

end TableGraph.Store
