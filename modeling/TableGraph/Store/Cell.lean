import TableGraph.Number.Numeral
import TableGraph.Number.DecimalText
import TableGraph.Comparison

/-! # Cells of a store

A cell is null, a 64-bit integer, a double, a text or a string of bytes. A column's affinity turns
what is written into the class it prefers, and what it is compared with into a class that its cells
can have. Cells are ordered by class, numbers by exact value whether integer or not, text by code
point. No test but those for null holds of null, and no pattern is matched by bytes.

A text is one of Unicode characters. Neither a string of bytes that decodes to none, kept as a text,
nor half of a surrogate pair is a cell.
-/
namespace TableGraph.Store
open TableGraph.Text

inductive Cell where
  | null
  | int (n : Int)
  | real (x : Binary64)
  | text (s : String)
  | blob (b : List UInt8)
  deriving DecidableEq

inductive Affinity where
  | integer
  | real
  | numeric
  | text
  | blob
  deriving DecidableEq

def minInt : Int := -0x8000000000000000
def maxInt : Int := 0x7fffffffffffffff

def fits (n : Int) : Bool := minInt ≤ n && n ≤ maxInt

theorem fits_iff {n : Int} : fits n = true ↔ minInt ≤ n ∧ n ≤ maxInt := by simp [fits]

def isSpace (c : Char) : Bool := c = ' ' || ('\t' ≤ c && c ≤ '\r')

def unsignedNumber? (negative : Bool) (s : List Char) : Option Cell :=
  match asciiNat? s with
  | some n =>
    let k : Int := if negative then -(n : Int) else n
    some (if fits k then .int k else .real (.nearest negative n 1))
  | none => (Number.readNumeral? s).map fun x => .real (x.toBinary64 negative)

/-- The number that a text as a whole writes in ASCII, if any, blanks around it aside. -/
def number? (s : String) : Option Cell :=
  let cs := ((s.toList.dropWhile isSpace).reverse.dropWhile isSpace).reverse
  match cs with
  | '-' :: r => unsignedNumber? true r
  | '+' :: r => unsignedNumber? false r
  | r => unsignedNumber? false r

namespace Cell

def isNull (c : Cell) : Bool := c = .null

def ofInt (n : Int) : Binary64 := .nearest (n < 0) n.natAbs 1

/-- A double that is an integer with room to spare becomes that integer. -/
def narrowed (x : Binary64) : Cell :=
  match x.toInt? with
  | some n => if minInt < n ∧ n < maxInt then .int n else .real x
  | none => .real x

/-- The text in which a pattern is looked for. -/
def toText? : Cell → Option String
  | null => none
  | int n => some (toString n)
  | real x => some (Number.storedText x)
  | text s => some s
  | blob _ => none

/-- The scalar that a cell is when no kind of column says otherwise. -/
def scalar : Cell → Scalar
  | null => .null
  | int n => .int n
  | real x => .float x
  | text s => .text s
  | blob b => .bytes b

def asNumber : Cell → Cell
  | text s => (number? s).getD (text s)
  | c => c

def asText : Cell → Cell
  | int n => .text (toString n)
  | real x => .text (Number.storedText x)
  | c => c

/-- A double; of zero only the positive one. -/
def asReal : Cell → Cell
  | int n => .real (ofInt n)
  | real x => .real (if x.isZero then .zero false else x)
  | c => c

def asInteger : Cell → Cell
  | real x => narrowed x
  | c => c

/-- The class in which a column keeps what is written to it. -/
def stored (a : Affinity) (c : Cell) : Cell :=
  match a with
  | .text => c.asText
  | .blob => c
  | .real => c.asNumber.asReal
  | .integer => c.asNumber.asInteger
  | .numeric => c.asNumber.asInteger

/-- What a column's cells are compared with. -/
def operand (a : Affinity) (c : Cell) : Cell :=
  match a with
  | .text => c.asText
  | .blob => c
  | _ => c.asNumber

def rank : Cell → Nat
  | null => 0
  | int _ => 1
  | real _ => 1
  | text _ => 2
  | blob _ => 3

def place : Cell → Binary64.Place
  | int n => Binary64.placeOfInt n
  | real x => x.place
  | _ => .below

def bytes : Cell → List UInt8
  | blob b => b
  | _ => []

def chars : Cell → List Char
  | text s => s.toList
  | _ => []

def lt (a b : Cell) : Bool :=
  if a.rank ≠ b.rank then a.rank < b.rank
  else match a.rank with
    | 1 => a.place.lt b.place
    | 2 => a.chars < b.chars
    | 3 => a.bytes < b.bytes
    | _ => false

def same (a b : Cell) : Bool := !a.lt b && !b.lt a

end Cell

/-- Whether a character stands for another one: an underscore for any, ASCII letters whatever their
case. -/
def standsFor (d c : Char) : Bool := d = '_' || d.toLower = c.toLower

/-- For every member, whether it or a later one is true. -/
def anyFrom : List Bool → List Bool
  | [] => []
  | b :: r =>
    let rest := anyFrom r
    (b || rest.headD false) :: rest

/-- For every position of a text, its end included, whether the pattern matches what follows. A
percent sign stands for any run of characters. -/
def matchesFrom (s : List Char) : List Char → List Bool
  | [] => s.map (fun _ => false) ++ [true]
  | d :: p =>
    let rest := matchesFrom s p
    if d = '%' then anyFrom rest
    else (s.zip (rest.drop 1)).map (fun q => standsFor d q.1 && q.2) ++ [false]

def matchesPattern (pattern s : List Char) : Bool := (matchesFrom s pattern).headD false

/-- A pattern and a text that is matched with one end before the first character of code zero. -/
def matchable (s : String) : List Char := s.toList.takeWhile fun c => c.toNat ≠ 0

def likes (c pattern : Cell) : Bool :=
  match c.toText?, pattern.toText? with
  | some s, some p => matchesPattern (matchable p) (matchable s)
  | _, _ => false

/-- The size in bytes up to which a pattern is matched at all. -/
def maxPatternSize : Nat := 50000

def isTooLong (pattern : Cell) : Bool := pattern.toText?.any fun p => maxPatternSize < p.utf8ByteSize

/-- Whether a test of a column's cell against a value holds. -/
def holds (a : Affinity) (test : Test) (c value : Cell) : Bool :=
  let v := value.operand a
  let known := !c.isNull && !v.isNull
  match test with
  | .isNull => c.isNull
  | .isNotNull => !c.isNull
  | .eq => known && c.same v
  | .ne => known && !c.same v
  | .lt => known && c.lt v
  | .le => known && !v.lt c
  | .gt => known && v.lt c
  | .ge => known && !c.lt v
  | .like => likes c value

end TableGraph.Store
