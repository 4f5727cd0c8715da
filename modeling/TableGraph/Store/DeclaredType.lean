import TableGraph.Text.Alphanumeric
import TableGraph.Text.Blank
import TableGraph.Text.Case
import TableGraph.Store.Cell

/-! # Declared column types

A column is declared with a free text. Its affinity goes by the words that the text contains; what
statements take it for goes by its name if that is a known one, else again by the words. A type is
shown with its known name and its lengths. What else a declaration may say of a column, such as a
collation or an expression that generates it, is no part of the type and is not there.
-/
namespace TableGraph.Store
open TableGraph.Text

def containsText (word s : List Char) : Bool :=
  match s with
  | [] => word.isEmpty
  | c :: r => word.isPrefixOf (c :: r) || containsText word r

def upperAscii (s : String) : List Char := s.toList.map Char.toUpper

/-- Whether a text contains one of the words. -/
def mentions (s : List Char) (words : List String) : Bool := words.any fun w => containsText w.toList s

/-- A declaration without the spaces around it, ASCII letters in upper case. -/
def declaration (declared : String) : List Char :=
  (((upperAscii declared).dropWhile isSpace).reverse.dropWhile isSpace).reverse

def affinityOf (declared : String) : Affinity :=
  let s := declaration declared
  if mentions s ["INT"] then .integer
  else if mentions s ["CHAR", "CLOB", "TEXT"] then .text
  else if s.isEmpty || mentions s ["BLOB"] then .blob
  else if mentions s ["REAL", "FLOA", "DOUB"] then .real
  else .numeric

/-- Names of types that are known as such; the second one is shown. -/
def knownTypes : List (String × String) :=
  ["BIGINT", "BLOB", "BOOLEAN", "CHAR", "DATE", "DATETIME", "DECIMAL", "DOUBLE", "FLOAT", "INTEGER", "JSON", "JSONB",
    "NCHAR", "NUMERIC", "NVARCHAR", "REAL", "SMALLINT", "TEXT", "TIME", "TIMESTAMP", "VARCHAR"].map (fun n => (n, n)) ++
    [("BOOL", "BOOLEAN"), ("INT", "INTEGER"), ("DATE_CHAR", "DATE"), ("DATETIME_CHAR", "DATETIME"),
      ("TIME_CHAR", "TIME")]

def integerNames : List String := ["BIGINT", "INTEGER", "SMALLINT"]

def textNames : List String := ["CHAR", "NCHAR", "NVARCHAR", "TEXT", "VARCHAR"]

def decimalNames : List String := ["DECIMAL", "NUMERIC"]

def floatingNames : List String := ["DOUBLE", "FLOAT", "REAL"]

/-- A declared type as it is recognised: the shown name, none if nothing is known of it, and the
numbers in the parentheses after the declared name. -/
structure DeclaredType where
  name : Option String
  sizes : List Nat
  deriving DecidableEq

namespace DeclaredType

def closeRun (run : List Nat) : List Nat := if run.isEmpty then [] else [natOfDigits run.reverse]

/-- The runs of digits in a text, as numbers; `run` is the run being read, in reverse. -/
def numbersFrom (run : List Nat) : List Char → List Nat
  | [] => closeRun run
  | c :: r => match digit? c with
    | some d => numbersFrom (d :: run) r
    | none => closeRun run ++ numbersFrom [] r

def isNamePart (c : Char) : Bool := isWordPart c || c = ' '

def recognise (word : List Char) : Option String :=
  match knownTypes.lookup (String.ofList word) with
  | some shown => some shown
  | none =>
    if mentions word ["INT"] then some "INTEGER"
    else if mentions word ["CHAR", "CLOB", "TEXT"] then some "TEXT"
    else if word.isEmpty || mentions word ["BLOB"] then none
    else if mentions word ["REAL", "FLOA", "DOUB"] then some "REAL"
    else some "NUMERIC"

/-- How many numbers a type takes; with more it is read as if it had none. -/
def capacity : Option String → Nat
  | none => 0
  | some name =>
    if name ∈ integerNames then 0
    else if name ∈ decimalNames then 4
    else if name ∈ floatingNames then 3
    else if name ∈ textNames || name = "BOOLEAN" then 2
    else 1

/-- What follows an opening parenthesis up to the closing one on the same line. -/
def parenthesised : List Char → List Char
  | '(' :: r =>
    let line := r.takeWhile (· ≠ '\n')
    if ')' ∈ line then line.takeWhile (· ≠ ')') else []
  | _ => []

def ofText (declared : String) : DeclaredType :=
  let s := (declaration declared).flatMap upperForm
  let name := recognise (s.takeWhile isNamePart)
  let sizes := numbersFrom [] (parenthesised (s.dropWhile isNamePart))
  ⟨name, if sizes.length ≤ capacity name then sizes else []⟩

def shownLength (n : Nat) : String := if n = 0 then "" else "(" ++ toString n ++ ")"

/-- Texts show their length, unless a second number stands for a collation that cannot be shown;
decimals show their precision and scale. -/
def shownSizes (name : String) (sizes : List Nat) : String :=
  if name ∈ textNames then match sizes with
    | [] => ""
    | n :: collation => if collation.headD 0 = 0 then shownLength n else ""
  else if name ∈ decimalNames then match sizes with
    | [] => ""
    | [n] => "(" ++ toString n ++ ")"
    | n :: m :: _ => "(" ++ toString n ++ ", " ++ toString m ++ ")"
  else ""

def render (t : DeclaredType) : String :=
  match t.name with
  | none => "NullType"
  | some name => name ++ shownSizes name t.sizes

/-- The places of decimals of which none are declared. -/
def defaultPlaces : Nat := 10

/-- A floating type is read as decimals if its second number says so; the third is their places. -/
def floatingKind : List Nat → ColumnKind
  | _ :: decimal :: rest => if decimal = 0 then .floating else .numeric (rest.headD defaultPlaces)
  | _ => .floating

/-- Decimals have the places of their scale, or of the third number; the fourth can make them
doubles. -/
def decimalKind : List Nat → ColumnKind
  | [_, places] => .numeric places
  | [_, _, places] => .numeric places
  | [_, _, places, decimal] => if decimal = 0 then .floating else .numeric places
  | _ => .numeric defaultPlaces

def kind (t : DeclaredType) : ColumnKind :=
  match t.name with
  | none => .plain
  | some name =>
    if name ∈ integerNames then .integer
    else if name ∈ floatingNames then floatingKind t.sizes
    else if name ∈ decimalNames then decimalKind t.sizes
    else match name with
      | "BOOLEAN" => .boolean
      | "DATETIME" => if t.sizes.isEmpty then .datetime false else .formless true
      | "TIMESTAMP" => .datetime (t.sizes.headD 0 ≠ 0)
      | "DATE" => if t.sizes.isEmpty then .date else .formless false
      | "TIME" => .time
      | "BLOB" => .binary
      | "JSON" => .json (t.sizes.headD 0 = 0)
      | "JSONB" => .packedJson
      | _ => .plain

end DeclaredType

end TableGraph.Store
