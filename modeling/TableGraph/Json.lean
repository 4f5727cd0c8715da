import TableGraph.Number.Numeral
import TableGraph.Value

/-! # JSON text

`Json.read?` reads the text of one value: maps keep their entries in order, a repeated key keeps its
first place and its last value, numbers without a fraction or an exponent are integers, and the
words for infinity and for no number are numbers too. `Json.write?` writes a value in ASCII on one
line; values that the format has no form for are not written.
-/
namespace TableGraph.Json
open TableGraph.Text

def isSpace (c : Char) : Bool := c = ' ' || c = '\t' || c = '\n' || c = '\r'

def skip (s : List Char) : List Char := s.dropWhile isSpace

def hexDigit? (c : Char) : Option Nat :=
  if c.isDigit then some (c.toNat - 0x30)
  else if 'a' ≤ c ∧ c ≤ 'f' then some (c.toNat - 0x57)
  else if 'A' ≤ c ∧ c ≤ 'F' then some (c.toNat - 0x37)
  else none

def unit? : List Char → Option (Nat × List Char)
  | a :: b :: c :: d :: r => do
    let digits ← [a, b, c, d].mapM hexDigit?
    return (digits.foldl (fun n d => 16 * n + d) 0, r)
  | _ => none

def isHigh (n : Nat) : Bool := 0xd800 ≤ n && n < 0xdc00

def isLow (n : Nat) : Bool := 0xdc00 ≤ n && n < 0xe000

/-- Half of a pair on its own stands for no character. -/
def charOf (n : Nat) : Char := if isHigh n || isLow n then Char.ofNat 0xfffd else Char.ofNat n

/-- The low half of a pair, written as an escape. -/
def lowHalf? : List Char → Option (Nat × List Char)
  | '\\' :: 'u' :: r => (unit? r).filter fun p => isLow p.1
  | _ => none

/-- The character that follows `\u`; two halves of a pair are one character. -/
def escape? (s : List Char) : Option (Char × List Char) := do
  let (n, r) ← unit? s
  match (if isHigh n then lowHalf? r else none) with
  | some (m, t) => return (Char.ofNat (0x10000 + (n - 0xd800) * 0x400 + (m - 0xdc00)), t)
  | none => return (charOf n, r)

def shortEscapes : List (Char × Char) :=
  [('"', '"'), ('\\', '\\'), ('/', '/'), ('b', '\x08'), ('f', '\x0c'), ('n', '\n'), ('r', '\r'), ('t', '\t')]

/-- The rest of a text up to its closing quote; `held` is what was read of it, in reverse. -/
def takeText? : (fuel : Nat) → (held : List Char) → List Char → Option (String × List Char)
  | 0, _, _ => none
  | fuel + 1, held, s => match s with
    | [] => none
    | '"' :: r => some (String.ofList held.reverse, r)
    | '\\' :: 'u' :: r => match escape? r with
      | some (c, t) => takeText? fuel (c :: held) t
      | none => none
    | '\\' :: c :: r => match shortEscapes.lookup c with
      | some d => takeText? fuel (d :: held) r
      | none => none
    | c :: r => if c.toNat < 0x20 then none else takeText? fuel (c :: held) r

def takeDigits? (s : List Char) : Option (List Char × List Char) :=
  let digits := s.takeWhile Char.isDigit
  if digits.isEmpty then none else some (digits, s.dropWhile Char.isDigit)

def takeFraction : List Char → List Char × List Char
  | '.' :: r => match takeDigits? r with
    | some (digits, t) => ('.' :: digits, t)
    | none => ([], '.' :: r)
  | s => ([], s)

def takeSign : List Char → List Char × List Char
  | '-' :: r => (['-'], r)
  | '+' :: r => (['+'], r)
  | s => ([], s)

def takeExponent : List Char → List Char × List Char
  | c :: r =>
    if c = 'e' ∨ c = 'E' then
      let (sign, t) := takeSign r
      match takeDigits? t with
      | some (digits, t) => ('e' :: sign ++ digits, t)
      | none => ([], c :: r)
    else ([], c :: r)
  | [] => ([], [])

/-- The digits of a whole number: a zero stands alone. -/
def takeWhole? : List Char → Option (List Char × List Char)
  | '0' :: r => some (['0'], r)
  | s => takeDigits? s

def takeNumber? (negative : Bool) (s : List Char) : Option (Value × List Char) := do
  let (whole, r) ← takeWhole? s
  let (fraction, r) := takeFraction r
  let (exponent, r) := takeExponent r
  if fraction.isEmpty && exponent.isEmpty then
    let n ← asciiNat? whole
    return (.int (if negative then -(n : Int) else n), r)
  else
    let x ← Number.readNumeral? (whole ++ fraction ++ exponent)
    return (.scalar (.float (x.toBinary64 negative)), r)

def wordValues : List (String × Value) :=
  [("null", .null), ("true", .bool true), ("false", .bool false), ("NaN", .scalar (.float .nan)),
    ("Infinity", .scalar (.float (.infinity false))), ("-Infinity", .scalar (.float (.infinity true)))]

def takeWord? (s : List Char) : Option (Value × List Char) :=
  (wordValues.find? fun p => p.1.toList.isPrefixOf s).map fun p => (p.2, s.drop p.1.length)

def takeAtom? (s : List Char) : Option (Value × List Char) :=
  takeWord? s <|> match s with
    | '-' :: r => takeNumber? true r
    | r => takeNumber? false r

mutual

def takeValue? : (fuel : Nat) → List Char → Option (Value × List Char)
  | 0, _ => none
  | fuel + 1, s => match s with
    | '"' :: r => (takeText? (r.length + 1) [] r).map fun p => (.text p.1, p.2)
    | '[' :: r => match skip r with
      | ']' :: t => some (.list [], t)
      | t => takeItems? fuel [] t
    | '\x7b' :: r => match skip r with
      | '\x7d' :: t => some (.map [], t)
      | t => takeEntries? fuel [] t
    | s => takeAtom? s

/-- The items of a list up to its closing bracket; `held` are those read, in reverse. -/
def takeItems? : (fuel : Nat) → (held : List Value) → List Char → Option (Value × List Char)
  | 0, _, _ => none
  | fuel + 1, held, s => match takeValue? fuel s with
    | none => none
    | some (v, r) => match skip r with
      | ',' :: t => takeItems? fuel (v :: held) (skip t)
      | ']' :: t => some (.list (v :: held).reverse, t)
      | _ => none

/-- The entries of a map up to its closing brace; `held` are those read. -/
def takeEntries? : (fuel : Nat) → (held : List (String × Value)) → List Char → Option (Value × List Char)
  | 0, _, _ => none
  | fuel + 1, held, s => match s with
    | '"' :: r => match takeText? (r.length + 1) [] r with
      | none => none
      | some (key, r) => match skip r with
        | ':' :: r => match takeValue? fuel (skip r) with
          | none => none
          | some (v, r) => match skip r with
            | ',' :: t => takeEntries? fuel ((key, v) :: held) (skip t)
            | '\x7d' :: t => some (.map (Assoc.ofList ((key, v) :: held).reverse), t)
            | _ => none
        | _ => none
    | _ => none

end

/-- The value that a text as a whole writes. Every step but the one into a list or a map takes a
character, and those come after one that does. -/
def read? (s : List Char) : Option Value :=
  match takeValue? (2 * s.length + 2) (skip s) with
  | some (v, r) => if (skip r).isEmpty then some v else none
  | none => none

def unitEscape (n : Nat) : List Char :=
  '\\' :: 'u' :: (List.range 4).reverse.map fun i => Nat.digitChar (n / Nat.pow 16 i % 16)

def writtenChar (c : Char) : List Char :=
  match (shortEscapes.find? fun p => p.2 = c && c ≠ '/').map Prod.fst with
  | some e => ['\\', e]
  | none =>
    if 0x20 ≤ c.toNat ∧ c.toNat < 0x7f then [c]
    else if c.toNat < 0x10000 then unitEscape c.toNat
    else
      let n := c.toNat - 0x10000
      unitEscape (0xd800 + n / 0x400) ++ unitEscape (0xdc00 + n % 0x400)

def writtenText (s : String) : String := String.ofList ('"' :: s.toList.flatMap writtenChar ++ ['"'])

def writtenFloat (x : Binary64) : String :=
  match x.read with
  | .nan => "NaN"
  | .infinite negative => (if negative then "-" else "") ++ "Infinity"
  | .finite .. => Number.messageText x

def writeScalar? : Scalar → Option String
  | .null => some "null"
  | .bool b => some (if b then "true" else "false")
  | .int n => some (toString n)
  | .float x => some (writtenFloat x)
  | .text s => some (writtenText s)
  | _ => none

mutual

def write? : Value → Option String
  | .scalar s => writeScalar? s
  | .list items => (writeItems? items).map fun l => "[" ++ ", ".intercalate l ++ "]"
  | .map entries => (writeEntries? entries).map fun l => "\x7b" ++ ", ".intercalate l ++ "\x7d"
  | .record row _ => (writeEntries? row).map fun l => "\x7b" ++ ", ".intercalate l ++ "\x7d"
  | .object _ => none

def writeItems? : List Value → Option (List String)
  | [] => some []
  | v :: r => match write? v, writeItems? r with
    | some s, some l => some (s :: l)
    | _, _ => none

def writeEntries? : List (String × Value) → Option (List String)
  | [] => some []
  | (k, v) :: r => match write? v, writeEntries? r with
    | some s, some l => some ((writtenText k ++ ": " ++ s) :: l)
    | _, _ => none

end

end TableGraph.Json
