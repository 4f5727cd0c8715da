import TableGraph.Text.Digit
import TableGraph.Text.Blank
import TableGraph.Number.Binary64

/-! # Reading decimal numbers

A number is an optional sign and either decimal digits with an optional point and an optional
exponent, or one of the words for infinity and for no number, in any case. Digits may be of any
script, and single underscores may stand between two of them. The result is the double nearest to
the number written.
-/
namespace TableGraph.Number
open TableGraph.Text

def toAsciiDigit (c : Char) : Char :=
  match digit? c with
  | some d => Nat.digitChar d
  | none => c

/-- Drops underscores between two digits; an underscore elsewhere makes the text unreadable. -/
def joinDigits? (previous : Char) : List Char → Option (List Char)
  | [] => some []
  | c :: r =>
    if c = '_' then
      if previous.isDigit && r.head?.any Char.isDigit then joinDigits? c r else none
    else (joinDigits? c r).map (c :: ·)

/-- A decimal number: `coefficient * 10 ^ exponent`. -/
structure Numeral where
  coefficient : Nat
  exponent : Int
  deriving DecidableEq

def readSigned? : List Char → Option Int
  | '-' :: r => (asciiNat? r).map fun n => -(n : Int)
  | '+' :: r => (asciiNat? r).map Int.ofNat
  | s => (asciiNat? s).map Int.ofNat

/-- Digits with an optional point and an optional exponent. -/
def readNumeral? (s : List Char) : Option Numeral :=
  let whole := s.takeWhile Char.isDigit
  let rest := s.dropWhile Char.isDigit
  let (fraction, tail) := match rest with
    | '.' :: r => (r.takeWhile Char.isDigit, r.dropWhile Char.isDigit)
    | r => ([], r)
  match asciiNat? (whole ++ fraction) with
  | none => none
  | some n => match tail with
    | [] => some ⟨n, -(fraction.length : Int)⟩
    | c :: r => if c = 'e' ∨ c = 'E' then (readSigned? r).map fun e => ⟨n, e - fraction.length⟩ else none

/-- Numbers from 10³¹⁰ on round to infinity and those below 10⁻³³⁰ to zero, whatever their digits. -/
def Numeral.toBinary64 (negative : Bool) (x : Numeral) : Binary64 :=
  let size := x.exponent + (Nat.repr x.coefficient).length
  if x.coefficient = 0 then .zero negative
  else if 311 < size then .infinity negative
  else if size < -330 then .zero negative
  else if 0 ≤ x.exponent then .nearest negative (x.coefficient * Nat.pow 10 x.exponent.toNat) 1
  else .nearest negative x.coefficient (Nat.pow 10 (-x.exponent).toNat)

def readUnsigned? (negative : Bool) (s : List Char) : Option Binary64 :=
  let word := String.ofList (lowerAscii s)
  if word = "inf" ∨ word = "infinity" then some (.infinity negative)
  else if word = "nan" then some .nan
  else (readNumeral? s).map (Numeral.toBinary64 negative)

def readBinary64? (s : List Char) : Option Binary64 :=
  match joinDigits? ' ' (s.map toAsciiDigit) with
  | some ('-' :: r) => readUnsigned? true r
  | some ('+' :: r) => readUnsigned? false r
  | some r => readUnsigned? false r
  | none => none

end TableGraph.Number
