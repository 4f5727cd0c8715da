import TableGraph.Text.Digit
import TableGraph.Number.Binary64

/-! # Decimal text of doubles

`shortest` finds the fewest significant digits that read back as the same double, and of those the
nearest. `significant` rounds to a given number of significant digits, a tie going away from zero.
A `Layout` says how digits are set out: where positional notation ends and whether a whole number
shows a point next to an exponent.
-/
namespace TableGraph.Number
open TableGraph.Text

/-- `0.d₁d₂… * 10 ^ point` for the decimal digits of `coefficient`. -/
structure Digits where
  coefficient : Nat
  point : Int
  deriving DecidableEq

def decimalLength (n : Nat) : Nat := (Nat.repr n).length

/-- The digits without trailing zeros; the value stays. -/
def Digits.trimmed (d : Digits) : Digits :=
  let cs := (Nat.repr d.coefficient).toList.reverse.dropWhile (· = '0')
  if cs.isEmpty then ⟨0, 1⟩ else ⟨natOfDigits (cs.reverse.map fun c => c.toNat - 0x30), d.point⟩

/-- The point of a positive quotient: the least `k` with the quotient below `10 ^ k`. -/
def pointOf (num den : Nat) : Int :=
  let guess : Int := (decimalLength num : Int) - decimalLength den
  if 0 ≤ guess then (if num < den * Nat.pow 10 guess.toNat then guess else guess + 1)
  else if num * Nat.pow 10 (-guess).toNat < den then guess else guess + 1

/-- A quotient as a quotient of steps of `10 ^ place`. -/
def inSteps (num den : Nat) (place : Int) : Nat × Nat :=
  if 0 ≤ place then (num, den * Nat.pow 10 place.toNat) else (num * Nat.pow 10 (-place).toNat, den)

/-- A coefficient of `count` digits; one that was rounded up to more moves the point. -/
def Digits.ofCoefficient (count coefficient : Nat) (point : Int) : Digits :=
  ⟨coefficient, if Nat.pow 10 count ≤ coefficient then point + 1 else point⟩

def significant (count num den : Nat) : Digits :=
  let point := pointOf num den
  let (n, d) := inSteps num den (point - count)
  .ofCoefficient count ((2 * n + d) / (2 * d)) point

/-- How far the interval that rounds to a double reaches below and above it, in quarters of a unit,
and whether its ends belong to it. -/
def halfGap (units : Nat) : Nat × Nat × Bool :=
  let shift := units.log2 + 1 - 53
  let significand := units / Nat.pow 2 shift
  let above := 2 * Nat.pow 2 shift
  let below := if significand = Nat.pow 2 52 ∧ 0 < shift then Nat.pow 2 shift else above
  (below, above, significand % 2 = 0)

def readsBack (units : Nat) (d : Digits) (count : Nat) : Bool :=
  let (below, above, closed) := halfGap units
  let place := d.point - count
  let (n, m) := if 0 ≤ place then (d.coefficient * Nat.pow 10 place.toNat * Binary64.unitsPerOne, 1)
    else (d.coefficient * Binary64.unitsPerOne, Nat.pow 10 (-place).toNat)
  let value := 4 * n
  let low := (4 * units - below) * m
  let high := (4 * units + above) * m
  if closed then low ≤ value && value ≤ high else low < value && value < high

/-- The fewest digits, from `count` on, of which the nearest decimal or its neighbour across the
double reads back; with no `more` digits to try, the nearest. -/
def shortestFrom (units : Nat) : Nat → Nat → Digits
  | more, count =>
    let point := pointOf units Binary64.unitsPerOne
    let (n, d) := inSteps units Binary64.unitsPerOne (point - count)
    let near := Binary64.roundEven n d
    let far := if near = n / d then near + 1 else near - 1
    if readsBack units ⟨near, point⟩ count then .ofCoefficient count near point
    else if readsBack units ⟨far, point⟩ count then .ofCoefficient count far point
    else match more with
      | 0 => .ofCoefficient count near point
      | more + 1 => shortestFrom units more (count + 1)

def shortest (units : Nat) : Digits :=
  if units = 0 then ⟨0, 1⟩ else (shortestFrom units 16 1).trimmed

structure Layout where
  maxPoint : Int
  pointWithExponent : Bool

/-- Digits set out in positional notation from 0.0001 up to the largest point, otherwise with one
digit before the point and an exponent of at least two digits. -/
def Layout.render (l : Layout) (d : Digits) : String :=
  let text := Nat.repr d.coefficient
  let count := text.length
  if -4 < d.point ∧ d.point ≤ l.maxPoint then
    if d.point ≤ 0 then "0." ++ "".pushn '0' (-d.point).toNat ++ text
    else if count ≤ d.point.toNat then text ++ "".pushn '0' (d.point.toNat - count) ++ ".0"
    else String.ofList (text.toList.take d.point.toNat) ++ "." ++
      String.ofList (text.toList.drop d.point.toNat)
  else
    let exponent := d.point - 1
    let tail := if 1 < count then "." ++ String.ofList (text.toList.drop 1)
      else if l.pointWithExponent then ".0" else ""
    String.ofList (text.toList.take 1) ++ tail ++ (if exponent < 0 then "e-" else "e+") ++
      padded 2 exponent.natAbs

def sign (negative : Bool) : String := if negative then "-" else ""

/-- How messages write a double: its shortest digits, positional below 10¹⁶. -/
def messageLayout : Layout := ⟨16, false⟩

def messageText (x : Binary64) : String :=
  match x.read with
  | .nan => "nan"
  | .infinite negative => sign negative ++ "inf"
  | .finite negative units => sign negative ++ messageLayout.render (shortest units)

/-- How a store turns a double into text: fifteen significant digits, positional below 10¹⁵. -/
def storedLayout : Layout := ⟨15, true⟩

def storedText (x : Binary64) : String :=
  match x.read with
  | .nan => ""
  | .infinite negative => sign negative ++ "Inf"
  | .finite negative units =>
    sign (negative && units ≠ 0) ++ storedLayout.render
      (if units = 0 then ⟨0, 1⟩ else (significant 15 units Binary64.unitsPerOne).trimmed)

end TableGraph.Number
