/-! # Binary floating point numbers

A double is held as its 64 bits and read as an exact number: the magnitude of a finite one is a
whole number of units of the smallest positive double, 2⁻¹⁰⁷⁴. `nearest` rounds a quotient to the
nearest double, a tie going to the even neighbour and what is too large to infinity. Comparison is
by exact value.
-/
namespace TableGraph

structure Binary64 where
  bits : UInt64
  deriving DecidableEq

namespace Binary64

inductive Reading where
  | nan
  | infinite (negative : Bool)
  | finite (negative : Bool) (units : Nat)
  deriving DecidableEq

def unitsPerOne : Nat := Nat.pow 2 1074

def read (x : Binary64) : Reading :=
  let n := x.bits.toNat
  let negative := decide (Nat.pow 2 63 ≤ n)
  let biased := n / Nat.pow 2 52 % Nat.pow 2 11
  let fraction := n % Nat.pow 2 52
  if biased = 2047 then (if fraction = 0 then .infinite negative else .nan)
  else if biased = 0 then .finite negative fraction
  else .finite negative ((Nat.pow 2 52 + fraction) * Nat.pow 2 (biased - 1))

/-- The whole number nearest to a quotient, the even one of two. -/
def roundEven (num den : Nat) : Nat :=
  let q := num / den
  let r := num % den
  if 2 * r < den then q else if den < 2 * r then q + 1 else q + q % 2

def signed (negative : Bool) (magnitude : Nat) : Binary64 :=
  ⟨UInt64.ofNat ((if negative then Nat.pow 2 63 else 0) + magnitude)⟩

def nan : Binary64 := ⟨0x7ff8000000000000⟩

def infinity (negative : Bool) : Binary64 := signed negative (2047 * Nat.pow 2 52)

def zero (negative : Bool) : Binary64 := signed negative 0

/-- The units counted by `significand * 2 ^ shift`, for a significand of at most 53 bits that has
all of them unless the shift is zero. -/
def ofSignificand (negative : Bool) (significand shift : Nat) : Binary64 :=
  let magnitude := shift * Nat.pow 2 52 + significand
  if 2047 * Nat.pow 2 52 ≤ magnitude then infinity negative else signed negative magnitude

/-- The double nearest to a quotient with a positive denominator. -/
def nearest (negative : Bool) (num den : Nat) : Binary64 :=
  let units := num * unitsPerOne
  let shift := (units / den).log2 + 1 - 53
  ofSignificand negative (roundEven units (den * Nat.pow 2 shift)) shift

def isFinite (x : Binary64) : Bool :=
  match x.read with
  | .finite .. => true
  | _ => false

def isNaN (x : Binary64) : Bool := x.read = .nan

def isZero (x : Binary64) : Bool :=
  match x.read with
  | .finite _ units => units = 0
  | _ => false

/-- The double nearest to an integer; none if that is infinite. -/
def ofInt? (n : Int) : Option Binary64 :=
  let x := nearest (n < 0) n.natAbs 1
  if x.isFinite then some x else none

/-- The integer that a double is exactly. -/
def toInt? (x : Binary64) : Option Int :=
  match x.read with
  | .finite negative units =>
    if units % unitsPerOne = 0 then
      some (if negative then -((units / unitsPerOne : Nat) : Int) else (units / unitsPerOne : Nat))
    else none
  | _ => none

/-- A place on the line of exact values, in units; the infinities lie beyond all integers. -/
inductive Place where
  | below
  | at (units : Int)
  | above
  deriving DecidableEq

def Place.lt : Place → Place → Bool
  | .below, .below => false
  | .below, _ => true
  | .at m, .at n => m < n
  | .at _, .above => true
  | _, _ => false

def place (x : Binary64) : Place :=
  match x.read with
  | .nan => .below
  | .infinite true => .below
  | .infinite false => .above
  | .finite true units => .at (-(units : Int))
  | .finite false units => .at units

def placeOfInt (n : Int) : Place := .at (n * unitsPerOne)

end Binary64

end TableGraph
