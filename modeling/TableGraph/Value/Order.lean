import TableGraph.Value

/-! # Sameness and order of values

Two values are the same if they are equal as numbers, booleans counting as zero and one, or as
texts, or member by member; the entries of a map have no order. Only numbers among themselves and
texts among themselves are ordered, and lists and maps cannot be members of a set.
-/
namespace TableGraph

namespace Scalar

/-- Where a number stands on the line of exact values. -/
def place? : Scalar → Option Binary64.Place
  | bool b => some (Binary64.placeOfInt (if b then 1 else 0))
  | int n => some (Binary64.placeOfInt n)
  | float x => if x.isNaN then none else some x.place
  | _ => none

def same (a b : Scalar) : Bool :=
  match a.place?, b.place? with
  | some p, some q => p = q
  | none, none => a = b
  | _, _ => false

/-- The order of two scalars, if they have one. -/
def before? (a b : Scalar) : Option Bool :=
  match a, b with
  | text s, text t => some (s < t)
  | a, b => match a.place?, b.place? with
    | some p, some q => some (p.lt q)
    | _, _ => none

end Scalar

namespace Value

mutual

def same : Value → Value → Bool
  | scalar a, scalar b => a.same b
  | list a, list b => sameItems a b
  | map a, map b => a.length = b.length && sameEntries a b
  | map a, record b _ => a.length = b.length && sameEntries a b
  | record a _, map b => a.length = b.length && sameEntries a b
  | record a _, record b _ => a.length = b.length && sameEntries a b
  | _, _ => false

def sameItems : List Value → List Value → Bool
  | [], [] => true
  | a :: r, b :: s => same a b && sameItems r s
  | _, _ => false

/-- Whether every entry has its like in the other map. -/
def sameEntries : List (String × Value) → List (String × Value) → Bool
  | [], _ => true
  | (k, a) :: r, m => (match Assoc.get? m k with
    | some b => same a b
    | none => false) && sameEntries r m

end

def isScalar : Value → Bool
  | scalar _ => true
  | _ => false

def before? : Value → Value → Option Bool
  | scalar a, scalar b => a.before? b
  | _, _ => none

end Value

end TableGraph
