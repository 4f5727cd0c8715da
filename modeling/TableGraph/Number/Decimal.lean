import TableGraph.Number.Numeral
import TableGraph.Number.DecimalText

/-! # Decimals with a fixed number of places

A decimal is a signed coefficient and a number of places after the point. `ofBinary64` rounds a
double to the places of a column, ties going to the even neighbour. The text of a decimal keeps
all its places, and has an exponent only if the first digit stands behind the sixth place.
-/
namespace TableGraph

inductive Decimal where
  | finite (negative : Bool) (coefficient places : Nat)
  | infinite (negative : Bool)
  deriving DecidableEq

namespace Decimal
open TableGraph.Number TableGraph.Text

def ofBinary64 (places : Nat) (x : Binary64) : Decimal :=
  match x.read with
  | .nan => .infinite false
  | .infinite negative => .infinite negative
  | .finite negative units =>
    .finite negative (Binary64.roundEven (units * Nat.pow 10 places) Binary64.unitsPerOne) places

def toBinary64 : Decimal → Binary64
  | .infinite negative => .infinity negative
  | .finite negative coefficient places => Numeral.toBinary64 negative ⟨coefficient, -(places : Int)⟩

def toText : Decimal → String
  | .infinite negative => sign negative ++ "Infinity"
  | .finite negative coefficient places =>
    let text := Nat.repr coefficient
    let point : Int := (text.length : Int) - places
    if -6 < point then
      if places = 0 then sign negative ++ text
      else
        let full := padded (places + 1) coefficient
        let whole := full.length - places
        sign negative ++ String.ofList (full.toList.take whole) ++ "." ++ String.ofList (full.toList.drop whole)
    else
      let tail := if 1 < text.length then "." ++ String.ofList (text.toList.drop 1) else ""
      sign negative ++ String.ofList (text.toList.take 1) ++ tail ++ "E-" ++ toString (1 - point)

end Decimal

end TableGraph
