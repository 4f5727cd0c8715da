import TableGraph.Text.Digit

/-! # Reading integers

An integer is an optional sign and a run of decimal digits of any script, in which single
underscores may stand between two digits. Runs of more than 4300 digits are refused.
-/
namespace TableGraph.Number
open TableGraph.Text

/-- The digits of a run, most significant first. -/
def digitRun? : List Char → Option (List Nat)
  | [] => none
  | [c] => (digit? c).map fun d => [d]
  | c :: '_' :: r => match digit? c, digitRun? r with
    | some d, some ds => some (d :: ds)
    | _, _ => none
  | c :: r => match digit? c, digitRun? r with
    | some d, some ds => some (d :: ds)
    | _, _ => none

def maxDigits : Nat := 4300

def readNat? (s : List Char) : Option Nat :=
  match digitRun? s with
  | some ds => if ds.length ≤ maxDigits then some (natOfDigits ds) else none
  | none => none

def readInt? : List Char → Option Int
  | '-' :: r => (readNat? r).map fun n => -(n : Int)
  | '+' :: r => (readNat? r).map Int.ofNat
  | s => (readNat? s).map Int.ofNat

end TableGraph.Number
