import TableGraph.Text.Unprintable

/-! # Quoted text

How messages quote a text: in single quotes, or in double quotes when it holds a single quote and
no double one. A backslash, the chosen quote, line feed, carriage return and tab have escapes of
two characters; other characters without a printed form are written by code point in hexadecimal,
with two, four or eight digits, the fewest that hold it. Bytes are quoted as the ASCII characters
with their numbers, after a letter that tells them from a text.
-/
namespace TableGraph.Text

def isPrintable (c : Char) : Bool := !unprintable.any fun r => r.1 ≤ c.toNat && c.toNat ≤ r.2

def hexDigits (width n : Nat) : List Char :=
  (List.range width).reverse.map fun i => Nat.digitChar (n / Nat.pow 16 i % 16)

def escaped (quote c : Char) : List Char :=
  if c = quote || c = '\\' then ['\\', c]
  else if c = '\n' then ['\\', 'n']
  else if c = '\r' then ['\\', 'r']
  else if c = '\t' then ['\\', 't']
  else if isPrintable c then [c]
  else if c.toNat < 0x100 then '\\' :: 'x' :: hexDigits 2 c.toNat
  else if c.toNat < 0x10000 then '\\' :: 'u' :: hexDigits 4 c.toNat
  else '\\' :: 'U' :: hexDigits 8 c.toNat

def quoteFor (s : List Char) : Char := if '\'' ∈ s ∧ '"' ∉ s then '"' else '\''

def quoted (s : String) : String :=
  let q := quoteFor s.toList
  String.ofList (q :: s.toList.flatMap (escaped q) ++ [q])

/-- One byte in quoted bytes: only ASCII is printable. -/
def escapedByte (quote c : Char) : List Char :=
  if 0x7f ≤ c.toNat then '\\' :: 'x' :: hexDigits 2 c.toNat else escaped quote c

def quotedBytes (b : List UInt8) : String :=
  let cs := b.map fun x => Char.ofNat x.toNat
  let q := quoteFor cs
  String.ofList ('b' :: q :: cs.flatMap (escapedByte q) ++ [q])

end TableGraph.Text
