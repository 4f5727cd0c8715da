import TableGraph.Calendar.Date

/-! # Dates with a time of day

A date, a time to the microsecond, and perhaps an offset from universal time. `DateTime.read?`
reads a date, any one character and a time: hours, minutes and seconds with or without colons, a
fraction cut to six digits, and an offset in the same forms after a plus or a minus, or a Z for the
offset zero. The text is read as UTF-8, byte by byte, and a byte zero ends it like its own end.
-/
namespace TableGraph

structure Clock where
  hour : Nat
  minute : Nat
  second : Nat
  microsecond : Nat
  deriving DecidableEq

structure DateTime where
  date : Date
  clock : Clock
  /-- Microseconds ahead of universal time. -/
  offset : Option Int
  deriving DecidableEq

namespace Clock
open TableGraph.Text

def midnight : Clock := ⟨0, 0, 0, 0⟩

def valid (c : Clock) : Bool := c.hour < 24 && c.minute < 60 && c.second < 60 && c.microsecond < 1000000

def microseconds (c : Clock) : Nat :=
  ((c.hour * 60 + c.minute) * 60 + c.second) * 1000000 + c.microsecond

/-- Whether a text is at its end, which is where no byte or a byte zero stands. -/
def atEnd (s : List Char) : Bool := s.head?.all fun c => c.toNat = 0

/-- Up to six digits of a fraction as microseconds, and whether only digits follow them. -/
def readFraction? (s : List Char) : Option (Nat × Bool) :=
  let count := min 6 s.length
  (Date.takeDigits? count s).map fun p => (p.1 * Nat.pow 10 (6 - count), atEnd (p.2.dropWhile Char.isDigit))

/-- Reads as many more fields of two digits as `more` says, then a fraction. `colons` tells which
separator the first field had, if there has been one. The second result is false if something is
left over at the end. -/
def readFields? (more : Nat) (colons : Option Bool) (fields : List Nat) (s : List Char) :
    Option (List Nat × Nat × Bool) :=
  match Date.takeDigits? 2 s with
  | none => none
  | some (n, rest) =>
    let fields := fields ++ [n]
    match rest with
    | [] => some (fields, 0, true)
    | [c] => some (fields, 0, atEnd [c])
    | c :: r =>
      let separated := colons.getD (c = ':')
      let next (t : List Char) : Option (List Nat × Nat × Bool) := match more with
        | 0 => (readFraction? t).map fun p => (fields, p.1, p.2)
        | more + 1 => readFields? more (some separated) fields t
      if separated && c = ':' then next r
      else if c = '.' || c = ',' then (readFraction? r).map fun p => (fields, p.1, p.2)
      else if separated then none
      else next rest

def read? (s : List Char) : Option (Clock × Bool) :=
  (readFields? 2 none [] s).map fun p => (⟨p.1.getD 0 0, p.1.getD 1 0, p.1.getD 2 0, p.2.1⟩, p.2.2)

end Clock

namespace DateTime
open TableGraph.Text

def dateSize (s : List Char) : Nat :=
  if s.length = 7 then 7
  else if s[4]? = some '-' then
    if s[5]? = some 'W' then
      if s[8]? = some '-' then (if s[10]?.any Char.isDigit then 8 else 10) else 8
    else 10
  else if s[4]? = some 'W' then
    let size := 7 + ((s.drop 7).takeWhile Char.isDigit).length
    if size < 9 then size else if size % 2 = 0 then 7 else 8
  else 8

def characterSize (c : Char) : Nat :=
  if c.toNat < 0x80 then 1 else if c.toNat / 16 = 0xe then 3 else if c.toNat / 16 = 0xf then 4 else 2

def day : Int := 24 * 60 * 60 * 1000000

/-- An offset is less than a day either way, and one of less than a second is none at all; there
may be nothing after it. -/
def readOffset? (negative : Bool) (s : List Char) : Option Int :=
  match Clock.read? s with
  | some (c, true) =>
    let size := if c.microseconds < 1000000 then 0 else c.microseconds
    let offset : Int := if negative then -(size : Int) else size
    if -day < offset ∧ offset < day then some offset else none
  | _ => none

/-- A time of day with perhaps an offset. What is left over before an offset is ignored. -/
def readClock? (s : List Char) : Option (Clock × Option Int) :=
  let isSign (c : Char) : Bool := c = '+' || c = '-' || c = 'Z'
  match Clock.read? (s.takeWhile fun c => !isSign c), s.dropWhile fun c => !isSign c with
  | none, _ => none
  | some (c, complete), [] => if complete && c.valid then some (c, none) else none
  | some (c, _), sign :: r =>
    if !c.valid then none
    else if sign = 'Z' then (if Clock.atEnd r then some (c, some 0) else none)
    else (readOffset? (sign = '-') r).map fun o => (c, some o)

def read? (s : List Char) : Option DateTime :=
  let bytes := Date.octets s
  let size := dateSize bytes
  match Date.readFront? size bytes with
  | none => none
  | some date => match bytes.drop size with
    | [] => some ⟨date, .midnight, none⟩
    | c :: r => (readClock? ((c :: r).drop (characterSize c))).map fun p => ⟨date, p.1, p.2⟩

def spellZulu (s : List Char) : List Char :=
  s.flatMap fun c => if c = 'Z' then "+00:00".toList else [c]

def clockText (c : Clock) : String :=
  padded 2 c.hour ++ ":" ++ padded 2 c.minute ++ ":" ++ padded 2 c.second

def fractionText (microsecond : Nat) : String :=
  if microsecond = 0 then "" else "." ++ padded 6 microsecond

def offsetText (offset : Int) : String :=
  let n := offset.natAbs
  let seconds := n / 1000000 % 60
  (if offset < 0 then "-" else "+") ++ padded 2 (n / 3600000000) ++ ":" ++ padded 2 (n / 60000000 % 60) ++
    (if seconds = 0 ∧ n % 1000000 = 0 then "" else ":" ++ padded 2 seconds ++ fractionText (n % 1000000))

def textWith (separator : String) (t : DateTime) : String :=
  t.date.toText ++ separator ++ clockText t.clock ++ fractionText t.clock.microsecond ++
    (t.offset.map offsetText).getD ""

def toText (t : DateTime) : String := textWith "T" t

def display (t : DateTime) : String := textWith " " t

/-- The form in which a store keeps it: a blank between date and time, always six digits of a
fraction, and no offset. -/
def storedText (t : DateTime) : String :=
  t.date.toText ++ " " ++ clockText t.clock ++ "." ++ padded 6 t.clock.microsecond

/-- A span of time as whole days, seconds and microseconds of which only the days may be negative;
what is zero is left out. -/
def spanLiteral (microseconds : Int) : String :=
  let parts : List (String × Int) := [("days", microseconds / day),
    ("seconds", microseconds % day / 1000000), ("microseconds", microseconds % 1000000)]
  let shown := (parts.filter fun p => p.2 ≠ 0).map fun p => p.1 ++ "=" ++ toString p.2
  "datetime.timedelta(" ++ (if shown.isEmpty then "0" else ", ".intercalate shown) ++ ")"

def zoneLiteral (offset : Int) : String :=
  if offset = 0 then "datetime.timezone.utc" else "datetime.timezone(" ++ spanLiteral offset ++ ")"

/-- How a date with a time is written among the members of a list: seconds and microseconds are left
out from the end while they are zero. -/
def literal (t : DateTime) : String :=
  let tail := if t.clock.microsecond ≠ 0 then [t.clock.second, t.clock.microsecond]
    else if t.clock.second ≠ 0 then [t.clock.second] else []
  let fields := [t.date.year, t.date.month, t.date.day, t.clock.hour, t.clock.minute] ++ tail
  let zone := (t.offset.map fun o => ", tzinfo=" ++ zoneLiteral o).getD ""
  "datetime.datetime(" ++ ", ".intercalate (fields.map Nat.repr) ++ zone ++ ")"

end DateTime

end TableGraph
