import TableGraph.Text.Digit

/-! # Calendar dates

Dates of the Gregorian calendar from year 1 to year 9999, as year, month and day or as week year,
week and weekday. `Date.read?` reads the extended and the basic form of both; a week without a
weekday stands for its Monday. Texts are read as UTF-8, byte by byte.
-/
namespace TableGraph

structure Date where
  year : Nat
  month : Nat
  day : Nat
  deriving DecidableEq

namespace Date
open TableGraph.Text

def isLeap (year : Nat) : Bool := year % 4 = 0 && (year % 100 ≠ 0 || year % 400 = 0)

def monthLengths (year : Nat) : List Nat :=
  [31, if isLeap year then 29 else 28, 31, 30, 31, 30, 31, 31, 30, 31, 30, 31]

def yearLength (year : Nat) : Nat := if isLeap year then 366 else 365

def monthLength (year month : Nat) : Nat :=
  if month = 0 then 0 else (monthLengths year).getD (month - 1) 0

def ofFields? (year month day : Nat) : Option Date :=
  if 1 ≤ year ∧ year ≤ 9999 ∧ 1 ≤ day ∧ day ≤ monthLength year month then some ⟨year, month, day⟩ else none

def daysBeforeYear (year : Nat) : Nat :=
  (year - 1) * 365 + (year - 1) / 4 - (year - 1) / 100 + (year - 1) / 400

/-- The weekday of the first of January, Monday being 0. -/
def firstWeekday (year : Nat) : Nat := daysBeforeYear year % 7

/-- Weeks run from Monday, and the first one of a year is the one with its first Thursday. -/
def weekCount (year : Nat) : Nat :=
  if firstWeekday year = 3 ∨ (firstWeekday year = 2 ∧ isLeap year) then 53 else 52

/-- Month and day of the day with this number, from 1, counted over the given month lengths. -/
def monthDay (month day : Nat) : List Nat → Nat × Nat
  | [] => (month, day)
  | n :: r => if day ≤ n then (month, day) else monthDay (month + 1) (day - n) r

def ofYearDay? (year day : Nat) : Option Date :=
  let p := monthDay 1 day (monthLengths year)
  ofFields? year p.1 p.2

def ofWeek? (year week weekday : Nat) : Option Date :=
  if year = 0 ∨ week = 0 ∨ weekCount year < week ∨ weekday = 0 ∨ 7 < weekday then none
  else
    let first := firstWeekday year
    let number := (week - 1) * 7 + weekday + (if 3 < first then 7 else 0)
    if number ≤ first then ofYearDay? (year - 1) (yearLength (year - 1) + number - first)
    else if yearLength year < number - first then ofYearDay? (year + 1) (number - first - yearLength year)
    else ofYearDay? year (number - first)

/-- The number written by the first `count` characters, which have to be ASCII digits, and what
follows them. -/
def takeDigits? (count : Nat) (s : List Char) : Option (Nat × List Char) :=
  if s.length < count then none
  else (asciiNat? (s.take count)).map fun n => (n, s.drop count)

def takeHyphen? (extended : Bool) : List Char → Option (List Char)
  | [] => if extended then none else some []
  | c :: r => if extended then (if c = '-' then some r else none) else some (c :: r)

/-- Reads the date at the front of a text; `size` is the length of the date, which tells whether a
week has a weekday. -/
def readFront? (size : Nat) (s : List Char) : Option Date := do
  let (year, r) ← takeDigits? 4 s
  let extended := r.head? = some '-'
  let r ← takeHyphen? extended r
  match r with
  | 'W' :: r =>
    let (week, r) ← takeDigits? 2 r
    if (if extended then 8 else 7) < size then
      let r ← takeHyphen? extended r
      let (weekday, _) ← takeDigits? 1 r
      ofWeek? year week weekday
    else ofWeek? year week 1
  | r =>
    let (month, r) ← takeDigits? 2 r
    let r ← takeHyphen? extended r
    let (day, _) ← takeDigits? 2 r
    ofFields? year month day

/-- The bytes of a text, each as the character with its number. -/
def octets (s : List Char) : List Char :=
  (String.ofList s).toUTF8.toList.map fun b => Char.ofNat b.toNat

/-- A text of seven, eight or ten bytes that starts with a date. -/
def read? (s : List Char) : Option Date :=
  let bytes := octets s
  if bytes.length = 7 ∨ bytes.length = 8 ∨ bytes.length = 10 then readFront? bytes.length bytes else none

def toText (d : Date) : String := padded 4 d.year ++ "-" ++ padded 2 d.month ++ "-" ++ padded 2 d.day

def literal (d : Date) : String :=
  "datetime.date(" ++ ", ".intercalate ([d.year, d.month, d.day].map Nat.repr) ++ ")"

end Date

end TableGraph
