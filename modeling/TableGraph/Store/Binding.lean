import TableGraph.Json
import TableGraph.Store.DeclaredType

/-! # Values on their way into and out of a store

A value passes two gates. The kind of the column that it is written to prepares it, or refuses it:
booleans are zero or one, numbers become doubles, dates become text. In a comparison its own kind
prepares it. Then the store takes it as a cell, unless it is an integer beyond 64 bits or of a kind
that has no cell. All values of a statement pass the first gate before any passes the second.
On the way out the kind of the column reads the cell, and fails if it cannot.
-/
namespace TableGraph.Store

def refused {α : Type} : Except Failure α := .error (.database .binding)

def dateText (d : Date) : Value := .text d.toText

def timeText (t : DateTime) : Value := .text t.storedText

def midnightText (d : Date) : Value := timeText ⟨d, .midnight, none⟩

def prepareBoolean : Scalar → Except Failure Value
  | .null => .ok .null
  | .bool b => .ok (.int (if b then 1 else 0))
  | .int n => if n = 0 ∨ n = 1 then .ok (.int n) else refused
  | .float x => match x.toInt? with
    | some n => if n = 0 ∨ n = 1 then .ok (.int n) else refused
    | none => refused
  | _ => refused

def takenNumber : Option Binary64 → Except Failure Value
  | some x => .ok (.scalar (.float x))
  | none => refused

def prepareNumber : Scalar → Except Failure Value
  | .null => .ok .null
  | .bool b => .ok (.scalar (.float (.nearest false (if b then 1 else 0) 1)))
  | .int n => takenNumber (Binary64.ofInt? n)
  | .float x => .ok (.scalar (.float x))
  | .decimal d => .ok (.scalar (.float d.toBinary64))
  | .text s => takenNumber (Number.readBinary64? (Text.trim s.toList))
  | _ => refused

def prepareDateTime : Scalar → Except Failure Value
  | .null => .ok .null
  | .datetime t => .ok (timeText t)
  | .date d => .ok (midnightText d)
  | _ => refused

def prepareDate : Scalar → Except Failure Value
  | .null => .ok .null
  | .datetime t => .ok (dateText t.date)
  | .date d => .ok (dateText d)
  | _ => refused

/-- No value is a time of day without a date, so such a column takes null only. -/
def prepareTime : Scalar → Except Failure Value
  | .null => .ok .null
  | _ => refused

def prepareBinary : Scalar → Except Failure Value
  | .null => .ok .null
  | .bytes b => .ok (.scalar (.bytes b))
  | _ => refused

/-- A column of dates in a form that none can be written in takes null only. -/
def prepareFormless : Scalar → Except Failure Value
  | .null => .ok .null
  | _ => refused

/-- JSON text; null may stay what it is. -/
def prepareJson (writesNull : Bool) (v : Value) : Except Failure Value :=
  if v.isNull && !writesNull then .ok .null
  else match Json.write? v with
    | some s => .ok (.text s)
    | none => refused

/-- What a column of this kind makes of a value that is written to it. -/
def prepare (kind : ColumnKind) (v : Value) : Except Failure Value :=
  match kind, v with
  | .integer, v => .ok v
  | .plain, v => .ok v
  | .json writesNull, v => prepareJson writesNull v
  | .packedJson, v => prepareJson true v
  | .boolean, .scalar s => prepareBoolean s
  | .floating, .scalar s => prepareNumber s
  | .numeric _, .scalar s => prepareNumber s
  | .datetime _, .scalar s => prepareDateTime s
  | .date, .scalar s => prepareDate s
  | .formless _, .scalar s => prepareFormless s
  | .time, .scalar s => prepareTime s
  | .binary, .scalar s => prepareBinary s
  | _, _ => refused

/-- What is made of a value that a column of this kind is compared with. A text is no bytes. -/
def prepareOperand (kind : ColumnKind) (v : Value) : Except Failure Value :=
  match v with
  | .scalar (.text s) => if kind = .binary then refused else .ok (.text s)
  | .scalar (.decimal d) => .ok (.scalar (.float d.toBinary64))
  | .scalar (.datetime t) => if kind = .formless true then refused else .ok (timeText t)
  | .scalar (.date d) => if kind = .formless false then refused else .ok (dateText d)
  | .scalar s => .ok (.scalar s)
  | v => prepare kind v

/-- The cell of a prepared value. What is no number is null. -/
def accept : Value → Except Failure Cell
  | .scalar .null => .ok .null
  | .scalar (.bool b) => .ok (.int (if b then 1 else 0))
  | .scalar (.int n) => if fits n then .ok (.int n) else .error .outOfRange
  | .scalar (.float x) => .ok (if x.isNaN then .null else .real x)
  | .scalar (.text s) => .ok (.text s)
  | .scalar (.datetime t) => .ok (.text t.display)
  | .scalar (.date d) => .ok (.text d.toText)
  | .scalar (.bytes b) => .ok (.blob b)
  | _ => .error (.database .unsupported)

/-- Whether a column of this kind cannot be given this value at all: nothing packs it. -/
def cannotPack (kind : ColumnKind) (v : Value) : Bool :=
  kind = .packedJson && match v with
    | .scalar _ => false
    | _ => true

def readDecimal (places : Nat) : Cell → Except Failure Value
  | .int n => .ok (.scalar (.decimal (.ofBinary64 places (Cell.ofInt n))))
  | .real x => .ok (.scalar (.decimal (.ofBinary64 places x)))
  | _ => .error .wrongKind

def readDateTime : Cell → Except Failure Value
  | .text s => match DateTime.read? s.toList with
    | some t => .ok (.scalar (.datetime t))
    | none => .error .unreadable
  | _ => .error .wrongKind

def readDate : Cell → Except Failure Value
  | .text s => match Date.read? s.toList with
    | some d => .ok (.scalar (.date d))
    | none => .error .unreadable
  | _ => .error .wrongKind

/-- The JSON value of a text or of its bytes; a number is one already. -/
def readJson (fault : Failure) : Cell → Except Failure Value
  | .text s => (Json.read? s.toList).elim (.error fault) .ok
  | .blob b => match String.fromUTF8? ⟨b.toArray⟩ with
    | some s => (Json.read? s.toList).elim (.error fault) .ok
    | none => .error .unreadable
  | c => .ok (.scalar c.scalar)

/-- Packed JSON is unpacked by the store, which has no JSON in bytes. -/
def readPackedJson : Cell → Except Failure Value
  | .blob _ => .error (.database .operation)
  | c => readJson (.database .operation) c

/-- What a cell of a column of this kind reads as. -/
def readCell (kind : ColumnKind) (c : Cell) : Except Failure Value :=
  if c.isNull then .ok .null
  else match kind with
    | .boolean => .ok (.bool c.scalar.isGiven)
    | .numeric places => readDecimal places c
    | .datetime _ => readDateTime c
    | .formless true => readDateTime c
    | .date => readDate c
    | .formless false => readDate c
    | .json _ => readJson .unreadableJson c
    | .packedJson => readPackedJson c
    | _ => .ok (.scalar c.scalar)

end TableGraph.Store
