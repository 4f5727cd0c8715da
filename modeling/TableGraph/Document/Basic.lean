import TableGraph.Document.Token

/-! # Documents of type definitions

A document defines object types and input types. Each has fields, the fields of an object type may
have arguments, and types are names inside lists, any of which may exclude null. `Document.read?`
reads a document; a list of fields or arguments that is opened holds at least one. No other blocks
are read, such as those for interfaces, unions, enumerations, scalars, directives and extensions,
and neither are descriptions and default values.

A reader takes tokens from the front and proves that it took some, so that what is repeated ends.
-/
namespace TableGraph.Document

inductive TypeExpr where
  | named (name : String)
  | list (inner : TypeExpr)
  | nonNull (inner : TypeExpr)
  deriving DecidableEq

namespace TypeExpr

def render : TypeExpr → String
  | named name => name
  | list inner => "[" ++ inner.render ++ "]"
  | nonNull inner => inner.render ++ "!"

/-- The name inside all lists. -/
def typeName : TypeExpr → String
  | named name => name
  | list inner => inner.typeName
  | nonNull inner => inner.typeName

end TypeExpr

structure Argument where
  name : String
  type : TypeExpr
  deriving DecidableEq

structure FieldDefinition where
  name : String
  args : List Argument
  type : TypeExpr
  deriving DecidableEq

inductive Kind where
  | object
  | input
  deriving DecidableEq

structure TypeDefinition where
  kind : Kind
  name : String
  fields : List FieldDefinition
  deriving DecidableEq

/-- What was read, and the tokens after it. -/
structure Taken (ts : List Token) (α : Type) where
  value : α
  rest : List Token
  shorter : rest.length < ts.length

def takeName? : (ts : List Token) → Option (Taken ts String)
  | .name s :: r => some ⟨s, r, by simp⟩
  | _ => none

def takePunctuator? (c : Char) : (ts : List Token) → Option (Taken ts Unit)
  | .punctuator d :: r => if d = c then some ⟨(), r, by simp⟩ else none
  | _ => none

/-- An exclamation mark after a type excludes null. -/
def excludeNull {ts : List Token} (t : Taken ts TypeExpr) : Taken ts TypeExpr :=
  match takePunctuator? '!' t.rest with
  | some e => ⟨.nonNull t.value, e.rest, Nat.lt_trans e.shorter t.shorter⟩
  | none => t

def takeType? : (ts : List Token) → Option (Taken ts TypeExpr)
  | .name s :: r => some (excludeNull ⟨.named s, r, by simp⟩)
  | .punctuator c :: r =>
    if c = '[' then do
      let t ← takeType? r
      let e ← takePunctuator? ']' t.rest
      return excludeNull ⟨.list t.value, e.rest, by
        have := t.shorter
        have := e.shorter
        simp only [List.length_cons]
        omega⟩
    else none
  | [] => none

def takeArgument? (ts : List Token) : Option (Taken ts Argument) := do
  let n ← takeName? ts
  let c ← takePunctuator? ':' n.rest
  let t ← takeType? c.rest
  return ⟨⟨n.value, t.value⟩, t.rest, Nat.lt_trans t.shorter (Nat.lt_trans c.shorter n.shorter)⟩

/-- Reads one after the other, at least one, until the closing punctuator. -/
def takeUntil? {α : Type} (one : (ts : List Token) → Option (Taken ts α)) (close : Char) (ts : List Token) :
    Option (Taken ts (List α)) := do
  let a ← one ts
  match takePunctuator? close a.rest with
  | some e => return ⟨[a.value], e.rest, Nat.lt_trans e.shorter a.shorter⟩
  | none =>
    let more ← takeUntil? one close a.rest
    return ⟨a.value :: more.value, more.rest, Nat.lt_trans more.shorter a.shorter⟩
termination_by ts.length
decreasing_by exact a.shorter

/-- A list between punctuators; if it is not opened, it is empty and takes nothing. -/
def takeOptional {α : Type} (one : (ts : List Token) → Option (Taken ts α)) (opening close : Char)
    (ts : List Token) : Option { p : List α × List Token // p.2.length ≤ ts.length } :=
  match takePunctuator? opening ts with
  | none => some ⟨([], ts), Nat.le_refl _⟩
  | some o => (takeUntil? one close o.rest).map fun l =>
    ⟨(l.value, l.rest), Nat.le_of_lt (Nat.lt_trans l.shorter o.shorter)⟩

def takeField? (ts : List Token) : Option (Taken ts FieldDefinition) := do
  let n ← takeName? ts
  let args ← takeOptional takeArgument? '(' ')' n.rest
  let c ← takePunctuator? ':' args.1.2
  let t ← takeType? c.rest
  return ⟨⟨n.value, args.1.1, t.value⟩, t.rest, by
    have := n.shorter
    have := args.2
    have := c.shorter
    have := t.shorter
    omega⟩

def takeInputField? (ts : List Token) : Option (Taken ts FieldDefinition) :=
  (takeArgument? ts).map fun a => ⟨⟨a.value.name, [], a.value.type⟩, a.rest, a.shorter⟩

def kindOf? (keyword : String) : Option Kind :=
  if keyword = "type" then some .object else if keyword = "input" then some .input else none

def takeDefinition? (ts : List Token) : Option (Taken ts TypeDefinition) := do
  let k ← takeName? ts
  let kind ← kindOf? k.value
  let n ← takeName? k.rest
  let one := match kind with
    | .object => takeField?
    | .input => takeInputField?
  let fields ← takeOptional one '\x7b' '\x7d' n.rest
  return ⟨⟨kind, n.value, fields.1.1⟩, fields.1.2, by
    have := k.shorter
    have := n.shorter
    have := fields.2
    omega⟩

/-- All definitions, at least one. -/
def readTokens? (ts : List Token) : Option (List TypeDefinition) := do
  let d ← takeDefinition? ts
  if d.rest.isEmpty then return [d.value]
  let more ← readTokens? d.rest
  return d.value :: more
termination_by ts.length
decreasing_by exact d.shorter

def read? (text : String) : Option (List TypeDefinition) := (tokens? text).bind readTokens?

end TableGraph.Document
