import TableGraph.Text.Blank
import TableGraph.Text.Case
import TableGraph.Digest

/-! # Names of the type language

A name is one or more ASCII letters, digits and underscores, does not start with a digit, and does
not start with two underscores, which are kept for introspection (`IsName`). `sanitize` turns any
text into a name, `camel` joins the words of a snake-case text, `typeName` is the name of the type
made for a table, and `tag` is a short digest that tells apart names that would collide.
-/
namespace TableGraph.Name

def isStart (c : Char) : Bool := c = '_' || c.isAlpha

def isPart (c : Char) : Bool := c = '_' || c.isAlphanum

structure IsName (s : List Char) : Prop where
  nonempty : s ≠ []
  parts : ∀ c ∈ s, isPart c = true
  start : ∀ c ∈ s.head?, c.isDigit = false
  unreserved : ¬ ['_', '_'] <+: s

/-- Whether a text may stand as a field name: a name, with at most one line feed after it. -/
def isAdmitted (s : List Char) : Bool :=
  match s with
  | [] => false
  | c :: r =>
    isStart c && !(['_', '_'].isPrefixOf s) &&
      (r.all isPart || (r.getLast? = some '\n' && r.dropLast.all isPart))

def dropReserved : List Char → List Char
  | [] => []
  | c :: r => if c = '_' ∧ r.head? = some '_' then dropReserved r else c :: r

/-- Every other character becomes an underscore, a leading digit or nothing at all gets one in
front, and of several leading underscores one stays. -/
def sanitize (s : List Char) : List Char :=
  let t := s.map fun c => if isPart c then c else '_'
  dropReserved (if t.head?.all Char.isDigit then '_' :: t else t)

/-- The words between underscores joined in camel case. A text without an underscore keeps its
letters, but for the first one if the result is to start in upper case. -/
def camel (upperFirst : Bool) (s : List Char) : List Char :=
  if '_' ∈ s then
    match (Text.split '_' s).filter fun w => !w.isEmpty with
    | [] => []
    | w :: ws => (if upperFirst then Text.capitalize w else Text.lower w) ++ ws.flatMap Text.capitalize
  else
    match s with
    | [] => []
    | c :: r => if upperFirst then Text.upperForm c ++ r else c :: r

def typeName (table : List Char) : List Char := sanitize (camel true (sanitize table))

/-- The first `length` digits, at least one, of the digest of the parts, which a unit separator
keeps apart. -/
def tag (length : Int) (parts : List String) : List Char :=
  (Digest.ofBytes ("\x1f".intercalate parts).toUTF8.toList).take (max 1 length).toNat

/-- Type names with a meaning of their own. -/
def reservedTypes : List String :=
  ["Query", "Mutation", "Subscription", "String", "Int", "Float", "Boolean", "ID"]

end TableGraph.Name

namespace TableGraph

def sanitizeName (s : String) : String := String.ofList (Name.sanitize s.toList)

def typeNameFor (table : String) : String := String.ofList (Name.typeName table.toList)

/-- The first choice for the name of a relation field: the referenced table. -/
def relationCandidate (referencedTable : String) : String := sanitizeName referencedTable

end TableGraph
