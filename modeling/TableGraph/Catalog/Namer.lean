import TableGraph.Name
import TableGraph.Assoc

/-! # Names of relation fields

A namer gives every foreign key column of a table a field name that is not taken: by a column, by
the table itself, or by an earlier relation. The referenced table comes first; if that is taken, the
column is added, then a digest, then further digests until the name is free. Each digest makes the
name longer, so it outgrows the taken ones. A column keeps the name that it was once given.
-/
namespace TableGraph

structure Namer where
  hashLength : Int := 8
  taken : Assoc String (List String) := []
  names : Assoc (String × String) String := []

def longest (names : List String) : Nat := names.foldr (fun s n => max s.length n) 0

theorem length_le_longest {names : List String} {s : String} (h : s ∈ names) : s.length ≤ longest names := by
  induction names with
  | nil => simp at h
  | cons t r ih =>
    rcases List.mem_cons.1 h with rfl | h
    · exact Nat.le_max_left ..
    · exact Nat.le_trans (ih h) (Nat.le_max_right ..)

/-- Adds one suffix after the other until the name is none of the taken ones. -/
def freeName (taken : List String) (suffix : Nat → String) (salt : Nat) (name : String) : String :=
  if name ∈ taken then freeName taken suffix (salt + 1) (name ++ "_" ++ suffix (salt + 1)) else name
termination_by longest taken + 1 - name.length
decreasing_by
  have := length_le_longest ‹name ∈ taken›
  simp only [String.length_append]
  have : "_".length = 1 := by decide
  omega

theorem freeName_not_mem (taken : List String) (suffix : Nat → String) (salt : Nat) (name : String) :
    freeName taken suffix salt name ∉ taken := by
  fun_induction freeName taken suffix salt name with
  | case1 salt name _ ih => exact ih
  | case2 salt name h => exact h

namespace Namer

/-- The names taken for a table; at the start its own, which stands for the root of a request. -/
def takenFor (n : Namer) (table : String) : List String :=
  (n.taken.get? table).getD [sanitizeName table]

def reserve (n : Namer) (table : String) (names : List String) : Namer :=
  { n with taken := n.taken.put table (n.takenFor table ++ names) }

def suffix (n : Namer) (parts : List String) : String := String.ofList (Name.tag n.hashLength parts)

/-- The first choice that is not taken: the referenced table, that with the column, or the latter with a
digest, which may be taken too. -/
def candidate (n : Namer) (table column referencedTable : String) : String :=
  let taken := n.takenFor table
  let first := relationCandidate referencedTable
  let second := if first ∈ taken then sanitizeName (first ++ "_" ++ column) else first
  if second ∈ taken then second ++ "_" ++ n.suffix [table, column, referencedTable] else second

/-- The digest that a round of the search adds. -/
def salted (n : Namer) (table column referencedTable : String) (salt : Nat) : String :=
  n.suffix [table, column, referencedTable, toString salt]

/-- A free name for a relation of a table. -/
def choose (n : Namer) (table column referencedTable : String) : String :=
  freeName (n.takenFor table) (n.salted table column referencedTable) 0
    (n.candidate table column referencedTable)

def lookup (n : Namer) (table column : String) : Option String := n.names.get? (table, column)

/-- Takes a name and keeps it for a column. -/
def give (n : Namer) (table column name : String) : Namer :=
  { n with
    taken := n.taken.put table (n.takenFor table ++ [name])
    names := n.names.put (table, column) name }

def assign (n : Namer) (table column referencedTable : String) : String × Namer :=
  match n.lookup table column with
  | some name => (name, n)
  | none =>
    let name := n.choose table column referencedTable
    (name, n.give table column name)

theorem choose_not_mem (n : Namer) (table column referencedTable : String) :
    n.choose table column referencedTable ∉ n.takenFor table := freeName_not_mem _ _ _ _

theorem takenFor_reserve (n : Namer) (table other : String) (names : List String) :
    (n.reserve table names).takenFor other =
      if table = other then n.takenFor table ++ names else n.takenFor other := by
  simp only [takenFor, reserve, Assoc.get?_put]
  split <;> rfl

theorem takenFor_give (n : Namer) (table column name other : String) :
    (n.give table column name).takenFor other =
      if table = other then n.takenFor table ++ [name] else n.takenFor other := by
  simp only [takenFor, give, Assoc.get?_put]
  split <;> rfl

theorem lookup_give (n : Namer) (table column name other column' : String) :
    (n.give table column name).lookup other column' =
      if table = other ∧ column = column' then some name else n.lookup other column' := by
  simp only [lookup, give, Assoc.get?_put, Prod.mk.injEq]

theorem assign_of_held {n : Namer} {table column name : String} (h : n.lookup table column = some name)
    (referencedTable : String) : n.assign table column referencedTable = (name, n) := by
  simp [assign, h]

theorem assign_of_new {n : Namer} {table column : String} (h : n.lookup table column = none)
    (referencedTable : String) :
    n.assign table column referencedTable =
      (n.choose table column referencedTable, n.give table column (n.choose table column referencedTable)) := by
  simp [assign, h]

end Namer

end TableGraph
