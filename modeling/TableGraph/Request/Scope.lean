import TableGraph.Assoc

/-! # Request arguments by scope

A request says per scope which conditions hold, how many rows to take, how many to pass over, and
in which order. `ScopeArgs.merged` adds the conditions of a later fragment to those of an earlier
one and lets its limit, offset and order win where it sets them; `RequestArgs.overlay` does this for
every scope. Both are associative with the empty arguments as identity.
-/
namespace TableGraph

/-- A column, the name of an operator, and what to compare with. -/
structure Condition (ν : Type) where
  column : String
  op : String
  value : ν
  deriving DecidableEq

inductive Direction where
  | asc
  | desc
  deriving DecidableEq

structure ScopeArgs (ν : Type) where
  conditions : List (Condition ν) := []
  limit : Option Int := none
  offset : Int := 0
  order : List (String × Direction) := []
  deriving DecidableEq

namespace ScopeArgs
variable {ν : Type}

def empty : ScopeArgs ν := {}

def merged (a b : ScopeArgs ν) : ScopeArgs ν where
  conditions := a.conditions ++ b.conditions
  limit := b.limit <|> a.limit
  offset := if b.offset = 0 then a.offset else b.offset
  order := if b.order.isEmpty then a.order else b.order

@[simp] theorem merged_empty (a : ScopeArgs ν) : a.merged empty = a := by
  cases a
  simp [merged, empty]

@[simp] theorem empty_merged (a : ScopeArgs ν) : empty.merged a = a := by
  obtain ⟨c, l, o, r⟩ := a
  cases l <;> cases r <;> simp [merged, empty] <;> exact fun h => h.symm

theorem merged_assoc (a b c : ScopeArgs ν) : (a.merged b).merged c = a.merged (b.merged c) := by
  obtain ⟨c₁, l₁, o₁, r₁⟩ := a
  obtain ⟨c₂, l₂, o₂, r₂⟩ := b
  obtain ⟨c₃, l₃, o₃, r₃⟩ := c
  simp only [merged, List.append_assoc, mk.injEq, true_and]
  refine ⟨?_, ?_, ?_⟩
  · cases l₃ <;> simp
  · by_cases h : o₃ = 0 <;> simp [h]
  · cases r₃ <;> simp

end ScopeArgs

/-- Arguments by scope; `none` is the root. -/
abbrev Scopes := Assoc (Option String) (ScopeArgs String)

structure RequestArgs where
  scopes : Scopes := []
  deriving DecidableEq

namespace RequestArgs

def empty : RequestArgs := {}

def get (r : RequestArgs) (scope : Option String) : ScopeArgs String :=
  (r.scopes.get? scope).getD .empty

/-- Bare fragments and those scoped by the name of the root table; without a name the bare ones
count again. -/
def forRoot (r : RequestArgs) (table : Option String) : ScopeArgs String :=
  (r.get none).merged (r.get table)

def forScope (r : RequestArgs) (key : String) : ScopeArgs String := r.get (some key)

/-- The arguments of one scope merged into those already there. -/
def join (scopes : Scopes) (scope : Option String) (args : ScopeArgs String) : Scopes :=
  scopes.change scope fun
    | some a => a.merged args
    | none => args

def overlay (r s : RequestArgs) : RequestArgs :=
  ⟨s.scopes.foldl (fun scopes p => join scopes p.1 p.2) r.scopes⟩

theorem get_join (scopes : Scopes) (scope k : Option String) (args : ScopeArgs String) :
    get ⟨join scopes scope args⟩ k = if scope = k then (get ⟨scopes⟩ k).merged args else get ⟨scopes⟩ k := by
  simp only [get, join, Assoc.change, Assoc.get?_put]
  split
  · rename_i h
    subst h
    cases scopes.get? scope <;> simp
  · rfl

end RequestArgs

end TableGraph
