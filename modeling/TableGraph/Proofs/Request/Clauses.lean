import TableGraph.Proofs.Request.Merging
import TableGraph.Proofs.Text.Pieces

/-! # Clauses of a filter

A segment of a filter is written `[scope:]column op value`, and a clause holds these parts as they are written
(`Clause.text`). A segment can be read if it is the text of a legible clause, and what is read from it is what the
clause says, without the blanks around its scope and its column (`readCondition?_eq_some_iff`). The scope ends at
the first mark, and so does the column; the operator is the longest one there (`Operator.read?_eq_some_iff`).
-/
namespace TableGraph
open TableGraph.Text TableGraph.Request

namespace Operator

/-- No longer operator stands at the front of the text than this one. -/
def Longest (op : Operator) (s : List Char) : Prop :=
  op.symbol <+: s ∧ ∀ other : Operator, other.symbol <+: s → other.symbol.length ≤ op.symbol.length

/-- Only behind a single `>` or `<` an equals sign would make a longer operator. -/
theorem longest_iff (op : Operator) (value : List Char) :
    op.Longest (op.symbol ++ value) ↔ (op = gt ∨ op = lt → value.head? ≠ some '=') := by
  constructor
  · rintro ⟨-, h⟩ ho hv
    obtain ⟨r, rfl⟩ := List.head?_eq_some_iff.1 hv
    rcases ho with rfl | rfl
    · exact absurd (h gte ⟨r, rfl⟩) (by decide)
    · exact absurd (h lte ⟨r, rfl⟩) (by decide)
  · intro h
    refine ⟨List.prefix_append _ _, fun other hother => ?_⟩
    cases op <;> cases other <;> simp_all [symbol, List.cons_prefix_cons]
    all_goals
      obtain ⟨r, rfl⟩ := hother
      exact h rfl

/-- The operator read is the longest one at the front, and what follows it is left. -/
theorem read?_eq_some_iff {s value : List Char} {op : Operator} :
    read? s = some (op, value) ↔ s = op.symbol ++ value ∧ op.Longest (op.symbol ++ value) := by
  rw [longest_iff]
  constructor
  · intro h
    unfold read? at h
    split at h
    all_goals cases h
    all_goals refine ⟨rfl, ?_⟩
    all_goals rintro (ho | ho) <;> cases ho
    all_goals
      intro hv
      obtain ⟨r, rfl⟩ := List.head?_eq_some_iff.1 hv
      simp_all
  · rintro ⟨rfl, h⟩
    cases op
    case gt | lt =>
      cases value with
      | nil => rfl
      | cons c r =>
        have hc : c ≠ '=' := by simpa using h
        simp only [symbol, List.cons_append, List.nil_append]
        unfold read?
        split <;> simp_all
    all_goals rfl

theorem symbol_marked (op : Operator) : ∃ c r, op.symbol = c :: r ∧ isMark c = true ∧ c ≠ ':' := by
  cases op <;> exact ⟨_, _, rfl, by decide, by decide⟩

end Operator

/-- A segment of a filter in its parts. -/
structure Clause where
  scope : Option (List Char)
  column : List Char
  operator : Operator
  value : List Char

namespace Clause

def comparison (c : Clause) : List Char := c.column ++ (c.operator.symbol ++ c.value)

def text (c : Clause) : List Char :=
  match c.scope with
  | none => c.comparison
  | some scope => scope ++ ':' :: c.comparison

/-- The condition that the parts name, and its scope. -/
def condition (c : Clause) : Option String × Condition String :=
  (c.scope.map String.ofList, ⟨String.ofList c.column, c.operator.name, String.ofList c.value⟩)

/-- The same with no blanks around the scope and the column. -/
def trimmed (c : Clause) : Clause := { c with scope := c.scope.map trim, column := trim c.column }

/-- The marks stand where they divide the parts: there is none in the scope and the column, the operator is the
longest that fits, and the scope is not blank. -/
structure Divided (c : Clause) : Prop where
  scope : ∀ s ∈ c.scope, trim s ≠ [] ∧ ∀ x ∈ s, isMark x = false
  column : ∀ x ∈ c.column, isMark x = false
  operator : c.operator.Longest (c.operator.symbol ++ c.value)

/-- The form of a segment: a column that is not blank, and any value. -/
def Documented (c : Clause) : Prop := c.Divided ∧ trim c.column ≠ []

/-- What can be read: the column is not empty, and the value is on one line. -/
def Legible (c : Clause) : Prop := c.Divided ∧ c.column ≠ [] ∧ '\n' ∉ c.value

end Clause

namespace Request

/-! ## One segment -/

theorem takeWhile_unmarked {front rest : List Char} (hfront : ∀ c ∈ front, isMark c = false)
    (hrest : ∀ c ∈ rest.head?, isMark c = true) :
    (front ++ rest).takeWhile (fun c => !isMark c) = front ∧ (front ++ rest).dropWhile (fun c => !isMark c) = rest := by
  have hpos : ∀ c ∈ front, (!isMark c) = true := fun c hc => by rw [hfront c hc, Bool.not_false]
  rw [List.takeWhile_append_of_pos hpos, List.dropWhile_append_of_pos hpos]
  cases rest with
  | nil => simp
  | cons m r => simp [hrest m rfl]

theorem head?_behind (op : Operator) (value : List Char) : ∀ c ∈ (op.symbol ++ value).head?, isMark c = true := by
  obtain ⟨m, r, hsymbol, hmark, -⟩ := op.symbol_marked
  intro c hc
  rw [hsymbol] at hc
  obtain rfl : m = c := Option.some.inj hc
  exact hmark

/-- The first mark is the colon behind the scope, or the operator behind the column if there is no scope. -/
theorem at_first_mark {c : Clause} (hc : c.Divided) :
    c.text.takeWhile (fun x => !isMark x) = c.scope.getD c.column ∧
      c.text.dropWhile (fun x => !isMark x) =
        c.scope.elim (c.operator.symbol ++ c.value) fun _ => ':' :: c.comparison := by
  unfold Clause.text
  cases hscope : c.scope with
  | none => exact takeWhile_unmarked hc.column (head?_behind c.operator c.value)
  | some scope =>
    have hcolon : ∀ x ∈ (':' :: c.comparison).head?, isMark x = true := by
      rintro x ⟨⟩
      rfl
    exact takeWhile_unmarked (hc.scope scope hscope).2 hcolon

theorem readComparison?_eq_some_iff {s : List Char} {d : Condition String} :
    readComparison? s = some d ↔
      ∃ c : Clause, c.scope = none ∧ c.Legible ∧ c.comparison = s ∧ c.trimmed.condition.2 = d := by
  constructor
  · intro h
    unfold readComparison? at h
    dsimp only at h
    split at h
    · cases h
    · rename_i hcolumn
      split at h
      · rename_i op value hread
        obtain ⟨hrest, hlongest⟩ := Operator.read?_eq_some_iff.1 hread
        split at h
        · cases h
        · rename_i hline
          let c : Clause := ⟨none, s.takeWhile fun c => !isMark c, op, value⟩
          have hunmarked : ∀ x ∈ c.column, isMark x = false := fun x hx => by simpa using List.mem_takeWhile_imp hx
          have hdivided : c.Divided := ⟨(fun _ hs => nomatch hs), hunmarked, hlongest⟩
          have hne : c.column ≠ [] := fun hnil => hcolumn (List.isEmpty_iff.2 hnil)
          refine ⟨c, rfl, ⟨hdivided, hne, hline⟩, ?_, Option.some.inj h⟩
          rw [Clause.comparison, ← hrest]
          exact List.takeWhile_append_dropWhile
      · cases h
  · rintro ⟨⟨scope, column, op, value⟩, hscope, ⟨hdivided, hcolumn, hline⟩, rfl, rfl⟩
    obtain ⟨htake, hdrop⟩ := takeWhile_unmarked hdivided.column (head?_behind op value)
    have hread := Operator.read?_eq_some_iff.2 ⟨rfl, hdivided.operator⟩
    have hgiven : column.isEmpty = false := by simpa using hcolumn
    simp only [readComparison?, Clause.comparison, htake, hdrop, hgiven, hread, hline]
    rfl

theorem scopeOf_eq_some {s : List Char} (h : trim s ≠ []) : scopeOf s = some (String.ofList (trim s)) := by
  simp [scopeOf, h]

/-- What is read from a segment is what the clause that it is made of says. -/
theorem readCondition?_eq_some_iff {s : List Char} (hs : ∀ c ∈ s.head?, isBlank c = false)
    {m : Option String × Condition String} :
    readCondition? s = some m ↔ ∃ c : Clause, c.Legible ∧ c.text = s ∧ c.trimmed.condition = m := by
  constructor
  · intro h
    unfold readCondition? at h
    dsimp only at h
    split at h
    · rename_i r hrest
      split at h
      · cases h
      · rename_i hhead
        obtain ⟨d, hd, rfl⟩ := Option.map_eq_some_iff.1 h
        obtain ⟨c, hnone, ⟨hdivided, hcolumn, hline⟩, rfl, rfl⟩ := readComparison?_eq_some_iff.1 hd
        let head := s.takeWhile fun c => !isMark c
        have hunmarked : ∀ x ∈ head, isMark x = false := fun x hx => by simpa using List.mem_takeWhile_imp hx
        have htext : head ++ ':' :: c.comparison = s := hrest ▸ List.takeWhile_append_dropWhile
        have hblank : trim head ≠ [] := by
          intro hnil
          cases hh : head with
          | nil => exact hhead (by simpa [head] using hh)
          | cons x t =>
            have hx := trim_eq_nil_iff.1 hnil x (hh ▸ List.mem_cons_self)
            rw [hs x (by rw [← htext, hh]; rfl)] at hx
            cases hx
        refine ⟨{ c with scope := some head }, ⟨⟨?_, hdivided.column, hdivided.operator⟩, hcolumn, hline⟩, htext, ?_⟩
        · rintro t ⟨⟩
          exact ⟨hblank, hunmarked⟩
        · rw [scopeOf_eq_some hblank]
          rfl
    · obtain ⟨d, hd, rfl⟩ := Option.map_eq_some_iff.1 h
      obtain ⟨c, hnone, hlegible, rfl, rfl⟩ := readComparison?_eq_some_iff.1 hd
      refine ⟨c, hlegible, by rw [Clause.text, hnone], ?_⟩
      simp [Clause.condition, Clause.trimmed, hnone]
  · rintro ⟨⟨scope, column, op, value⟩, hlegible, rfl, rfl⟩
    obtain ⟨hdivided, hcolumn, hline⟩ := hlegible
    have hread : readComparison? (Clause.comparison ⟨scope, column, op, value⟩) =
        some ⟨String.ofList (trim column), op.name, String.ofList value⟩ :=
      readComparison?_eq_some_iff.2 ⟨⟨none, column, op, value⟩, rfl,
        ⟨⟨(fun _ hs => nomatch hs), hdivided.column, hdivided.operator⟩, hcolumn, hline⟩, rfl, rfl⟩
    obtain ⟨htake, hdrop⟩ := at_first_mark hdivided
    cases scope with
    | none =>
      obtain ⟨m, r, hsymbol, -, hcolon⟩ := op.symbol_marked
      have hrest : (Clause.text ⟨none, column, op, value⟩).dropWhile (fun x => !isMark x) = m :: (r ++ value) := by
        rw [hdrop, Option.elim_none, hsymbol, List.cons_append]
      unfold readCondition?
      simp only [hrest]
      split
      · rename_i rest he
        exact absurd (List.cons.inj he).1 hcolon
      · exact congrArg (Option.map _) hread
    | some scope =>
      have hgiven := (hdivided.scope scope rfl).1
      have hne : scope.isEmpty = false := by
        cases scope with
        | nil => exact absurd rfl hgiven
        | cons x t => rfl
      simp only [readCondition?, htake, hdrop, Option.getD_some, Option.elim_some, hne, Bool.false_eq_true, if_false]
      rw [scopeOf_eq_some hgiven]
      exact congrArg (Option.map _) hread

end Request

end TableGraph
