import TableGraph.Proofs.Request.Grammar

/-! # Filters that are written

Clauses with plain names and a value that stays on its line are written one after the other with bars between
them. What is read from such a filter is what was written (`parseFilter_written`): a segment ends at the next bar,
nothing is trimmed off it, and it is divided where its parts were put together.
-/
namespace TableGraph
open Text Request

/-- A name that can be written as it is: without blanks around it, and without a bar or a mark in it. -/
structure IsPlain (s : List Char) : Prop where
  given : s ≠ []
  tight : Tight s
  bare : ∀ c ∈ s, c ≠ '|' ∧ isMark c = false

namespace Clause

/-- A clause that can be written as it is. -/
structure Writable (c : Clause) : Prop where
  scope : ∀ s ∈ c.scope, IsPlain s
  column : IsPlain c.column
  value : ∀ x ∈ c.value, x ≠ '|' ∧ x ≠ '\n'
  ending : ∀ x ∈ c.value.getLast?, isBlank x = false
  operator : c.operator = .gt ∨ c.operator = .lt → c.value.head? ≠ some '='

/-- Clauses as the text of a filter. -/
def written (cs : List Clause) : List Char := ['|'].intercalate (cs.map text)

variable {c : Clause}

theorem Writable.legible (h : c.Writable) : c.Legible where
  left := {
    scope := fun s hs => ⟨by rw [trim_of_tight (h.scope s hs).tight]; exact (h.scope s hs).given,
      fun x hx => ((h.scope s hs).bare x hx).2⟩
    column := fun x hx => (h.column.bare x hx).2
    operator := (Operator.longest_iff _ _).2 h.operator }
  right := ⟨h.column.given, fun hfeed => (h.value '\n' hfeed).2 rfl⟩

theorem Writable.placed (h : c.Writable) : c.placed = c.condition := by
  have hscope : c.scope.map trim = c.scope := by
    cases hs : c.scope with
    | none => rfl
    | some s => rw [Option.map_some, trim_of_tight (h.scope s hs).tight]
  rw [Clause.placed, trimmed, hscope, trim_of_tight h.column.tight]

/-! ## The text of one clause -/

/-- An operator is not blank, so the text behind a column ends in a blank only if the value does. -/
theorem Writable.ends (h : c.Writable) :
    c.operator.symbol ++ c.value ≠ [] ∧ ∀ x ∈ (c.operator.symbol ++ c.value).getLast?, isBlank x = false := by
  have hsymbol : ∀ op : Operator, op.symbol ≠ [] ∧ ∀ x ∈ op.symbol.getLast?, isBlank x = false := by
    intro op
    cases op <;> decide
  refine ⟨List.append_ne_nil_of_left_ne_nil (hsymbol _).1 _, fun x hx => ?_⟩
  cases hv : c.value with
  | nil =>
    rw [hv, List.append_nil] at hx
    exact (hsymbol _).2 x hx
  | cons v r =>
    rw [List.getLast?_append_of_ne_nil _ (hv ▸ List.cons_ne_nil v r)] at hx
    exact h.ending x hx

theorem Writable.tight (h : c.Writable) : Tight c.text := by
  have hcomparison : c.comparison ≠ [] := List.append_ne_nil_of_left_ne_nil h.column.given _
  have hends : Tight c.comparison := tight_append h.column.given h.ends.1 h.column.tight.first h.ends.2
  unfold text
  cases hs : c.scope with
  | none => exact hends
  | some s =>
    have hscope := h.scope s hs
    have hlast : ∀ x ∈ (':' :: c.comparison).getLast?, isBlank x = false := by
      rw [List.getLast?_cons_of_ne_nil hcomparison]
      exact hends.last
    exact tight_append hscope.given (List.cons_ne_nil _ _) hscope.tight.first hlast

theorem Writable.text_ne_nil (h : c.Writable) : c.text ≠ [] := by
  unfold text
  cases c.scope with
  | none => exact List.append_ne_nil_of_left_ne_nil h.column.given _
  | some s => exact List.append_ne_nil_of_right_ne_nil _ (List.cons_ne_nil _ _)

theorem Writable.no_bar (h : c.Writable) : '|' ∉ c.text := by
  have hsymbol : '|' ∉ c.operator.symbol := by cases c.operator <;> decide
  have hcomparison : '|' ∉ c.comparison := by
    simp only [comparison, List.mem_append, not_or]
    exact ⟨fun hm => (h.column.bare _ hm).1 rfl, hsymbol, fun hm => (h.value _ hm).1 rfl⟩
  unfold text
  cases hs : c.scope with
  | none => exact hcomparison
  | some s =>
    simp only [List.mem_append, List.mem_cons, not_or]
    exact ⟨fun hm => ((h.scope s hs).bare _ hm).1 rfl, by decide, hcomparison⟩

end Clause

namespace Request
open Clause

/-! ## A whole filter -/

/-- The segments of a filter are the clauses that it was written from. -/
theorem segments_written {cs : List Clause} (h : ∀ c ∈ cs, c.Writable) : segments (written cs) = cs.map text := by
  cases cs with
  | nil => rfl
  | cons c rest =>
    have htexts : ∀ w ∈ (c :: rest).map text, '|' ∉ w ∧ trim w = w ∧ w ≠ [] := by
      intro w hw
      obtain ⟨d, hd, rfl⟩ := List.mem_map.1 hw
      exact ⟨(h d hd).no_bar, trim_of_tight (h d hd).tight, (h d hd).text_ne_nil⟩
    have hsplit : split '|' (written (c :: rest)) = (c :: rest).map text :=
      split_intercalate (List.cons_ne_nil _ _) fun w hw => (htexts w hw).1
    have htrim : ((c :: rest).map text).map trim = (c :: rest).map text :=
      (List.map_congr_left fun w hw => (htexts w hw).2.1).trans (List.map_id _)
    rw [segments, hsplit, htrim, List.filter_eq_self]
    intro w hw
    simpa using (htexts w hw).2.2

/-- A written filter comes to its conditions by scope. -/
theorem parseFilter_written_eq {cs : List Clause} (h : ∀ c ∈ cs, c.Writable) :
    parseFilter (written cs) = .ok (grouped (cs.map condition)) := by
  rw [parseFilter_ok_iff]
  refine ⟨cs, (segments_written h).symm, fun c hc => (h c hc).legible, ?_⟩
  rw [List.map_congr_left fun c hc => (h c hc).placed]

/-- Each scope that was written has its conditions, in the order in which they were written; no other scope comes
up, and nothing is said about paging. -/
theorem parseFilter_written (cs : List Clause) (h : ∀ c ∈ cs, c.Writable) :
    ∃ scopes : Scopes, parseFilter (written cs) = .ok scopes ∧ scopes.keys.Nodup ∧
      (∀ k, k ∈ scopes.keys ↔ ∃ c ∈ cs, c.scope.map String.ofList = k) ∧
      ∀ k, RequestArgs.get ⟨scopes⟩ k =
        { conditions := (cs.filter fun c => c.scope.map String.ofList = k).map fun c =>
            ⟨String.ofList c.column, c.operator.name, String.ofList c.value⟩
          limit := none, offset := 0, order := [] } := by
  refine ⟨_, parseFilter_written_eq h, ?_, fun k => ?_, fun k => ?_⟩
  · rw [keys_grouped]
    exact (foldl_join _).2
  · rw [keys_grouped, mem_scopesOf]
    simp only [List.mem_map, exists_exists_and_eq_and, condition]
  · rw [get_grouped, conditionsOf, List.filter_map, List.map_map]
    rfl

/-- Values may hold colons and operators, and begin with blanks. -/
theorem parseFilter_written_posts :
    ∃ scopes : Scopes,
      parseFilter (written [⟨some "posts".toList, "at".toList, .gte, "10:30".toList⟩,
        ⟨none, "name".toList, .eq, " a!=b".toList⟩, ⟨some "posts".toList, "id".toList, .lt, "3".toList⟩]) = .ok scopes ∧
      RequestArgs.get ⟨scopes⟩ (some "posts") =
        { conditions := [⟨"at", "gte", "10:30"⟩, ⟨"id", "lt", "3"⟩], limit := none, offset := 0, order := [] } := by
  have hplain : ∀ s : List Char, s ∈ ["posts".toList, "at".toList, "name".toList, "id".toList] → IsPlain s := by
    intro s hs
    simp only [List.mem_cons, List.not_mem_nil, or_false] at hs
    rcases hs with rfl | rfl | rfl | rfl <;> exact ⟨by decide, ⟨by decide, by decide⟩, by decide⟩
  have hwritable : ∀ c ∈ ([⟨some "posts".toList, "at".toList, .gte, "10:30".toList⟩,
      ⟨none, "name".toList, .eq, " a!=b".toList⟩, ⟨some "posts".toList, "id".toList, .lt, "3".toList⟩] : List Clause),
      c.Writable := by
    intro c hc
    simp only [List.mem_cons, List.not_mem_nil, or_false] at hc
    rcases hc with rfl | rfl | rfl
    · exact ⟨fun s hs => hplain s (by obtain rfl := Option.some.inj hs; decide), hplain _ (by decide), by decide,
        by decide, by decide⟩
    · exact ⟨(fun _ hs => nomatch hs), hplain _ (by decide), by decide, by decide, by decide⟩
    · exact ⟨fun s hs => hplain s (by obtain rfl := Option.some.inj hs; decide), hplain _ (by decide), by decide,
        by decide, by decide⟩
  obtain ⟨scopes, hparse, -, -, hget⟩ := parseFilter_written _ hwritable
  exact ⟨scopes, hparse, (hget (some "posts")).trans (by decide)⟩

end Request
end TableGraph
