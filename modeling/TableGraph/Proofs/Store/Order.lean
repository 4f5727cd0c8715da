import Mathlib.Data.List.Pairwise
import TableGraph.Proofs.Store.Writing

/-! # The order of rows

Cells are ordered, up to those that are the same (`lt_trans`, `lt_or_same_or_lt`), and so are rows by any
columns in any directions (`comesBefore_trans`, `comesBefore_total`). Sorting rows by the key puts them in
ascending order of it, strictly where no two of them agree in the key (`sorted_ascending`).
-/
namespace TableGraph.Store

namespace Cell

theorem place_lt_trans {p q r : Binary64.Place} (hpq : p.lt q = true) (hqr : q.lt r = true) : p.lt r = true := by
  cases p <;> cases q <;> cases r <;> simp_all [Binary64.Place.lt]
  omega

theorem rank_le_of_lt {a b : Cell} (h : a.lt b = true) : a.rank ≤ b.rank := by
  rw [lt] at h
  split at h
  · exact Nat.le_of_lt (of_decide_eq_true h)
  · omega

theorem lt_of_rank_lt {a b : Cell} (h : a.rank < b.rank) : a.lt b = true := by
  rw [lt, if_pos (Nat.ne_of_lt h), decide_eq_true_eq]
  exact h

theorem lt_trans {a b c : Cell} (hab : a.lt b = true) (hbc : b.lt c = true) : a.lt c = true := by
  have hle := rank_le_of_lt hab
  have hle' := rank_le_of_lt hbc
  by_cases hrank : a.rank < c.rank
  · exact lt_of_rank_lt hrank
  · have hb : b.rank = c.rank := by omega
    have ha : a.rank = c.rank := by omega
    rw [lt, if_neg (by omega), ha] at hab ⊢
    rw [lt, if_neg (by omega), hb] at hbc
    split at hab <;> rename_i hc <;> simp only [hc, decide_eq_true_eq] at hab hbc ⊢
    · exact place_lt_trans hab hbc
    · exact List.lt_trans hab hbc
    · exact List.lt_trans hab hbc
    · cases hab

@[simp] theorem same_refl (a : Cell) : a.same a = true := (same_iff a a).2 ⟨rfl, rfl, rfl, rfl⟩

theorem not_same_of_lt {a b : Cell} (h : a.lt b = true) : a.same b = false := by
  rw [same, h]
  rfl

theorem same_comm (a b : Cell) : a.same b = b.same a := by rw [same, same, Bool.and_comm]

/-- Only null is the same as null. -/
theorem isNull_of_same {a b : Cell} (h : a.same b = true) : a.isNull = b.isNull := by
  have hrank := ((same_iff a b).1 h).1
  cases a <;> cases b <;> simp_all [rank, isNull]

/-- Of two cells that are not the same one comes before the other. -/
theorem lt_or_lt_of_not_same {a b : Cell} (h : a.same b = false) : a.lt b = true ∨ b.lt a = true := by
  rw [same, Bool.and_eq_false_iff, Bool.not_eq_false', Bool.not_eq_false'] at h
  exact h

theorem lt_congr {a a' b b' : Cell} (ha : a.same a' = true) (hb : b.same b' = true) : a.lt b = a'.lt b' := by
  obtain ⟨hrank, hplace, hchars, hbytes⟩ := (same_iff a a').1 ha
  obtain ⟨hrank', hplace', hchars', hbytes'⟩ := (same_iff b b').1 hb
  simp only [lt, hrank, hplace, hchars, hbytes, hrank', hplace', hchars', hbytes']

end Cell

namespace StoredTable
variable {t : StoredTable}

/-- Whether a cell comes before another one in a direction. -/
def ahead : Direction → Cell → Cell → Bool
  | .asc, a, b => a.lt b
  | .desc, a, b => b.lt a

theorem ahead_trans {d : Direction} {a b c : Cell} (hab : ahead d a b = true) (hbc : ahead d b c = true) :
    ahead d a c = true := by
  cases d with
  | asc => exact Cell.lt_trans hab hbc
  | desc => exact Cell.lt_trans hbc hab

theorem ahead_congr {a a' b b' : Cell} (ha : a.same a' = true) (hb : b.same b' = true) (d : Direction) :
    ahead d a b = ahead d a' b' := by
  cases d with
  | asc => exact Cell.lt_congr ha hb
  | desc => exact Cell.lt_congr hb ha

theorem not_same_of_ahead {d : Direction} {a b : Cell} (h : ahead d a b = true) : a.same b = false := by
  cases d with
  | asc => exact Cell.not_same_of_lt h
  | desc => exact (Cell.same_comm a b).trans (Cell.not_same_of_lt h)

theorem comesBefore_cons (column : String) (d : Direction) (rest : List (String × Direction)) (a b : Cells) :
    t.comesBefore ((column, d) :: rest) a b = true ↔
      ahead d (t.cellAt a column) (t.cellAt b column) = true ∨
        (t.cellAt a column).same (t.cellAt b column) = true ∧ t.comesBefore rest a b = true := by
  have hdef : t.comesBefore ((column, d) :: rest) a b =
      if (t.cellAt a column).same (t.cellAt b column) then t.comesBefore rest a b
      else ahead d (t.cellAt a column) (t.cellAt b column) := by
    rw [comesBefore.eq_def]
    cases d <;> rfl
  rw [hdef]
  cases hsame : (t.cellAt a column).same (t.cellAt b column) with
  | true =>
    have hno : ahead d (t.cellAt a column) (t.cellAt b column) ≠ true := fun h =>
      nomatch hsame.symm.trans (not_same_of_ahead h)
    simp [hno]
  | false => simp

theorem comesBefore_trans (order : List (String × Direction)) (a b c : Cells)
    (hab : t.comesBefore order a b = true) (hbc : t.comesBefore order b c = true) :
    t.comesBefore order a c = true := by
  induction order with
  | nil => rfl
  | cons p rest ih =>
    obtain ⟨column, d⟩ := p
    rw [comesBefore_cons] at hab hbc ⊢
    rcases hab with hab | ⟨hab, hab'⟩ <;> rcases hbc with hbc | ⟨hbc, hbc'⟩
    · exact .inl (ahead_trans hab hbc)
    · exact .inl (ahead_congr (Cell.same_refl _) hbc d ▸ hab)
    · exact .inl (ahead_congr hab (Cell.same_refl _) d ▸ hbc)
    · exact .inr ⟨Cell.same_trans hab hbc, ih hab' hbc'⟩

theorem comesBefore_total (order : List (String × Direction)) (a b : Cells) :
    (t.comesBefore order a b || t.comesBefore order b a) = true := by
  rw [Bool.or_eq_true]
  induction order with
  | nil => exact .inl rfl
  | cons p rest ih =>
    obtain ⟨column, d⟩ := p
    rw [comesBefore_cons, comesBefore_cons]
    cases hsame : (t.cellAt a column).same (t.cellAt b column) with
    | true =>
      rcases ih with ih | ih
      · exact .inl (.inr ⟨rfl, ih⟩)
      · exact .inr (.inr ⟨Cell.same_symm hsame, ih⟩)
    | false =>
      rcases Cell.lt_or_lt_of_not_same hsame with h | h <;> cases d
      · exact .inl (.inl h)
      · exact .inr (.inl h)
      · exact .inr (.inl h)
      · exact .inl (.inl h)

/-- A row comes before another one in the order of some columns: in the first column in which their cells
are not the same, its cell is the lesser one. -/
def KeyBefore (t : StoredTable) (columns : List String) (a b : Cells) : Prop :=
  ∃ before column after, columns = before ++ column :: after ∧
    (∀ c ∈ before, (t.cellAt a c).same (t.cellAt b c) = true) ∧ (t.cellAt a column).lt (t.cellAt b column) = true

theorem keyBefore_of_comesBefore {columns : List String} {a b : Cells}
    (h : t.comesBefore (columns.map fun c => (c, .asc)) a b = true)
    (hne : ∃ c ∈ columns, (t.cellAt a c).same (t.cellAt b c) = false) : t.KeyBefore columns a b := by
  induction columns with
  | nil =>
    obtain ⟨c, hc, -⟩ := hne
    cases hc
  | cons column rest ih =>
    rw [List.map_cons, comesBefore_cons] at h
    rcases h with h | ⟨hsame, h⟩
    · exact ⟨[], column, rest, rfl, by simp, h⟩
    · have hlater : ∃ c ∈ rest, (t.cellAt a c).same (t.cellAt b c) = false := by
        obtain ⟨c, hc, hno⟩ := hne
        rcases List.mem_cons.1 hc with rfl | hc
        · rw [hsame] at hno
          cases hno
        · exact ⟨c, hc, hno⟩
      obtain ⟨before, c, after, rfl, hbefore, hlt⟩ := ih h hlater
      exact ⟨column :: before, c, after, rfl, List.forall_mem_cons.2 ⟨hsame, hbefore⟩, hlt⟩

theorem agree_comm (t : StoredTable) (a b : Cells) (columns : List String) :
    t.agree a b columns = t.agree b a columns := by
  unfold agree
  congr 1
  funext c
  rw [Cell.same_comm]
  cases hsame : (t.cellAt b c).same (t.cellAt a c) with
  | true => rw [Cell.isNull_of_same hsame]
  | false => simp

/-- Rows of which no two agree in the key, sorted by it, are in strictly ascending order of the key. -/
theorem sorted_ascending {rows : List Cells}
    (hgiven : ∀ row ∈ rows, ∀ c ∈ t.keyColumns, (t.cellAt row c.name).isNull = false)
    (hunique : rows.Pairwise fun a b => t.agree a b t.keyNames = false) :
    (t.sorted [] rows).Pairwise (t.KeyBefore t.keyNames) := by
  have hperm : (t.sorted [] rows).Perm rows := List.mergeSort_perm rows _
  have horder : (t.sorted [] rows).Pairwise fun a b => t.comesBefore (t.orderOr []) a b = true :=
    List.pairwise_mergeSort (comesBefore_trans _) (comesBefore_total _) rows
  have hapart := hunique.perm hperm.symm fun {a b} h => (t.agree_comm b a _).trans h
  refine (horder.and hapart).imp_of_mem fun {a b} ha hb ⟨hab, hne⟩ => ?_
  have hcolumns : t.orderOr [] = t.keyNames.map fun c => (c, .asc) := by
    simp [orderOr]
  rw [hcolumns] at hab
  refine keyBefore_of_comesBefore hab ?_
  rw [agree, List.all_eq_false] at hne
  obtain ⟨column, hc, hne⟩ := hne
  obtain ⟨c, hc', rfl⟩ := List.mem_map.1 hc
  refine ⟨c.name, hc, ?_⟩
  simpa [hgiven a (hperm.mem_iff.1 ha) c hc'] using hne

end StoredTable
end TableGraph.Store
