import TableGraph.Proofs.Concurrency.Interleaving
import TableGraph.Proofs.Resolver.Put
import TableGraph.Proofs.Store.Keeping

/-! # Tables while others write

A write that goes well changes the rows of one table and nothing else (`Advances`). What a client knows of a table
holds after it as before: the table has the columns that it had, a row found under its key is still found there
(`Follows`), and the number of rows that meet some tests has drifted by one at most (`Drifts`).
-/
namespace TableGraph

/-- How many of the rows that meet some tests a write may take away. -/
def Call.loses : Call → Nat
  | .update .. => 1
  | _ => 0

namespace Resolver
open Chain Store
variable {ι : Type}

/-- A table before and after some writes: how many rows more meet some tests at most, and how many fewer. -/
structure Drifts (t u : StoredTable) (gained lost : Nat) : Prop where
  others : u = { t with rows := u.rows }
  more : ∀ bs, (u.chosen bs).length ≤ (t.chosen bs).length + gained
  fewer : ∀ bs, (t.chosen bs).length ≤ (u.chosen bs).length + lost

/-- A table as it is after a write that went well. Rows found under their key are still found there, and one row more
at most meets some tests, and fewer by what the write may take away. -/
structure Follows (t u : StoredTable) (lost : Nat) : Prop extends Drifts t u 1 lost where
  kept : u.Kept
  holds : ∀ name values, t.Holds name t.keyNames values → u.Holds name t.keyNames values

section Drifts
variable {t u v : StoredTable} {gained lost gained' lost' : Nat}

theorem drifts_refl (t : StoredTable) : Drifts t t 0 0 := ⟨rfl, fun _ => Nat.le_refl _, fun _ => Nat.le_refl _⟩

theorem Drifts.mono (h : Drifts t u gained lost) (hg : gained ≤ gained') (hl : lost ≤ lost') :
    Drifts t u gained' lost' where
  others := h.others
  more := fun bs => Nat.le_trans (h.more bs) (Nat.add_le_add_left hg _)
  fewer := fun bs => Nat.le_trans (h.fewer bs) (Nat.add_le_add_left hl _)

theorem Drifts.trans (h : Drifts t u gained lost) (h' : Drifts u v gained' lost') :
    Drifts t v (gained + gained') (lost + lost') where
  others := by rw [h'.others, h.others]
  more := by
    intro bs
    have hm := h.more bs
    have hm' := h'.more bs
    omega
  fewer := by
    intro bs
    have hf := h.fewer bs
    have hf' := h'.fewer bs
    omega

end Drifts

theorem Follows.keyNames {t u : StoredTable} {lost : Nat} (h : Follows t u lost) : u.keyNames = t.keyNames := by
  rw [h.others]
  rfl

section Tables
variable {known : List String} {s : Database} {name : String} {t u : StoredTable}

/-- One stored table has one name, however its case is written. -/
theorem sameName_of_tableNamed (hnamed : s.tableNamed known (some name) = .ok (name, t)) {other : String}
    {t' : StoredTable} (hother : s.tableNamed known (some other) = .ok (other, t')) (hname : t'.name = t.name) :
    sameName name other = true := by
  have h := Database.sameName_of_table? (table?_of_tableNamed hnamed)
  have h' := Database.sameName_of_table? (table?_of_tableNamed hother)
  simp only [sameName, decide_eq_true_eq] at h h' ⊢
  rw [← h, ← h', hname]

/-- What another name stands for after a write: the written table, or the same table as before. -/
theorem tableNamed_after (hnamed : s.tableNamed known (some name) = .ok (name, t)) (hname : u.name = t.name)
    {other : String} {t' : StoredTable} (hother : s.tableNamed known (some other) = .ok (other, t')) :
    (s.replace u).tableNamed known (some other) = .ok (other, t') ∨
      t' = t ∧ sameName name other = true ∧ (s.replace u).tableNamed known (some other) = .ok (other, u) := by
  rw [tableNamed_replace, hother, Except.map]
  by_cases hsame : t'.name = u.name
  · have hnames := sameName_of_tableNamed hnamed hother (hsame.trans hname)
    have hfind : s.table? name = s.table? other := by
      simp only [sameName, decide_eq_true_eq] at hnames
      simp only [Database.table?, sameName, hnames]
    rw [table?_of_tableNamed hnamed, table?_of_tableNamed hother] at hfind
    rw [if_pos hsame]
    exact .inr ⟨(Option.some.inj hfind).symm, hnames, rfl⟩
  · rw [if_neg hsame]
    exact .inl rfl

theorem tableNamed_before {other : String} {t' : StoredTable}
    (hother : (s.replace u).tableNamed known (some other) = .ok (other, t')) :
    ∃ before, s.tableNamed known (some other) = .ok (other, before) := by
  rw [tableNamed_replace] at hother
  obtain ⟨⟨same, before⟩, hbefore, he⟩ := map_eq_ok.1 hother
  obtain rfl : same = other := (Prod.mk.inj he).1
  exact ⟨before, hbefore⟩

end Tables

/-- The table of a name, if there is one, is kept by the store, and the resolver knows its key. -/
def Stands (r : Resolver ι) (known : List String) (s : Database) (name : String) : Prop :=
  ∀ t, s.tableNamed known (some name) = .ok (name, t) → t.Kept ∧ r.keyOf (some name) = t.keyNames

/-- A database before and after a write that goes well. -/
def Advances (known : List String) (s s' : Database) (lost : Nat) : Prop :=
  ∃ name t u, s.tableNamed known (some name) = .ok (name, t) ∧ s' = s.replace u ∧ Follows t u lost

section Advances
variable {known : List String} {s s' : Database} {name : String} {t u : StoredTable} {lost : Nat}

theorem Advances.after (h : Advances known s s' lost) (hnamed : s.tableNamed known (some name) = .ok (name, t)) :
    ∃ u, s'.tableNamed known (some name) = .ok (name, u) ∧ (u = t ∨ Follows t u lost) := by
  obtain ⟨other, before, u, hother, rfl, hu⟩ := h
  have hname : u.name = before.name := by rw [hu.others]
  rcases tableNamed_after hother hname hnamed with hsame | ⟨rfl, -, hsame⟩
  · exact ⟨t, hsame, .inl rfl⟩
  · exact ⟨u, hsame, .inr hu⟩

theorem Advances.before (h : Advances known s s' lost) (hnamed : s'.tableNamed known (some name) = .ok (name, u)) :
    ∃ t, s.tableNamed known (some name) = .ok (name, t) ∧ (u = t ∨ Follows t u lost) := by
  obtain ⟨t, ht⟩ : ∃ t, s.tableNamed known (some name) = .ok (name, t) := by
    obtain ⟨other, before, after, hother, rfl, hu⟩ := h
    exact tableNamed_before hnamed
  obtain ⟨u', hu', hcases⟩ := h.after ht
  obtain rfl := (Prod.mk.inj (Except.ok.inj (hu'.symm.trans hnamed))).2
  exact ⟨t, ht, hcases⟩

theorem Advances.returning (h : Advances known s s' lost) : s'.returning = s.returning := by
  obtain ⟨-, -, -, -, rfl, -⟩ := h
  rfl

theorem Stands.advance {r : Resolver ι} (h : Stands r known s name) (hs : Advances known s s' lost) :
    Stands r known s' name := by
  intro after hafter
  obtain ⟨before, hbefore, hcases⟩ := hs.before hafter
  obtain ⟨hkept, hkey⟩ := h before hbefore
  rcases hcases with rfl | hu
  · exact ⟨hkept, hkey⟩
  · exact ⟨hu.kept, hkey.trans hu.keyNames.symm⟩

end Advances

end Resolver
end TableGraph
