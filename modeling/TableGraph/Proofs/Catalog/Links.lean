import Mathlib.Data.List.Dedup
import TableGraph.Proofs.Catalog.Canonical
import TableGraph.Proofs.Naming.History

/-! # What shows of a foreign key

A relation field is named and typed by the column of its foreign key and the table that this refers to.
The column referred to is kept for following the relation only. So the types, the inputs and the relation
names of a build are those of the schema without these columns (`build_bare`), in which keys that led
to several columns of one table have become one.
-/
namespace TableGraph

/-! ## Steps that bear repetition -/

/-- A step that does nothing the second time gives the same over a list in order as over its members. -/
theorem foldl_dedup {α σ : Type} [DecidableEq α] {key : α → List String} (hkey : ∀ a b, key a = key b → a = b)
    {step : σ → α → σ} (hstep : ∀ s a, step (step s a) a = step s a) {l : List α}
    (hl : l.Pairwise fun a b => ¬ key b < key a) (s : σ) : l.dedup.foldl step s = l.foldl step s := by
  induction l generalizing s with
  | nil => rfl
  | cons a r ih =>
    obtain ⟨ha, hr⟩ := List.pairwise_cons.1 hl
    by_cases hm : a ∈ r
    · rw [List.dedup_cons_of_mem hm, ih hr]
      cases r with
      | nil => cases hm
      | cons b q =>
        -- what equals the first member stands right behind it
        have hba : b = a := by
          rcases List.mem_cons.1 hm with he | hq
          · exact he.symm
          · have hab : ¬ key a < key b := (List.pairwise_cons.1 hr).1 a hq
            exact hkey b a (Std.le_antisymm (Std.not_lt.1 hab) (Std.not_lt.1 (ha b List.mem_cons_self)))
        rw [hba, List.foldl_cons, List.foldl_cons, List.foldl_cons, hstep]
    · rw [List.dedup_cons_of_notMem hm, List.foldl_cons, List.foldl_cons, ih hr]

/-! ## Foreign keys without the column referred to -/

def ForeignKey.bare (f : ForeignKey) : ForeignKey := { f with referencedColumn := "" }

theorem ForeignKey.bare_not_lt {f g : ForeignKey} (h : f.key < g.key) : ¬ g.bare.key < f.bare.key := by
  simp only [key, bare, List.cons_lt_cons_iff, List.not_lt_nil, and_false, or_false] at h ⊢
  rintro (hc | ⟨hc, ht | ⟨-, hlast⟩⟩)
  · rcases h with h | ⟨h, -⟩
    · exact String.lt_asymm h hc
    · exact String.lt_irrefl _ (h ▸ hc)
  · rcases h with h | ⟨-, h | ⟨h, -⟩⟩
    · exact String.lt_irrefl _ (hc ▸ h)
    · exact String.lt_asymm h ht
    · exact String.lt_irrefl _ (h ▸ ht)
  · exact String.lt_irrefl _ hlast

namespace SchemaTable

def bare (t : SchemaTable) : SchemaTable := { t with foreignKeys := t.foreignKeys.map ForeignKey.bare }

theorem pairwise_bare (t : SchemaTable) :
    (t.sortedForeignKeys.map ForeignKey.bare).Pairwise fun f g => ¬ g.key < f.key := by
  rw [List.pairwise_map]
  exact (pairwise_ascending ForeignKey.key t.foreignKeys).imp ForeignKey.bare_not_lt

theorem sortedForeignKeys_bare (t : SchemaTable) :
    t.bare.sortedForeignKeys = (t.sortedForeignKeys.map ForeignKey.bare).dedup := by
  have hstrict : (t.sortedForeignKeys.map ForeignKey.bare).dedup.Pairwise fun f g => f.key < g.key := by
    have hle := t.pairwise_bare.sublist (List.dedup_sublist _)
    have hne := List.nodup_iff_pairwise_ne.1 (List.nodup_dedup (t.sortedForeignKeys.map ForeignKey.bare))
    refine (hle.and hne).imp ?_
    rintro f g ⟨hno, hfg⟩
    exact Std.lt_of_le_of_ne (Std.not_lt.1 hno) fun he => hfg (ForeignKey.key_injective he)
  refine eq_of_ascending (pairwise_ascending ForeignKey.key _) hstrict fun f => ?_
  have hinj (f g : ForeignKey) : f.key = g.key → f = g := ForeignKey.key_injective
  change f ∈ ascending ForeignKey.key (t.foreignKeys.map ForeignKey.bare) ↔ _
  rw [mem_ascending_iff hinj, List.mem_dedup, List.mem_map, List.mem_map]
  simp only [sortedForeignKeys, mem_ascending_iff hinj]

end SchemaTable

namespace Generated

/-! ## Relations of one table -/

/-- What one foreign key adds to the names and to the fields of a table. -/
def addLink (bases : Assoc String String) (table : String) (s : Namer × Fields) (f : ForeignKey) : Namer × Fields :=
  match bases.get? f.referencedTable with
  | none => s
  | some target =>
    if s.2.has f.column then
      let (name, namer) := s.1.assign table f.column f.referencedTable
      (namer, s.2.put name ⟨name, .named target, pageArgs⟩)
    else s

def RelationState.shown (s : RelationState) : Namer × Fields := (s.namer, s.fields)

theorem shown_addRelation (bases : Assoc String String) (table type : String) (s : RelationState) (f : ForeignKey) :
    (addRelation bases table type s f).shown = addLink bases table s.shown f := by
  cases ht : bases.get? f.referencedTable with
  | none => simp only [addRelation, addLink, ht]
  | some target =>
    by_cases hc : s.fields.has f.column = true
    · simp only [addRelation, addLink, RelationState.shown, ht, hc, if_true]
    · simp only [addRelation, addLink, RelationState.shown, ht, hc, if_false, Bool.false_eq_true]

/-- A foreign key that was gone through adds nothing more: its column holds its name, and the field stands. -/
theorem addLink_addLink (bases : Assoc String String) (table : String) (s : Namer × Fields) (f : ForeignKey) :
    addLink bases table (addLink bases table s f) f = addLink bases table s f := by
  cases ht : bases.get? f.referencedTable with
  | none => simp only [addLink, ht]
  | some target =>
    by_cases hc : s.2.has f.column = true
    · have hfirst : addLink bases table s f =
          ((s.1.assign table f.column f.referencedTable).2,
            s.2.put (s.1.assign table f.column f.referencedTable).1
              ⟨(s.1.assign table f.column f.referencedTable).1, .named target, pageArgs⟩) := by
        simp only [addLink, ht, hc, if_true]
      generalize hassigned : s.1.assign table f.column f.referencedTable = assigned at hfirst
      have hheld : assigned.2.lookup table f.column = some assigned.1 := by
        have hlookup := Namer.lookup_assign s.1 table f.column f.referencedTable table f.column
        rwa [if_pos ⟨rfl, rfl⟩, hassigned] at hlookup
      have hcolumn : (s.2.put assigned.1 ⟨assigned.1, .named target, pageArgs⟩).has f.column = true := by
        rw [Assoc.has_iff, Assoc.keys_put]
        rw [Assoc.has_iff] at hc
        split
        · exact hc
        · exact List.mem_append_left _ hc
      rw [hfirst]
      simp only [addLink, ht, hcolumn, if_true, Namer.assign_of_held hheld, Assoc.put_put]
    · simp only [addLink, ht, hc, if_false, Bool.false_eq_true]

theorem shown_relate_bare (bases : Assoc String String) (n : Namer) (p : SchemaTable × String) :
    (relate bases n (p.1.bare, p.2)).shown = (relate bases n p).shown := by
  have hfold (keys : List ForeignKey) (s : RelationState) :
      (keys.foldl (addRelation bases p.1.name p.2) s).shown = keys.foldl (addLink bases p.1.name) s.shown :=
    (List.foldl_hom RelationState.shown fun s f => (shown_addRelation bases p.1.name p.2 s f).symm).symm
  have hmap (keys : List ForeignKey) (s : Namer × Fields) :
      (keys.map ForeignKey.bare).foldl (addLink bases p.1.name) s = keys.foldl (addLink bases p.1.name) s :=
    List.foldl_map
  have hdedup := foldl_dedup (fun _ _ => ForeignKey.key_injective) (addLink_addLink bases p.1.name) p.1.pairwise_bare
  let start : RelationState :=
    { namer := n.reserve p.1.name (Assoc.keys (scalarFields p.1)), fields := scalarFields p.1 }
  calc (relate bases n (p.1.bare, p.2)).shown
      = p.1.bare.sortedForeignKeys.foldl (addLink bases p.1.name) start.shown := hfold _ start
    _ = p.1.sortedForeignKeys.foldl (addLink bases p.1.name) start.shown := by
        rw [SchemaTable.sortedForeignKeys_bare, hdedup, hmap]
    _ = (relate bases n p).shown := (hfold _ start).symm

/-! ## Builds -/

/-- Two states of a build that differ at most in the tables listed. -/
structure BuildState.ShowsSame (s t : BuildState) : Prop where
  namer : s.namer = t.namer
  types : s.types = t.types
  inputs : s.inputs = t.inputs
  query : s.query = t.query
  mutation : s.mutation = t.mutation

theorem BuildState.ShowsSame.addTable {bases : Assoc String String} {s t : BuildState} (h : s.ShowsSame t)
    (p : SchemaTable × String) : (addTable bases s (p.1.bare, p.2)).ShowsSame (addTable bases t p) := by
  obtain ⟨hnamer, hfields⟩ := Prod.mk.inj (shown_relate_bare bases t.namer p)
  unfold Generated.addTable
  dsimp only
  rw [h.namer, hnamer, hfields, h.types, h.inputs, h.query, h.mutation]
  split <;> exact ⟨rfl, rfl, rfl, rfl, rfl⟩

theorem BuildState.ShowsSame.foldl {bases : Assoc String String} {s t : BuildState} (h : s.ShowsSame t)
    (pairs : List (SchemaTable × String)) :
    ((pairs.map fun p => (p.1.bare, p.2)).foldl (Generated.addTable bases) s).ShowsSame
      (pairs.foldl (Generated.addTable bases) t) := by
  induction pairs generalizing s t with
  | nil => exact h
  | cons p r ih => exact ih (h.addTable p)

/-- Two results of a build that differ at most in the tables listed. -/
structure ShowsSame (g h : Generated) : Prop where
  types : g.types = h.types
  inputs : g.inputs = h.inputs
  relationNames : g.relationNames = h.relationNames

end Generated

namespace Schema
open Generated

def bare (s : Schema) : Schema := ⟨s.tables.map SchemaTable.bare⟩

end Schema

end TableGraph
