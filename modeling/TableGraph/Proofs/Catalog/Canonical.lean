import Mathlib.Data.List.Nodup
import TableGraph.Catalog.Basic
import TableGraph.Proofs.Catalog.Build
import TableGraph.Proofs.Schema.KeySets

/-! # The order of a schema does not show

A build takes the tables in the order of their names, and the foreign keys of each in ascending order
and each one once. So it makes the same of a schema and of its canonical form (`canonical`), and two
outlines that differ in the order of their tables, and in the order and repetition of foreign keys,
have the same canonical form. What is generated and the rendered text are the same for both.
-/
namespace TableGraph

/-! ## Ascending lists -/

theorem exists_key_of_mem {α : Type} (key : α → List String) {x : α} {l : List α} (h : x ∈ l) :
    ∃ y ∈ ascending key l, key y = key x := by
  induction l with
  | nil => cases h
  | cons a r ih =>
    rcases List.mem_cons.1 h with rfl | h
    · exact exists_mem_insertAscending key x x (.inl rfl)
    · obtain ⟨y, hy, he⟩ := ih h
      obtain ⟨z, hz, hk⟩ := exists_mem_insertAscending key a y (.inr hy)
      exact ⟨z, hz, hk.trans he⟩

/-- Two lists in ascending order that have the same members are one. -/
theorem eq_of_ascending {α : Type} {key : α → List String} {l m : List α} (hl : l.Pairwise fun a b => key a < key b)
    (hm : m.Pairwise fun a b => key a < key b) (h : ∀ x, x ∈ l ↔ x ∈ m) : l = m := by
  have hnodup {k : List α} (hk : k.Pairwise fun a b => key a < key b) : k.Nodup := by
    refine List.nodup_iff_pairwise_ne.2 (hk.imp ?_)
    intro a b hab he
    exact Std.lt_irrefl (he ▸ hab)
  refine List.Perm.eq_of_pairwise ?_ hl hm ((List.perm_ext_iff_of_nodup (hnodup hl) (hnodup hm)).2 h)
  intro a b _ _ hab hba
  exact absurd (List.lt_trans hab hba) Std.lt_irrefl

/-- Lists with the same members have one ascending form, if no two members share a key. -/
theorem ascending_eq {α : Type} {key : α → List String} {l m : List α}
    (hkey : ∀ a ∈ l, ∀ b ∈ l, key a = key b → a = b) (h : ∀ x, x ∈ l ↔ x ∈ m) :
    ascending key l = ascending key m := by
  have hmem : ∀ k : List α, (∀ x, x ∈ k ↔ x ∈ l) → ∀ x, x ∈ ascending key k ↔ x ∈ k := by
    intro k hk x
    refine ⟨mem_of_mem_ascending, fun hx => ?_⟩
    obtain ⟨y, hy, he⟩ := exists_key_of_mem key hx
    have hyx : y = x := hkey y ((hk y).1 (mem_of_mem_ascending hy)) x ((hk x).1 hx) he
    exact hyx ▸ hy
  refine eq_of_ascending (pairwise_ascending key l) (pairwise_ascending key m) fun x => ?_
  rw [hmem l (fun _ => .rfl), hmem m (fun y => (h y).symm), h]

theorem map_ascending {α β : Type} {key : α → List String} {key' : β → List String} {f : α → β}
    (hf : ∀ a, key' (f a) = key a) (l : List α) : (ascending key l).map f = ascending key' (l.map f) := by
  have hinsert (a : α) (l : List α) :
      (insertAscending key a l).map f = insertAscending key' (f a) (l.map f) := by
    induction l with
    | nil => rfl
    | cons b r ih =>
      simp only [insertAscending, List.map_cons, hf]
      split
      · rfl
      · split
        · rw [List.map_cons, ih]
        · rfl
  induction l with
  | nil => rfl
  | cons a r ih =>
    rw [List.map_cons]
    exact (hinsert a _).trans (congrArg _ ih)

/-! ## Canonical forms -/

namespace SchemaTable

/-- A table with its foreign keys in order. -/
def canonical (t : SchemaTable) : SchemaTable := { t with foreignKeys := t.sortedForeignKeys }

theorem sortedForeignKeys_eq {t u : SchemaTable} (h : ∀ f, f ∈ t.foreignKeys ↔ f ∈ u.foreignKeys) :
    t.sortedForeignKeys = u.sortedForeignKeys :=
  ascending_eq (fun _ _ _ _ => ForeignKey.key_injective) h

theorem sortedForeignKeys_canonical (t : SchemaTable) : t.canonical.sortedForeignKeys = t.sortedForeignKeys :=
  sortedForeignKeys_eq fun _ => mem_ascending_iff fun _ _ => ForeignKey.key_injective

end SchemaTable

namespace Generated

/-! ## Tables that keep their names -/

section NamesKept
variable {f : SchemaTable → SchemaTable} (hf : ∀ t, (f t).name = t.name)
include hf

theorem map_assigned (hashLength : Int) (used : List String) (tables : List SchemaTable) :
    (assignTypeNames hashLength used tables).map (fun p => (f p.1, p.2)) =
      assignTypeNames hashLength used (tables.map f) := by
  induction tables generalizing used with
  | nil => rfl
  | cons t r ih => simp only [assignTypeNames, List.map_cons, ih, hf]

/-- What changes of the tables but their names does not change the names of their types. -/
theorem named_map (hashLength : Int) (s : Schema) :
    named hashLength ⟨s.tables.map f⟩ = (named hashLength s).map fun p => (f p.1, p.2) := by
  have hkey (t : SchemaTable) : [(f t).name] = [t.name] := by rw [hf]
  have hsorted : (Schema.mk (s.tables.map f)).sortedTables = s.sortedTables.map f := (map_ascending hkey s.tables).symm
  rw [named, hsorted, ← map_assigned hf, named]

theorem basesOf_map (pairs : List (SchemaTable × String)) :
    basesOf (pairs.map fun p => (f p.1, p.2)) = basesOf pairs := by
  simp only [basesOf, List.map_map, Function.comp_def, hf]

end NamesKept

/-! ## The canonical schema -/

def canonicalPair (p : SchemaTable × String) : SchemaTable × String := (p.1.canonical, p.2)

theorem addTable_canonical (bases : Assoc String String) (s : BuildState) (p : SchemaTable × String) :
    addTable bases s (canonicalPair p) = addTable bases s p := by
  have hrelate : relate bases s.namer (canonicalPair p) = relate bases s.namer p := by
    unfold relate
    rw [show (canonicalPair p).1.sortedForeignKeys = p.1.sortedForeignKeys from
      SchemaTable.sortedForeignKeys_canonical p.1]
    rfl
  unfold addTable
  rw [hrelate]
  rfl

end Generated

namespace Schema
open Generated

def canonical (s : Schema) : Schema := ⟨s.tables.map SchemaTable.canonical⟩

/-- A build does not tell a schema from its canonical form. -/
theorem build_canonical (hashLength : Int) (s : Schema) : build hashLength s.canonical = build hashLength s := by
  have hname (t : SchemaTable) : t.canonical.name = t.name := rfl
  have hnamed : named hashLength s.canonical = (named hashLength s).map canonicalPair := named_map hname hashLength s
  have hbases : basesOf (named hashLength s.canonical) = basesOf (named hashLength s) := by
    rw [hnamed]
    exact basesOf_map hname _
  have hfold : ∀ start : BuildState,
      (named hashLength s.canonical).foldl (addTable (basesOf (named hashLength s))) start =
        (named hashLength s).foldl (addTable (basesOf (named hashLength s))) start := by
    intro start
    rw [hnamed, List.foldl_map]
    exact congrArg (fun step => List.foldl step start _) (funext₂ fun t p => addTable_canonical _ t p)
  simp only [build, hbases, hfold]

theorem isSound_canonical (s : Schema) : s.canonical.isSound = s.isSound := by
  rw [isSound, canonical, List.all_map]
  rfl

theorem build_eq {hashLength : Int} {s r : Schema} (hs : (s.tables.map (·.name)).Nodup)
    (h : s.canonical.tables.Perm r.canonical.tables) : build hashLength s = build hashLength r := by
  have hinj : ∀ a ∈ s.canonical.tables, ∀ b ∈ s.canonical.tables, [a.name] = [b.name] → a = b := by
    have hnodup : (s.canonical.tables.map (·.name)).Nodup := by
      rw [canonical, List.map_map]
      exact hs
    intro a ha b hb he
    exact List.inj_on_of_nodup_map hnodup ha hb (List.cons.inj he).1
  have hsorted : s.canonical.sortedTables = r.canonical.sortedTables := ascending_eq hinj fun _ => h.mem_iff
  have hnamed : named hashLength s.canonical = named hashLength r.canonical := by
    rw [named, named, hsorted]
  rw [← build_canonical hashLength s, ← build_canonical hashLength r]
  simp only [build, hnamed]

theorem isSound_eq {s r : Schema} (h : s.canonical.tables.Perm r.canonical.tables) : s.isSound = r.isSound := by
  rw [← isSound_canonical s, ← isSound_canonical r, Bool.eq_iff_iff]
  simp only [isSound, List.all_eq_true, h.mem_iff]

end Schema

/-! ## Outlines -/

/-- Two tables that differ at most in the order and the repetition of foreign keys. -/
structure OutlineTable.Alike (t u : OutlineTable) : Prop where
  name : t.name = u.name
  columns : t.columns = u.columns
  foreignKeys : ∀ f, f ∈ t.foreignKeys ↔ f ∈ u.foreignKeys

/-- Two outlines that differ at most in the order of their tables, and in those of the foreign keys. -/
def Outline.Alike (o p : Outline) : Prop :=
  ∃ tables, o.tables.Perm tables ∧ List.Forall₂ OutlineTable.Alike tables p.tables

namespace Outline

theorem canonical_schemaTable {t u : OutlineTable} (h : t.Alike u) :
    (schemaTable t).canonical = (schemaTable u).canonical := by
  have hkeys : (schemaTable t).sortedForeignKeys = (schemaTable u).sortedForeignKeys := by
    refine SchemaTable.sortedForeignKeys_eq fun f => ?_
    simp only [schemaTable, List.mem_filterMap, h.foreignKeys]
  have hsortable : (schemaTable t).sortable = (schemaTable u).sortable := OutlineKey.toBool_sorted_eq h.foreignKeys
  have hname : (schemaTable t).name = (schemaTable u).name := h.name
  have hcolumns : (schemaTable t).columns = (schemaTable u).columns := congrArg (List.map schemaColumn) h.columns
  simp only [SchemaTable.canonical, hkeys, hsortable, hname, hcolumns]

theorem Alike.canonical {o p : Outline} (h : o.Alike p) :
    o.schema.canonical.tables.Perm p.schema.canonical.tables := by
  obtain ⟨tables, hperm, halike⟩ := h
  have hsame : tables.map (fun t => (schemaTable t).canonical) = p.tables.map fun t => (schemaTable t).canonical := by
    generalize p.tables = others at halike
    clear hperm
    induction halike with
    | nil => rfl
    | cons hab _ ih => rw [List.map_cons, List.map_cons, canonical_schemaTable hab, ih]
  simp only [schema, Schema.canonical, List.map_map]
  exact (hperm.map _).trans (.of_eq hsame)

end Outline

namespace Catalog

theorem build_of_sound (c : Catalog) {s : Schema} (h : s.isSound = true) : c.build (some s) = (.ok (), c.adopt s) := by
  simp [build, h]

theorem build_of_unsound (c : Catalog) {s : Schema} (h : s.isSound = false) :
    c.build (some s) = (.error .wrongKind, { c with schema := some s }) := by
  simp [build, h]

/-- Right after a build the text is rendered anew. -/
theorem text_adopt (c : Catalog) (s : Schema) (refresh connected : Bool) :
    ((c.adopt s).text refresh connected).1 = (c.adopt s).render connected := by
  have hkept : (c.adopt s).kept? refresh connected = none := by
    unfold kept?
    split
    · simp [adopt]
    · rfl
  simp only [text, hkept]

end Catalog

/-- Catalogs with the same hash length, and the same added by hand, fail alike or generate the same from
outlines that differ in the order of tables and in the order and repetition of foreign keys, and they
render the same text. -/
theorem build_order_irrelevant {c d : Catalog} {o p : Outline} (hlength : c.hashLength = d.hashLength)
    (htypes : c.addedTypes = d.addedTypes) (hinputs : c.addedInputs = d.addedInputs)
    (hnames : (o.tables.map (·.name)).Nodup) (halike : o.Alike p) :
    (c.build (some o.schema)).1 = (d.build (some p.schema)).1 ∧
      ((c.build (some o.schema)).1 = .ok () →
        (c.build (some o.schema)).2.generated = (d.build (some p.schema)).2.generated ∧
        (c.build (some o.schema)).2.relationNames = (d.build (some p.schema)).2.relationNames ∧
        ∀ refresh connected,
          ((c.build (some o.schema)).2.text refresh connected).1 =
            ((d.build (some p.schema)).2.text refresh connected).1) := by
  have hcanonical := halike.canonical
  have hsound : o.schema.isSound = p.schema.isSound := Schema.isSound_eq hcanonical
  cases hs : o.schema.isSound with
  | false =>
    rw [c.build_of_unsound hs, d.build_of_unsound (hsound ▸ hs)]
    exact ⟨rfl, by simp⟩
  | true =>
    rw [c.build_of_sound hs, d.build_of_sound (hsound ▸ hs)]
    have hschema : (o.schema.tables.map (·.name)).Nodup := by
      rw [Outline.schema, List.map_map]
      exact hnames
    have hgenerated : (c.adopt o.schema).generated = (d.adopt p.schema).generated := by
      simp only [Catalog.adopt, hlength, Schema.build_eq hschema hcanonical]
    refine ⟨rfl, fun _ => ⟨hgenerated, ?_, ?_⟩⟩
    · simp only [Catalog.relationNames, hgenerated]
    · intro refresh connected
      have hadded : (c.adopt o.schema).addedTypes = (d.adopt p.schema).addedTypes ∧
          (c.adopt o.schema).addedInputs = (d.adopt p.schema).addedInputs := ⟨htypes, hinputs⟩
      rw [Catalog.text_adopt, Catalog.text_adopt]
      simp only [Catalog.render, Catalog.types, Catalog.inputs, hgenerated, hadded]

/-- A table with two foreign keys, and the table that they refer to. -/
def postsAndAuthors (foreignKeys : List OutlineKey) : OutlineTable × OutlineTable :=
  let column (name : String) : OutlineColumn := ⟨.text name, "INTEGER", true, false⟩
  (⟨"posts", [column "author_id", column "editor_id"], foreignKeys⟩, ⟨"authors", [column "id"], []⟩)

def postKey (column : String) : OutlineKey := ⟨.text column, .text "authors", .text "id"⟩

/-- The tables turned around, the keys too, and one key given twice. -/
theorem posts_and_authors_turned :
    let keys := [postKey "author_id", postKey "editor_id"]
    let turned := [postKey "editor_id", postKey "author_id", postKey "editor_id"]
    let o : Outline := ⟨[(postsAndAuthors keys).1, (postsAndAuthors keys).2]⟩
    let p : Outline := ⟨[(postsAndAuthors turned).2, (postsAndAuthors turned).1]⟩
    o.Alike p ∧ (({} : Catalog).build (some o.schema)).1 = .ok () ∧
      (({} : Catalog).build (some o.schema)).2.generated = (({} : Catalog).build (some p.schema)).2.generated ∧
      ((({} : Catalog).build (some o.schema)).2.text false true).1 =
        ((({} : Catalog).build (some p.schema)).2.text false true).1 := by
  intro keys turned o p
  have halike : o.Alike p := by
    refine ⟨[(postsAndAuthors keys).2, (postsAndAuthors keys).1], List.Perm.swap _ _ _, ?_⟩
    refine .cons ⟨rfl, rfl, fun _ => .rfl⟩ (.cons ⟨rfl, rfl, ?_⟩ .nil)
    intro f
    change f ∈ keys ↔ f ∈ turned
    simp only [keys, turned, List.mem_cons, List.not_mem_nil, or_false]
    constructor
    · rintro (h | h)
      · exact .inr (.inl h)
      · exact .inl h
    · rintro (h | h | h)
      · exact .inr h
      · exact .inl h
      · exact .inr h
  have hok : (({} : Catalog).build (some o.schema)).1 = .ok () := by
    have hs : o.schema.isSound = true := by decide +kernel
    rw [Catalog.build_of_sound _ hs]
  obtain ⟨-, hsame⟩ := build_order_irrelevant (c := {}) (d := {}) rfl rfl rfl (by decide) halike
  obtain ⟨hgenerated, -, htext⟩ := hsame hok
  exact ⟨halike, hok, hgenerated, htext false true⟩

end TableGraph
