import Mathlib.Data.List.Find
import TableGraph.Proofs.Catalog.Compiled
import TableGraph.Proofs.Resolver.Defaults

/-! # What counts under one name

Names may be used twice: by two relations on one column, and by two tables with one type. In the
registry and among the defaults the last use counts. So of the relations on a column the last one
counts (`lastOn`), unless a later table comes in between (`later_default`, `later_entry`).
-/
namespace TableGraph

def lastOn (relations : List Relation) (column : String) : Option Relation :=
  relations.reverse.find? fun rel => rel.column = column

theorem lastOn_mem {relations : List Relation} {column : String} {last : Relation}
    (h : lastOn relations column = some last) : last ∈ relations ∧ last.column = column := by
  refine ⟨List.mem_reverse.1 (List.mem_of_find?_eq_some h), ?_⟩
  simpa using List.find?_some h

theorem exists_lastOn {relations : List Relation} {rel : Relation} (h : rel ∈ relations) :
    ∃ last, lastOn relations rel.column = some last := by
  refine Option.isSome_iff_exists.1 (List.find?_isSome.2 ⟨rel, List.mem_reverse.2 h, ?_⟩)
  simp

/-- Of entries made from relations, under keys that go by column, the last one on a column counts. -/
theorem get?_lastOn {κ ν : Type} [DecidableEq κ] {relations : List Relation} {column : String}
    {last : Relation} (h : lastOn relations column = some last) (entry : Relation → κ × ν)
    (hkey : ∀ q ∈ relations, (entry q).1 = (entry last).1 ↔ q.column = column) :
    Assoc.get? (relations.map entry).reverse (entry last).1 = some (entry last).2 := by
  have hfind : relations.reverse.find? (fun q => (entry q).1 = (entry last).1) = some last := by
    rw [← h]
    refine List.find?_congr ?_
    intro q hq
    exact decide_eq_decide.2 (hkey q (List.mem_reverse.1 hq))
  rw [Assoc.get?, ← List.map_reverse, List.find?_map]
  exact congrArg (fun o => (o.map entry).map Prod.snd) hfind

open Resolver

namespace Generated
variable {hashLength : Int} {schema : Schema}

/-! ## One table among the others -/

theorem mem_after_iff {α : Type} {key : α → String} {l before after : List α} {a b : α}
    (hl : l.Pairwise fun x y => key x < key y) (hsplit : l = before ++ a :: after) (hb : b ∈ l) :
    b ∈ after ↔ key a < key b := by
  rw [hsplit, List.pairwise_append] at hl
  obtain ⟨-, hafter, hbefore⟩ := hl
  constructor
  · intro hm
    exact (List.pairwise_cons.1 hafter).1 b hm
  · intro hlt
    rw [hsplit] at hb
    rcases List.mem_append.1 hb with hb | hb
    · exact absurd hlt (String.lt_asymm (hbefore b hb a List.mem_cons_self))
    · rcases List.mem_cons.1 hb with rfl | hb
      · exact absurd hlt (String.lt_irrefl _)
      · exact hb

theorem pairwise_tables : (build hashLength schema).tables.Pairwise fun t u => t.table < u.table := by
  rw [tables_eq, List.pairwise_map]
  exact (pairwise_named hashLength schema).filter _

theorem pairwise_emitted : (emitted hashLength schema).Pairwise fun p q => p.1.name < q.1.name :=
  (pairwise_named hashLength schema).filter _

theorem same_of_table {t u : TableTypes} (ht : t ∈ (build hashLength schema).tables)
    (hu : u ∈ (build hashLength schema).tables) (he : t.table = u.table) : t = u :=
  List.inj_on_of_nodup_map (nodup_of_ascending pairwise_tables) ht hu he

/-! ## The default of a relation field -/

def relationDefault (rel : Relation) : (String × String) × (Default × String) :=
  ((rel.type, rel.field), (.related rel, rel.referencedTable))

/-- Under the type of a table only its relations make defaults. -/
theorem get?_defaultEntries_single {t : TableTypes} (ht : t ∈ (build hashLength schema).tables) (field : String) :
    Assoc.get? (defaultEntries [t]).reverse (t.type, field) =
      Assoc.get? (t.relations.map relationDefault).reverse (t.type, field) := by
  obtain ⟨hquery, hmutation⟩ := type_ne_root ht
  have he : defaultEntries [t] =
      [((queryType, t.listField), (.page, t.table)), ((queryType, t.firstField), (.first, t.table)),
        ((mutationType, t.putField), (.put, t.table))] ++ t.relations.map relationDefault := by
    simp [defaultEntries, defaultsOf, relationDefault, Function.comp_def]
  rw [he, List.reverse_append, Assoc.get?_append]
  simp [Assoc.get?_cons, hquery.symm, hmutation.symm]

/-- A default that a later table makes under the type of a table follows a relation of the later one. -/
theorem later_default {before after : List TableTypes} {t : TableTypes} {field : String} {d : Default × String}
    (hsplit : (build hashLength schema).tables = before ++ t :: after)
    (h : Assoc.get? (defaultEntries after).reverse (t.type, field) = some d) :
    ∃ u ∈ (build hashLength schema).tables, t.table < u.table ∧ ∃ rel ∈ u.relations,
      u.type = t.type ∧ rel.field = field ∧ d.1 = .related rel := by
  have ht : t ∈ (build hashLength schema).tables := by simp [hsplit]
  obtain ⟨hquery, hmutation⟩ := type_ne_root ht
  obtain ⟨u, hu, hd⟩ := mem_defaultEntries.1 (List.mem_reverse.1 (Assoc.mem_of_get? h))
  have hut : u ∈ (build hashLength schema).tables := by simp [hsplit, hu]
  refine ⟨u, hut, (mem_after_iff pairwise_tables hsplit hut).1 hu, ?_⟩
  rcases mem_defaultsOf.1 hd with ⟨he, -⟩ | ⟨he, -⟩ | ⟨he, -⟩ | ⟨rel, hr, htype, hfield, hdefault, -⟩
  · exact absurd he hquery
  · exact absurd he hquery
  · exact absurd he hmutation
  · exact ⟨rel, hr, (relation_origin hut hr).1.symm.trans htype, hfield, hdefault.symm⟩

section Register
variable {ι : Type} {r : Resolver ι} {c : Catalog} {before after : List TableTypes} {t : TableTypes}
variable (hc : c.generated = build hashLength schema)
  (hsplit : (build hashLength schema).tables = before ++ t :: after)
include hc hsplit

theorem default?_of_later {field : String} {d : Default × String}
    (h : Assoc.get? (defaultEntries after).reverse (t.type, field) = some d) :
    (r.register c).default? t.type field = some (d.1, some d.2) := by
  have he : t :: after = [t] ++ after := rfl
  rw [default?_register, hc, hsplit, he, defaultEntries_append, defaultEntries_append, List.reverse_append,
    List.reverse_append, Assoc.get?_append, Assoc.get?_append, h]
  rfl

/-- If no later table interferes, the last relation on a column is followed. -/
theorem default?_of_last {column : String} {last : Relation} (hlast : lastOn t.relations column = some last)
    (h : Assoc.get? (defaultEntries after).reverse (t.type, last.field) = none) :
    (r.register c).default? t.type last.field = some (.related last, some last.referencedTable) := by
  have ht : t ∈ (build hashLength schema).tables := by simp [hsplit]
  have hkey : ∀ q ∈ t.relations, (relationDefault q).1 = (relationDefault last).1 ↔ q.column = column := by
    intro q hq
    obtain ⟨hm, hcolumn⟩ := lastOn_mem hlast
    rw [← hcolumn, ← relation_field_eq_iff ht hq hm]
    simp [relationDefault, (relation_origin ht hq).1, (relation_origin ht hm).1]
  have hown := get?_lastOn hlast relationDefault hkey
  rw [relationDefault, (relation_origin ht (lastOn_mem hlast).1).1] at hown
  have he : t :: after = [t] ++ after := rfl
  rw [default?_register, hc, hsplit, he, defaultEntries_append, defaultEntries_append, List.reverse_append,
    List.reverse_append, Assoc.get?_append, Assoc.get?_append, h, get?_defaultEntries_single ht, hown]
  rfl

end Register

/-! ## The type of a relation field -/

theorem get?_bases_named {q : SchemaTable × String} (hq : q ∈ named hashLength schema) :
    (basesOf (named hashLength schema)).get? q.1.name = some q.2 := by
  have hn : (basesOf (named hashLength schema)).keys.Nodup := by
    have hkeys : (basesOf (named hashLength schema)).keys = (named hashLength schema).map fun p => p.1.name := by
      simp [basesOf, Assoc.keys]
    rw [hkeys]
    exact nodup_named hashLength schema
  exact Assoc.get?_eq_some_of_mem hn (List.mem_map.2 ⟨q, hq, rfl⟩)

theorem get?_bases {u : TableTypes} (hu : u ∈ (build hashLength schema).tables) :
    (basesOf (named hashLength schema)).get? u.table = some u.type := by
  obtain ⟨q, hq, rfl⟩ := compiled_of_mem_tables hu
  exact get?_bases_named (List.mem_filter.1 hq).1

theorem get?_fields_of_last {p : SchemaTable × String} {column : String} {last : Relation}
    (hlast : lastOn (outcomeOf hashLength schema p).relations column = some last)
    {u : TableTypes} (hu : u ∈ (build hashLength schema).tables) (he : u.table = last.referencedTable) :
    (Assoc.get? (outcomeOf hashLength schema p).fields last.field).map (·.returns) =
      some (.named u.type) := by
  have hrelated := related_outcome hashLength (basesOf (named hashLength schema)) p
  obtain ⟨hm, hcolumn⟩ := lastOn_mem hlast
  have hown := get?_lastOn hlast (relationEntry (basesOf (named hashLength schema))) fun q hq => by
    rw [← hcolumn]
    exact hrelated.field_eq_iff hq hm
  rw [relationEntry] at hown
  rw [hrelated.fields, Assoc.get?_overlay, hown, ← he, get?_bases hu]
  rfl

theorem later_entry {before after : List (SchemaTable × String)} {p : SchemaTable × String} {fields : Fields}
    (hsplit : emitted hashLength schema = before ++ p :: after)
    (h : Assoc.get? (after.flatMap (entriesOf hashLength schema)).reverse p.2 =
      some fields) :
    ∃ q ∈ emitted hashLength schema, p.1.name < q.1.name ∧
      (q.2 = p.2 ∧ fields = (outcomeOf hashLength schema q).fields ∨
        TableTypes.pageOf q.2 = p.2 ∧ fields = pageFields q.2) := by
  obtain ⟨q, hq, hm⟩ := List.mem_flatMap.1 (List.mem_reverse.1 (Assoc.mem_of_get? h))
  have hqe : q ∈ emitted hashLength schema := by simp [hsplit, hq]
  refine ⟨q, hqe, (mem_after_iff pairwise_emitted hsplit hqe).1 hq, ?_⟩
  simp only [typeEntries, List.mem_cons, List.not_mem_nil, or_false, Prod.mk.injEq] at hm
  rcases hm with ⟨he, hf⟩ | ⟨he, hf⟩
  · exact .inl ⟨he.symm, hf⟩
  · exact .inr ⟨he.symm, hf⟩

theorem get?_types_split {before after : List (SchemaTable × String)} {p : SchemaTable × String}
    (hsplit : emitted hashLength schema = before ++ p :: after) :
    (build hashLength schema).types.get? p.2 =
      (Assoc.get? (after.flatMap (entriesOf hashLength schema)).reverse p.2).or
        (some (outcomeOf hashLength schema p).fields) := by
  have hp : p ∈ emitted hashLength schema := by simp [hsplit]
  have hquery : p.2 ≠ queryType := (type_ne_root (mem_tables_of_emitted hp)).1
  have hmutation : p.2 ≠ mutationType := (type_ne_root (mem_tables_of_emitted hp)).2
  have hpage : TableTypes.pageOf p.2 ≠ p.2 := by
    intro he
    have hl := congrArg String.length he
    have hlead : "Page".length = 4 := by decide
    rw [TableTypes.pageOf, String.length_append] at hl
    omega
  have hown : Assoc.get? (entriesOf hashLength schema p).reverse p.2 =
      some (outcomeOf hashLength schema p).fields := by
    simp [typeEntries, Assoc.get?_cons, hpage]
  rw [get?_types_table hashLength schema hquery hmutation, hsplit, List.flatMap_append, List.flatMap_cons,
    List.reverse_append, List.reverse_append, Assoc.get?_append, Assoc.get?_append, hown, Option.or_assoc,
    Option.some_or]

/-- A field typed by an object type is a relation, in what a later table put under a type, too. -/
theorem relation_of_later_entry {p q : SchemaTable × String} {fields : Fields} {name type : String}
    (hfields : q.2 = p.2 ∧ fields = (outcomeOf hashLength schema q).fields ∨
      TableTypes.pageOf q.2 = p.2 ∧ fields = pageFields q.2)
    (hname : (Assoc.get? fields name).map (·.returns) = some (.named type)) (htype : type ∉ Name.reservedTypes) :
    q.2 = p.2 ∧ ∃ rel ∈ (outcomeOf hashLength schema q).relations, rel.field = name := by
  obtain ⟨f, hf, hreturns⟩ := Option.map_eq_some_iff.1 hname
  rcases hfields with ⟨he, rfl⟩ | ⟨-, rfl⟩
  · refine ⟨he, ?_⟩
    rw [(related_outcome hashLength (basesOf (named hashLength schema)) q).fields, Assoc.get?_overlay] at hf
    rcases Option.or_eq_some_iff.1 hf with hf | ⟨-, hf⟩
    · obtain ⟨rel, hr, hentry⟩ := List.mem_map.1 (List.mem_reverse.1 (Assoc.mem_of_get? hf))
      exact ⟨rel, hr, (Prod.mk.inj hentry).1⟩
    · obtain ⟨scalar, hscalar, hs⟩ := returns_of_scalarField hf
      rw [hreturns] at hs
      cases hs
      exact absurd hscalar htype
  · have hm := Assoc.mem_of_get? hf
    simp only [pageFields, List.mem_cons, List.not_mem_nil, or_false, Prod.mk.injEq] at hm
    rcases hm with ⟨-, rfl⟩ | ⟨-, rfl⟩
    · cases hreturns
      exact absurd (by decide) htype
    · cases hreturns

end Generated

end TableGraph
