import Mathlib.Data.List.Nodup
import Mathlib.Data.List.Pairwise
import TableGraph.Proofs.Catalog.Build
import TableGraph.Proofs.Naming.TypeName

/-! # The type names of all tables

The three names of a table are one base name behind three prefixes (`mem_typeNames_iff`). A base name
is checked against the names before it, but one with a digest is not checked again. The tables whose
names meet are therefore those of which one has a digest and the shapes of the names fit
(`Clash`).
-/
namespace TableGraph

/-- The prefixes of the object type, the page type and the input type. -/
def typePrefixes : List String := ["", "Page", "Input"]

theorem mem_typeNames_iff {name base : String} :
    name ∈ typeNames base ↔ ∃ lead ∈ typePrefixes, name = lead ++ base := by
  simp [typeNames, typePrefixes, TableTypes.pageOf, TableTypes.inputOf]

theorem self_mem_typeNames (base : String) : base ∈ typeNames base := List.mem_cons_self

theorem lead_inj {a b lead : String} (h : lead ++ a = lead ++ b) : a = b := by
  have hl := congrArg String.toList h
  rw [String.toList_append, String.toList_append] at hl
  exact String.toList_inj.1 (List.append_cancel_left hl)

/-- The names of two bases meet if one base is a name of the other. -/
theorem disjoint_typeNames_iff {a b : String} :
    (typeNames a).Disjoint (typeNames b) ↔ a ∉ typeNames b ∧ b ∉ typeNames a := by
  constructor
  · intro h
    exact ⟨fun hm => h (self_mem_typeNames a) hm, fun hm => h hm (self_mem_typeNames b)⟩
  · rintro ⟨hab, hba⟩ name ha hb
    obtain ⟨lead, hlead, rfl⟩ := mem_typeNames_iff.1 ha
    obtain ⟨lead', hlead', he⟩ := mem_typeNames_iff.1 hb
    have hpage (h : "Page" ++ a = "Input" ++ b) : False := by
      have hl := congrArg String.toList h
      simp at hl
    have hinput (h : "Input" ++ a = "Page" ++ b) : False := by
      have hl := congrArg String.toList h
      simp at hl
    have hself (h : lead = lead') : False := by
      subst h
      exact hab (lead_inj he ▸ self_mem_typeNames b)
    simp only [typePrefixes, List.mem_cons, List.not_mem_nil, or_false] at hlead hlead'
    rcases hlead with rfl | rfl | rfl <;> rcases hlead' with rfl | rfl | rfl
    · exact hself rfl
    · exact hab (mem_typeNames_iff.2 ⟨"Page", by decide, by simpa using he⟩)
    · exact hab (mem_typeNames_iff.2 ⟨"Input", by decide, by simpa using he⟩)
    · exact hba (mem_typeNames_iff.2 ⟨"Page", by decide, by simpa using he.symm⟩)
    · exact hself rfl
    · exact hpage he
    · exact hba (mem_typeNames_iff.2 ⟨"Input", by decide, by simpa using he.symm⟩)
    · exact hinput he
    · exact hself rfl

theorem nodup_typeNames (base : String) : (typeNames base).Nodup := by
  have hlead (lead lead' : String) (h : lead.length ≠ lead'.length) : lead ++ base ≠ lead' ++ base := by
    intro he
    have hl := congrArg String.length he
    rw [String.length_append, String.length_append] at hl
    omega
  have hmap : typeNames base = typePrefixes.map (· ++ base) := by
    simp [typeNames, typePrefixes, TableTypes.pageOf, TableTypes.inputOf]
  rw [hmap, List.nodup_iff_pairwise_ne, List.pairwise_map]
  have hlength : typePrefixes.Pairwise fun lead lead' => lead.length ≠ lead'.length := by decide
  exact hlength.imp fun h => hlead _ _ h

/-! ## Names with a digest -/

def digestOf (hashLength : Int) (table : String) : String := String.ofList (Name.tag hashLength [table])

theorem toList_taggedTypeName (hashLength : Int) (table : String) :
    (taggedTypeName hashLength table).toList =
      (typeNameFor table).toList ++ '_' :: (digestOf hashLength table).toList := by
  simp [taggedTypeName, digestOf]

theorem plain_digestOf (hashLength : Int) (table : String) : Name.Plain (digestOf hashLength table).toList := by
  rw [digestOf, String.toList_ofList]
  exact Name.plain_tag hashLength [table]

theorem exists_typeNameFor (table : String) : ∃ c s, (typeNameFor table).toList = c :: s ∧ Name.Plain s := by
  have hs := Name.plain_tail_typeName table.toList
  rw [typeNameFor, String.toList_ofList]
  cases he : Name.typeName table.toList with
  | nil => exact absurd he (Name.typeName_ne_nil _)
  | cons c s =>
    rw [he] at hs
    exact ⟨c, s, rfl, hs⟩

theorem not_mem_typePrefixes {lead : String} (h : lead ∈ typePrefixes) : '_' ∉ lead.toList := by
  have hall : ∀ l ∈ typePrefixes, '_' ∉ l.toList := by decide
  exact hall lead h

/-- Two names with digests: the digests and the rest are compared each on its own. -/
theorem tagged_mem_tagged_iff (hashLength : Int) (s t : String) :
    taggedTypeName hashLength s ∈ typeNames (taggedTypeName hashLength t) ↔
      digestOf hashLength s = digestOf hashLength t ∧ typeNameFor s ∈ typeNames (typeNameFor t) := by
  have hlead (lead : String) : taggedTypeName hashLength s = lead ++ taggedTypeName hashLength t ↔
      digestOf hashLength s = digestOf hashLength t ∧ typeNameFor s = lead ++ typeNameFor t := by
    rw [← String.toList_inj, String.toList_append, toList_taggedTypeName, toList_taggedTypeName,
      ← List.append_assoc, Name.tagged_inj (plain_digestOf hashLength s) (plain_digestOf hashLength t),
      ← String.toList_append, String.toList_inj, String.toList_inj, and_comm]
  simp only [mem_typeNames_iff, hlead]
  constructor
  · rintro ⟨lead, hl, hd, ht⟩
    exact ⟨hd, lead, hl, ht⟩
  · rintro ⟨hd, lead, hl, ht⟩
    exact ⟨lead, hl, hd, ht⟩

/-- A name without a digest starts with the only underscore that it can hold. -/
theorem tagged_mem_plain_iff (hashLength : Int) (s t : String) :
    taggedTypeName hashLength s ∈ typeNames (typeNameFor t) ↔
      typeNameFor t = "_" ++ digestOf hashLength s ∧ typeNameFor s ∈ ["Page", "Input"] := by
  rw [mem_typeNames_iff]
  constructor
  · rintro ⟨lead, hl, he⟩
    obtain ⟨c, r, hc, hr⟩ := exists_typeNameFor t
    have hlist := congrArg String.toList he
    rw [String.toList_append, toList_taggedTypeName, hc] at hlist
    have hu : '_' ∈ lead.toList ++ c :: r := by
      rw [← hlist]
      exact List.mem_append_right _ List.mem_cons_self
    have hcu : c = '_' := by
      rcases List.mem_append.1 hu with hu | hu
      · exact absurd hu (not_mem_typePrefixes hl)
      · rcases List.mem_cons.1 hu with hu | hu
        · exact hu.symm
        · exact absurd hu hr.not_mem
    subst hcu
    obtain ⟨hs, hd⟩ := (Name.tagged_inj (plain_digestOf hashLength s) hr).1 hlist
    have hlead : typeNameFor s = lead := String.toList_inj.1 hs
    refine ⟨?_, ?_⟩
    · rw [← String.toList_inj, hc, String.toList_append, hd]
      rfl
    · rw [hlead]
      simp only [typePrefixes, List.mem_cons, List.not_mem_nil, or_false] at hl
      rcases hl with rfl | rfl | rfl
      · obtain ⟨c, r, hc, -⟩ := exists_typeNameFor s
        rw [hlead] at hc
        cases hc
      · decide
      · decide
  · rintro ⟨ht, hs⟩
    refine ⟨typeNameFor s, ?_, ?_⟩
    · exact List.mem_cons_of_mem _ hs
    · rw [taggedTypeName, ht, String.append_assoc]
      rfl

theorem plain_not_mem_tagged (hashLength : Int) (s t : String) :
    typeNameFor s ∉ typeNames (taggedTypeName hashLength t) := by
  rw [mem_typeNames_iff]
  rintro ⟨lead, -, he⟩
  obtain ⟨c, r, hc, hr⟩ := exists_typeNameFor s
  obtain ⟨d, q, hd, -⟩ := exists_typeNameFor t
  have hlist := congrArg String.toList he
  rw [String.toList_append, toList_taggedTypeName, hc, hd] at hlist
  -- the underscore before the digest is not the first character
  have hu : '_' ∈ r := by
    cases hl : lead.toList with
    | nil =>
      rw [hl] at hlist
      rw [(List.cons.inj hlist).2]
      exact List.mem_append_right q List.mem_cons_self
    | cons e l =>
      rw [hl] at hlist
      rw [(List.cons.inj hlist).2]
      exact List.mem_append_right l (List.mem_append_right (d :: q) List.mem_cons_self)
  exact hr.not_mem hu

/-! ## The base names of a build -/

namespace Generated
variable (hashLength : Int)

def IsTagged (p : SchemaTable × String) : Prop := p.2 = taggedTypeName hashLength p.1.name

/-- A table whose base name has a digest, and another one that has a name in common with it: both have
the same digest and their plain names meet, or the plain name of the other one looks like a digest. -/
def Clash (p q : SchemaTable × String) : Prop :=
  IsTagged hashLength p ∧
    (IsTagged hashLength q ∧ digestOf hashLength p.1.name = digestOf hashLength q.1.name ∧
        typeNameFor p.1.name ∈ typeNames (typeNameFor q.1.name) ∨
      q.2 = typeNameFor q.1.name ∧ typeNameFor q.1.name = "_" ++ digestOf hashLength p.1.name ∧
        typeNameFor p.1.name ∈ ["Page", "Input"])

/-- A base name has a digest, or it is the plain one and none of its names is among the given ones. -/
def ChosenAgainst (taken : List String) (p : SchemaTable × String) : Prop :=
  IsTagged hashLength p ∨ p.2 = typeNameFor p.1.name ∧ (typeNames p.2).Disjoint taken

variable {hashLength}

theorem ChosenAgainst.mono {taken fewer : List String} {p : SchemaTable × String}
    (h : ChosenAgainst hashLength taken p) (hf : fewer ⊆ taken) : ChosenAgainst hashLength fewer p := by
  rcases h with h | ⟨hp, hd⟩
  · exact .inl h
  · exact .inr ⟨hp, List.disjoint_of_subset_right hf hd⟩

theorem chosenAgainst_choose (used : List String) (t : SchemaTable) :
    ChosenAgainst hashLength used (t, chooseTypeName hashLength used t.name) := by
  unfold chooseTypeName
  split
  · exact .inl rfl
  · rename_i h
    refine .inr ⟨rfl, ?_⟩
    intro name hn hu
    exact h (List.any_eq_true.2 ⟨name, hn, decide_eq_true hu⟩)

theorem chosenAgainst_of_mem {used : List String} {tables : List SchemaTable} {p : SchemaTable × String}
    (hp : p ∈ assignTypeNames hashLength used tables) : ChosenAgainst hashLength used p := by
  induction tables generalizing used with
  | nil => cases hp
  | cons t r ih =>
    rcases List.mem_cons.1 hp with rfl | hp
    · exact chosenAgainst_choose used t
    · exact (ih hp).mono (List.subset_append_left _ _)

theorem pairwise_assignTypeNames (used : List String) (tables : List SchemaTable) :
    (assignTypeNames hashLength used tables).Pairwise fun p q => ChosenAgainst hashLength (typeNames p.2) q := by
  induction tables generalizing used with
  | nil => exact List.Pairwise.nil
  | cons t r ih =>
    refine List.pairwise_cons.2 ⟨?_, ih _⟩
    intro q hq
    exact (chosenAgainst_of_mem hq).mono (List.subset_append_right _ _)

theorem not_isTagged_of_plain {p : SchemaTable × String} (hp : p.2 = typeNameFor p.1.name) :
    ¬ IsTagged hashLength p := by
  intro h
  have hm := plain_not_mem_tagged hashLength p.1.name p.1.name
  rw [← h, ← hp] at hm
  exact hm (self_mem_typeNames p.2)

/-- Where a digest plays a part, names meet in a clash and not otherwise. -/
theorem mem_typeNames_iff_clash {p q : SchemaTable × String} (hp : ChosenAgainst hashLength [] p)
    (hq : ChosenAgainst hashLength [] q) (h : IsTagged hashLength p ∨ IsTagged hashLength q) :
    p.2 ∈ typeNames q.2 ↔ Clash hashLength p q := by
  rcases hp with hp | ⟨hp, -⟩ <;> rcases hq with hq | ⟨hq, -⟩
  · have hn : ¬ q.2 = typeNameFor q.1.name := fun he => not_isTagged_of_plain he hq
    rw [hp, hq, tagged_mem_tagged_iff]
    simp only [Clash, hp, hq, hn, true_and, false_and, or_false]
  · have hn : ¬ IsTagged hashLength q := not_isTagged_of_plain hq
    rw [hp, hq, tagged_mem_plain_iff]
    simp only [Clash, hp, hn, hq, true_and, false_and, false_or]
  · have hn : ¬ IsTagged hashLength p := not_isTagged_of_plain hp
    have hm := plain_not_mem_tagged hashLength p.1.name q.1.name
    rw [← hp, ← hq] at hm
    exact iff_of_false hm fun hc => hn hc.1
  · rcases h with h | h
    · exact absurd h (not_isTagged_of_plain hp)
    · exact absurd h (not_isTagged_of_plain hq)

/-- The names of a table and of one after it are apart if the two do not clash. -/
theorem disjoint_iff_not_clash {p q : SchemaTable × String} (hp : ChosenAgainst hashLength [] p)
    (hq : ChosenAgainst hashLength (typeNames p.2) q) :
    (typeNames p.2).Disjoint (typeNames q.2) ↔ ¬ Clash hashLength p q ∧ ¬ Clash hashLength q p := by
  have hq' : ChosenAgainst hashLength [] q := hq.mono (List.nil_subset _)
  by_cases h : IsTagged hashLength p ∨ IsTagged hashLength q
  · rw [disjoint_typeNames_iff, mem_typeNames_iff_clash hp hq' h, mem_typeNames_iff_clash hq' hp h.symm]
  · rw [not_or] at h
    have hd : (typeNames p.2).Disjoint (typeNames q.2) := by
      rcases hq with hq | ⟨-, hd⟩
      · exact absurd hq h.2
      · exact List.disjoint_comm.1 hd
    exact iff_of_true hd ⟨fun hc => h.1 hc.1, fun hc => h.2 hc.1⟩

variable (hashLength)

/-- No two of the names that the tables of a schema get are the same, and none has a meaning of its own. -/
structure TypeNamesApart (schema : Schema) : Prop where
  nodup : ((named hashLength schema).flatMap fun p => typeNames p.2).Nodup
  unreserved : ∀ p ∈ named hashLength schema, ∀ name ∈ typeNames p.2, name ∉ Name.reservedTypes

variable (schema : Schema)

theorem chosenAgainst_named {p : SchemaTable × String} (hp : p ∈ named hashLength schema) :
    ChosenAgainst hashLength Name.reservedTypes p := chosenAgainst_of_mem hp

theorem not_mem_reservedTypes {p : SchemaTable × String} (hp : p ∈ named hashLength schema) {name : String}
    (hn : name ∈ typeNames p.2) : name ∉ Name.reservedTypes := by
  rcases chosenAgainst_named hashLength schema hp with h | ⟨-, hd⟩
  · intro hr
    have hall : ∀ reserved ∈ Name.reservedTypes, '_' ∉ reserved.toList := by decide
    apply hall name hr
    obtain ⟨lead, -, rfl⟩ := mem_typeNames_iff.1 hn
    rw [h, String.toList_append, toList_taggedTypeName]
    simp
  · exact hd hn

theorem nodup_iff_no_clash :
    ((named hashLength schema).flatMap fun p => typeNames p.2).Nodup ↔
      (named hashLength schema).Pairwise fun p q => ¬ Clash hashLength p q ∧ ¬ Clash hashLength q p := by
  have hchosen : (named hashLength schema).Pairwise fun p q => ChosenAgainst hashLength (typeNames p.2) q :=
    pairwise_assignTypeNames _ _
  have hall (p : SchemaTable × String) (hp : p ∈ named hashLength schema) : ChosenAgainst hashLength [] p :=
    (chosenAgainst_named hashLength schema hp).mono (List.nil_subset _)
  rw [List.nodup_flatMap]
  constructor
  · rintro ⟨-, hd⟩
    refine (hd.and hchosen).imp_of_mem ?_
    rintro p q hp - ⟨hpq, hq⟩
    exact (disjoint_iff_not_clash (hall p hp) hq).1 hpq
  · intro hn
    refine ⟨fun p _ => nodup_typeNames p.2, (hn.and hchosen).imp_of_mem ?_⟩
    rintro p q hp - ⟨hpq, hq⟩
    exact (disjoint_iff_not_clash (hall p hp) hq).2 hpq

theorem subset_typeNames (bases : Assoc String String) (p : SchemaTable × String) :
    Assoc.keys (typeEntries hashLength bases p) ⊆ typeNames p.2 := by
  simp [typeEntries, Assoc.keys, typeNames]

variable {hashLength schema}

theorem TypeNamesApart.pairwise_emitted (h : TypeNamesApart hashLength schema) :
    (emitted hashLength schema).Pairwise fun p q => (typeNames p.2).Disjoint (typeNames q.2) :=
  (List.nodup_flatMap.1 h.nodup).2.filter hasColumns

theorem TypeNamesApart.nodup_types (h : TypeNamesApart hashLength schema) (bases : Assoc String String) :
    (Assoc.keys ((emitted hashLength schema).flatMap (typeEntries hashLength bases))).Nodup := by
  have hkeys : Assoc.keys ((emitted hashLength schema).flatMap (typeEntries hashLength bases)) =
      (emitted hashLength schema).flatMap fun p => Assoc.keys (typeEntries hashLength bases p) :=
    List.map_flatMap
  rw [hkeys, List.nodup_flatMap]
  refine ⟨?_, h.pairwise_emitted.imp ?_⟩
  · intro p _
    exact (List.sublist_append_left [p.2, TableTypes.pageOf p.2] [TableTypes.inputOf p.2]).nodup
      (nodup_typeNames p.2)
  · intro p q hd name hp hq
    exact hd (subset_typeNames hashLength bases p hp) (subset_typeNames hashLength bases q hq)

theorem TypeNamesApart.nodup_inputs (h : TypeNamesApart hashLength schema) :
    (Assoc.keys ((emitted hashLength schema).map inputEntry)).Nodup := by
  rw [Assoc.keys, List.map_map, List.nodup_iff_pairwise_ne, List.pairwise_map]
  refine h.pairwise_emitted.imp ?_
  intro p q hd he
  have hp : TableTypes.inputOf p.2 ∈ typeNames p.2 := by simp [typeNames]
  have hq : TableTypes.inputOf q.2 ∈ typeNames q.2 := by simp [typeNames]
  have he : TableTypes.inputOf p.2 = TableTypes.inputOf q.2 := he
  exact hd hp (he ▸ hq)

variable (hashLength schema) in
/-- The registries hold what one table contributed. -/
structure Kept (p : SchemaTable × String) : Prop where
  object : (build hashLength schema).types.get? p.2 =
    some (outcome hashLength (basesOf (named hashLength schema)) p).fields
  page : (build hashLength schema).types.get? (TableTypes.pageOf p.2) = some (pageFields p.2)
  input : (build hashLength schema).inputs.get? (TableTypes.inputOf p.2) = some (columnFields p.1)

theorem TypeNamesApart.kept (h : TypeNamesApart hashLength schema) {p : SchemaTable × String}
    (hp : p ∈ emitted hashLength schema) : Kept hashLength schema p := by
  let bases := basesOf (named hashLength schema)
  have htypes (name : String) (fields : Fields) (hn : name ∈ typeNames p.2)
      (hm : (name, fields) ∈ typeEntries hashLength bases p) :
      (build hashLength schema).types.get? name = some fields := by
    have hfree : name ∉ Name.reservedTypes := h.unreserved p (List.mem_filter.1 hp).1 name hn
    have hquery : name ≠ queryType := fun he => hfree (he ▸ by decide)
    have hmutation : name ≠ mutationType := fun he => hfree (he ▸ by decide)
    rw [get?_types_table hashLength schema hquery hmutation]
    exact Assoc.get?_reverse_of_nodup (h.nodup_types bases) (List.mem_flatMap.2 ⟨p, hp, hm⟩)
  refine ⟨?_, ?_, ?_⟩
  · exact htypes _ _ (by simp [typeNames]) (by simp [typeEntries, bases])
  · exact htypes _ _ (by simp [typeNames]) (by simp [typeEntries])
  · rw [build_inputs, Assoc.get?_overlay, Assoc.get?_reverse_of_nodup h.nodup_inputs
      (List.mem_map_of_mem hp : inputEntry p ∈ _)]
    rfl

end Generated

open Generated

/-- The names of all tables are apart and free exactly if no two tables clash, and then every table that
gets types keeps all three. A clash takes a digest: two plain names never meet. -/
theorem type_names_apart_iff (hashLength : Int) (schema : Schema) :
    (TypeNamesApart hashLength schema ↔
      ∀ p ∈ named hashLength schema, ∀ q ∈ named hashLength schema, p ≠ q → ¬ Clash hashLength p q) ∧
    (TypeNamesApart hashLength schema → ∀ p ∈ emitted hashLength schema, Kept hashLength schema p) := by
  refine ⟨⟨?_, ?_⟩, fun h p hp => h.kept hp⟩
  · intro h p hp q hq hne
    have hsymm : Std.Symm fun p q => ¬ Clash hashLength p q ∧ ¬ Clash hashLength q p := ⟨fun _ _ h => h.symm⟩
    exact (((nodup_iff_no_clash hashLength schema).1 h.nodup).forall hp hq hne).1
  · intro h
    have hnodup : (named hashLength schema).Nodup := (nodup_named hashLength schema).of_map
    refine ⟨(nodup_iff_no_clash hashLength schema).2 ?_, ?_⟩
    · exact hnodup.pairwise_of_forall_ne fun p hp q hq hne => ⟨h p hp q hq hne, h q hq p hp hne.symm⟩
    · exact fun p hp name hn => not_mem_reservedTypes hashLength schema hp hn

/-- Three tables, of which the last falls back on the page type of the first. -/
def pagesSchema : Schema :=
  let table (name : String) : SchemaTable := ⟨name, [⟨"id", "INTEGER", false, true, .text⟩], [], true⟩
  ⟨[table "767013ce", table "Page", table "page"]⟩

theorem pages_types_meet : ¬ TypeNamesApart 8 pagesSchema := by
  intro h
  have hn : ¬ ((named 8 pagesSchema).flatMap fun p => typeNames p.2).Nodup := by decide +kernel
  exact hn h.nodup

end TableGraph
