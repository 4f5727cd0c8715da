import TableGraph.Proofs.Catalog.Precedence

/-! # Foreign keys and their relation fields

A relation is made of every foreign key whose column is exposed, but the names go by column. Where two
keys share a column the later one has the field. A key is therefore followed by a field of its own
exactly if it is the only one on its column that is to be followed, and the last (`TellsApart`); and
no later table may take the type of the table over.
-/
namespace TableGraph

/-- A foreign key with an exposed column that refers to a compiled table. -/
structure Linked (g : Generated) (t : SchemaTable) (tt : TableTypes) (f : ForeignKey) : Prop where
  key : f ∈ t.foreignKeys
  exposed : f.column ∈ tt.columns
  target : ∃ u ∈ g.tables, u.table = f.referencedTable

/-- The linked keys of a table and its relation fields correspond: a field is typed by what its key
refers to, and by default it follows its key. -/
structure Followed {ι : Type} (r : Resolver ι) (c : Catalog) (t : SchemaTable) (tt : TableTypes)
    (name : ForeignKey → String) : Prop where
  apart : ∀ f g, Linked c.generated t tt f → Linked c.generated t tt g → name f = name g → f = g
  fields : ∀ f, Linked c.generated t tt f → ∃ rel ∈ tt.relations, rel.field = name f
  covers : ∀ rel ∈ tt.relations, ∃ f, Linked c.generated t tt f ∧ name f = rel.field
  typed : ∀ f, Linked c.generated t tt f → ∀ u ∈ c.generated.tables, u.table = f.referencedTable →
    (c.generated.field? tt.type (name f)).map (·.returns) = some (.named u.type)
  resolved : ∀ f, Linked c.generated t tt f →
    (r.register c).default? tt.type (name f) =
      some (.related ⟨tt.type, name f, tt.table, f.column, f.referencedTable, f.referencedColumn⟩,
        some f.referencedTable)

/-- No later table has the type of this one as its own or as its page. -/
def TypeKept (g : Generated) (tt : TableTypes) : Prop :=
  ∀ u ∈ g.tables, tt.table < u.table → u.columns ≠ [] → u.type ≠ tt.type ∧ u.page ≠ tt.type

/-- On every column with a relation the last one follows the only linked key there. A table without relations need not
keep its type. -/
structure TellsApart (g : Generated) (t : SchemaTable) (tt : TableTypes) : Prop where
  keys : ∀ rel ∈ tt.relations, ∃ last, lastOn tt.relations rel.column = some last ∧
    Linked g t tt last.key ∧ ∀ f, Linked g t tt f → f.column = rel.column → f = last.key
  kept : tt.relations = [] ∨ TypeKept g tt

open Resolver

namespace Generated
variable {hashLength : Int} {schema : Schema}

/-! ## Keys and relations -/

theorem relation_eq {t : TableTypes} (ht : t ∈ (build hashLength schema).tables) {rel : Relation}
    (hr : rel ∈ t.relations) {f : ForeignKey} (hf : rel.key = f) {name : String} (hn : rel.field = name) :
    rel = ⟨t.type, name, t.table, f.column, f.referencedTable, f.referencedColumn⟩ := by
  obtain ⟨htype, htable⟩ := relation_origin ht hr
  subst hf hn
  rw [← htype, ← htable]
  rfl

def fieldOf (relations : List Relation) (f : ForeignKey) : String :=
  ((relations.find? fun rel => rel.key = f).map (·.field)).getD ""

theorem fieldOf_key {t : TableTypes} (ht : t ∈ (build hashLength schema).tables) {rel : Relation}
    (hr : rel ∈ t.relations) : fieldOf t.relations rel.key = rel.field := by
  have hsome : (t.relations.find? fun q => q.key = rel.key).isSome = true :=
    List.find?_isSome.2 ⟨rel, hr, by simp⟩
  obtain ⟨other, ho⟩ := Option.isSome_iff_exists.1 hsome
  have hkey : other.key = rel.key := by simpa using List.find?_some ho
  rw [fieldOf, ho]
  exact (relation_field_eq_iff ht (List.mem_of_find?_eq_some ho) hr).2 (congrArg ForeignKey.column hkey)

theorem relation_of_linked {p : SchemaTable × String} {f : ForeignKey}
    (h : Linked (build hashLength schema) p.1 (typesOf hashLength schema p) f) :
    ∃ rel ∈ (typesOf hashLength schema p).relations, rel.key = f := by
  obtain ⟨u, hu, he⟩ := h.target
  have hkey : f ∈ p.1.sortedForeignKeys :=
    (mem_ascending_iff (fun _ _ => ForeignKey.key_injective)).2 h.key
  have htarget : f.referencedTable ∈ (basesOf (named hashLength schema)).keys :=
    he ▸ Assoc.mem_keys_of_get? (get?_bases hu)
  have hcolumn : f.column ∈ Assoc.keys (scalarFields p.1) := (mem_columns_iff p _ f.column).1 h.exposed
  exact (related_outcome hashLength _ p).complete f hkey htarget hcolumn

/-- Where later tables keep off the type of a table, none of them makes a default under it. -/
theorem no_later_default {before after : List TableTypes} {t : TableTypes}
    (hsplit : (build hashLength schema).tables = before ++ t :: after) (hkept : TypeKept (build hashLength schema) t)
    (field : String) : Assoc.get? (defaultEntries after).reverse (t.type, field) = none := by
  cases h : Assoc.get? (defaultEntries after).reverse (t.type, field) with
  | none => rfl
  | some d =>
    obtain ⟨u, hu, hlater, rel, hr, he, -⟩ := later_default hsplit h
    exact absurd he (hkept u hu hlater (columns_of_relation hu hr)).1

theorem no_later_entry {before after : List (SchemaTable × String)} {p : SchemaTable × String}
    (hsplit : emitted hashLength schema = before ++ p :: after)
    (hkept : TypeKept (build hashLength schema) (typesOf hashLength schema p)) :
    (build hashLength schema).types.get? p.2 = some (outcomeOf hashLength schema p).fields := by
  rw [get?_types_split hsplit]
  cases h : Assoc.get? (after.flatMap (entriesOf hashLength schema)).reverse p.2 with
  | none => rfl
  | some fields =>
    obtain ⟨q, hq, hlater, hfields⟩ := later_entry hsplit h
    obtain ⟨htype, hpage⟩ := hkept _ (mem_tables_of_emitted hq) hlater
      ((hasColumns_iff q _).1 (List.mem_filter.1 hq).2)
    rcases hfields with ⟨he, -⟩ | ⟨he, -⟩
    · exact absurd he htype
    · exact absurd he hpage

theorem exists_later_entry {before after : List (SchemaTable × String)} {p : SchemaTable × String}
    (hsplit : emitted hashLength schema = before ++ p :: after) {u : TableTypes}
    (hu : u ∈ (build hashLength schema).tables) (hlater : p.1.name < u.table) (hcolumns : u.columns ≠ [])
    (hmeet : ¬ (u.type ≠ p.2 ∧ u.page ≠ p.2)) :
    ∃ fields, Assoc.get? (after.flatMap (entriesOf hashLength schema)).reverse p.2 = some fields := by
  obtain ⟨q, hq, rfl⟩ := compiled_of_mem_tables hu
  have hqe : q ∈ emitted hashLength schema := emitted_of_columns (List.mem_filter.1 hq).1 hcolumns
  have hqa : q ∈ after := (mem_after_iff pairwise_emitted hsplit hqe).2 hlater
  apply Assoc.exists_get?_reverse
  rcases not_and_or.1 hmeet with htype | hpage
  · exact List.mem_map.2 ⟨_, List.mem_flatMap.2 ⟨q, hqa, List.mem_cons_self⟩, not_not.1 htype⟩
  · have hentry : (TableTypes.pageOf q.2, pageFields q.2) ∈ entriesOf hashLength schema q :=
      List.mem_cons_of_mem _ List.mem_cons_self
    exact List.mem_map.2 ⟨_, List.mem_flatMap.2 ⟨q, hqa, hentry⟩, not_not.1 hpage⟩

section Told
variable {ι : Type} {r : Resolver ι} {c : Catalog} {p : SchemaTable × String}
variable (hc : c.generated = build hashLength schema)
include hc

/-- The last relation on the column of a linked key follows that key, if the keys are told apart. -/
theorem lastOn_of_tellsApart (h : TellsApart c.generated p.1 (typesOf hashLength schema p)) {f : ForeignKey}
    (hf : Linked c.generated p.1 (typesOf hashLength schema p) f) :
    TypeKept (build hashLength schema) (typesOf hashLength schema p) ∧
      ∃ last, lastOn (typesOf hashLength schema p).relations f.column = some last ∧ last.key = f := by
  obtain ⟨rel, hr, rfl⟩ := relation_of_linked (hc ▸ hf)
  obtain ⟨last, hl, -, hunique⟩ := h.keys rel hr
  refine ⟨?_, last, hl, (hunique rel.key hf rfl).symm⟩
  rcases h.kept with hnil | hkept
  · exact absurd hr (hnil ▸ List.not_mem_nil)
  · exact hc ▸ hkept

/-- Under the field of a key no later table makes a default, since its relations are of another table. -/
theorem later_default_of_followed {name : ForeignKey → String}
    (h : Followed r c p.1 (typesOf hashLength schema p) name) {before after : List TableTypes}
    (hsplit : (build hashLength schema).tables = before ++ typesOf hashLength schema p :: after) {f : ForeignKey}
    (hf : Linked c.generated p.1 (typesOf hashLength schema p) f) :
    Assoc.get? (defaultEntries after).reverse (p.2, name f) = none := by
  cases hget : Assoc.get? (defaultEntries after).reverse (p.2, name f) with
  | none => rfl
  | some d =>
    obtain ⟨u, hu, hlater, rel, hr, -, -, hd⟩ := later_default hsplit hget
    have hresolved := (default?_of_later (r := r) hc hsplit hget).symm.trans (h.resolved f hf)
    have hrel := (Prod.mk.inj (Option.some.inj hresolved)).1
    rw [hd] at hrel
    have htable : u.table = p.1.name := by
      rw [← (relation_origin hu hr).2, Default.related.inj hrel]
      rfl
    rw [htable] at hlater
    exact absurd hlater (String.lt_irrefl _)

variable (hp : p ∈ compiled hashLength schema)
include hp

theorem followed_of_tellsApart (h : TellsApart c.generated p.1 (typesOf hashLength schema p)) :
    Followed r c p.1 (typesOf hashLength schema p) (fieldOf (typesOf hashLength schema p).relations) := by
  let t := typesOf hashLength schema p
  have ht : t ∈ (build hashLength schema).tables := mem_tables_of_compiled hp
  refine ⟨?_, ?_, ?_, ?_, ?_⟩
  · intro f g hf hg he
    obtain ⟨-, lf, hlf, rfl⟩ := lastOn_of_tellsApart hc h hf
    obtain ⟨-, lg, hlg, rfl⟩ := lastOn_of_tellsApart hc h hg
    rw [fieldOf_key ht (lastOn_mem hlf).1, fieldOf_key ht (lastOn_mem hlg).1] at he
    have hcolumn : lf.key.column = lg.key.column :=
      (relation_field_eq_iff ht (lastOn_mem hlf).1 (lastOn_mem hlg).1).1 he
    rw [hcolumn] at hlf
    rw [Option.some.inj (hlf.symm.trans hlg)]
  · intro f hf
    obtain ⟨-, last, hl, rfl⟩ := lastOn_of_tellsApart hc h hf
    exact ⟨last, (lastOn_mem hl).1, (fieldOf_key ht (lastOn_mem hl).1).symm⟩
  · intro rel hr
    obtain ⟨last, hl, hlinked, -⟩ := h.keys rel hr
    refine ⟨last.key, hlinked, ?_⟩
    rw [fieldOf_key ht (lastOn_mem hl).1]
    exact (relation_field_eq_iff ht (lastOn_mem hl).1 hr).2 (lastOn_mem hl).2
  · intro f hf u hu he
    obtain ⟨hkept, last, hl, rfl⟩ := lastOn_of_tellsApart hc h hf
    have hm := (lastOn_mem hl).1
    have hemitted : p ∈ emitted hashLength schema :=
      emitted_of_columns (List.mem_filter.1 hp).1 (columns_of_relation ht hm)
    obtain ⟨before, after, hsplit⟩ := List.append_of_mem hemitted
    have hreturns := get?_fields_of_last hl (hc ▸ hu) he
    rw [fieldOf_key ht hm, hc, field?]
    change (((build hashLength schema).types.get? p.2).bind _).map _ = _
    rw [no_later_entry hsplit hkept]
    exact hreturns
  · intro f hf
    obtain ⟨hkept, last, hl, rfl⟩ := lastOn_of_tellsApart hc h hf
    have hm := (lastOn_mem hl).1
    obtain ⟨before, after, hsplit⟩ := List.append_of_mem ht
    rw [fieldOf_key ht hm, default?_of_last (r := r) hc hsplit hl (no_later_default hsplit hkept last.field),
      ← relation_eq ht hm rfl rfl]
    rfl

/-- A field that follows a key belongs to a relation of the same table. -/
theorem relation_of_followed {name : ForeignKey → String}
    (h : Followed r c p.1 (typesOf hashLength schema p) name) {f : ForeignKey}
    (hf : Linked c.generated p.1 (typesOf hashLength schema p) f) :
    ∃ rel ∈ (typesOf hashLength schema p).relations, rel.key = f ∧ rel.field = name f := by
  let t := typesOf hashLength schema p
  have ht : t ∈ (build hashLength schema).tables := mem_tables_of_compiled hp
  have hd := h.resolved f hf
  rw [default?_register] at hd
  obtain ⟨d, hget, he⟩ := Option.map_eq_some_iff.1 hd
  obtain ⟨u, hu, hm⟩ := mem_defaultEntries.1 (List.mem_reverse.1 (Assoc.mem_of_get? hget))
  rw [hc] at hu
  have hdefault := (Prod.mk.inj he).1
  rcases mem_defaultsOf.1 hm with
    ⟨-, -, hpage, -⟩ | ⟨-, -, hfirst, -⟩ | ⟨-, -, hput, -⟩ | ⟨rel, hr, -, -, hrel, -⟩
  · rw [hpage] at hdefault
    cases hdefault
  · rw [hfirst] at hdefault
    cases hdefault
  · rw [hput] at hdefault
    cases hdefault
  · rw [← hrel] at hdefault
    have hrel := Default.related.inj hdefault
    have htable : u.table = t.table := by rw [← (relation_origin hu hr).2, hrel]
    have hsame : u = t := same_of_table hu ht htable
    rw [hsame] at hr
    refine ⟨rel, hr, ?_, ?_⟩
    · rw [hrel]
      rfl
    · rw [hrel]

theorem typeKept_of_followed {name : ForeignKey → String}
    (h : Followed r c p.1 (typesOf hashLength schema p) name) {rel : Relation}
    (hr : rel ∈ (typesOf hashLength schema p).relations) :
    TypeKept c.generated (typesOf hashLength schema p) := by
  let t := typesOf hashLength schema p
  have ht : t ∈ (build hashLength schema).tables := mem_tables_of_compiled hp
  obtain ⟨f, hf, -⟩ := h.covers rel hr
  obtain ⟨target, htarget, he⟩ := hf.target
  have hemitted : p ∈ emitted hashLength schema :=
    emitted_of_columns (List.mem_filter.1 hp).1 (columns_of_relation ht hr)
  obtain ⟨before, after, hsplit⟩ := List.append_of_mem ht
  obtain ⟨early, late, hemit⟩ := List.append_of_mem hemitted
  intro u hu hlater hcolumns
  by_contra hmeet
  obtain ⟨fields, hget⟩ := exists_later_entry hemit (hc ▸ hu) hlater hcolumns hmeet
  obtain ⟨later, hl, hlt, hfields⟩ := later_entry hemit hget
  -- what the later table put there types the field by an object type, so it has a relation of that name
  have htyped := h.typed f hf target htarget he
  rw [hc, field?] at htyped
  change (((build hashLength schema).types.get? p.2).bind _).map _ = _ at htyped
  rw [get?_types_split hemit, hget] at htyped
  obtain ⟨htype, other, ho, hfield⟩ := relation_of_later_entry hfields htyped (type_unreserved (hc ▸ htarget))
  have hdefault : ((p.2, name f), (Default.related other, other.referencedTable)) ∈ defaultEntries after := by
    have hla := (mem_after_iff pairwise_tables hsplit (mem_tables_of_emitted hl)).2 hlt
    refine mem_defaultEntries.2 ⟨_, hla, mem_defaultsOf.2 (.inr (.inr (.inr ⟨other, ho, ?_, hfield, rfl, rfl⟩)))⟩
    exact (relation_origin (mem_tables_of_emitted hl) ho).1.trans htype
  obtain ⟨d, hd⟩ := Assoc.exists_get?_reverse (List.mem_map_of_mem hdefault)
  rw [later_default_of_followed hc h hsplit hf] at hd
  cases hd

theorem tellsApart_of_followed {name : ForeignKey → String}
    (h : Followed r c p.1 (typesOf hashLength schema p) name) :
    TellsApart c.generated p.1 (typesOf hashLength schema p) := by
  let t := typesOf hashLength schema p
  have ht : t ∈ (build hashLength schema).tables := mem_tables_of_compiled hp
  obtain ⟨before, after, hsplit⟩ := List.append_of_mem ht
  refine ⟨?_, ?_⟩
  · intro rel hr
    obtain ⟨f, hf, hname⟩ := h.covers rel hr
    obtain ⟨last, hl⟩ := exists_lastOn hr
    obtain ⟨hm, hcolumn⟩ := lastOn_mem hl
    have hfield : last.field = name f := ((relation_field_eq_iff ht hm hr).2 hcolumn).trans hname.symm
    have hnone := later_default_of_followed hc h hsplit hf
    rw [← hfield] at hnone
    have hdefault := default?_of_last (r := r) hc hsplit hl hnone
    rw [hfield] at hdefault
    have hlast := (Prod.mk.inj (Option.some.inj (hdefault.symm.trans (h.resolved f hf)))).1
    have hkey : last.key = f := by rw [Default.related.inj hlast]; rfl
    refine ⟨last, hl, hkey ▸ hf, ?_⟩
    intro g hg hgc
    obtain ⟨other, ho, rfl, hname'⟩ := relation_of_followed hc hp h hg
    have hsame : other.field = rel.field := (relation_field_eq_iff ht ho hr).2 hgc
    rw [hkey]
    exact h.apart other.key f hg hf (hname'.symm.trans (hsame.trans hname.symm))
  · by_cases hnil : t.relations = []
    · exact .inl hnil
    · obtain ⟨rel, hr⟩ := List.exists_mem_of_ne_nil _ hnil
      exact .inr (typeKept_of_followed hc hp h hr)

theorem followed_iff :
    (∃ name, Followed r c p.1 (typesOf hashLength schema p) name) ↔
      TellsApart c.generated p.1 (typesOf hashLength schema p) := by
  constructor
  · rintro ⟨name, h⟩
    exact tellsApart_of_followed hc hp h
  · intro h
    exact ⟨_, followed_of_tellsApart hc hp h⟩

end Told

/-- A compiled table is the one of its name in the schema. -/
theorem exists_compiled {t : SchemaTable} (ht : t ∈ schema.sortedTables) {tt : TableTypes}
    (htt : tt ∈ (build hashLength schema).tables) (he : tt.table = t.name) :
    ∃ p ∈ compiled hashLength schema, t = p.1 ∧ tt = typesOf hashLength schema p := by
  obtain ⟨p, hp, rfl⟩ := compiled_of_mem_tables htt
  rw [← map_assignTypeNames hashLength Name.reservedTypes schema.sortedTables] at ht
  obtain ⟨q, hq, rfl⟩ := List.mem_map.1 ht
  have hpq : p = q := List.inj_on_of_nodup_map (nodup_named hashLength schema) (List.mem_filter.1 hp).1 hq he
  exact ⟨p, hp, hpq ▸ rfl, rfl⟩

end Generated

open Generated

/-- The relation fields of a build correspond to the foreign keys exactly if every table tells its keys
apart and, if it has relations at all, keeps its type. -/
theorem foreign_keys_followed_iff {ι : Type} (r : Resolver ι) (c : Catalog) (s : Schema) :
    (∀ t ∈ s.sortedTables, ∀ tt ∈ (c.adopt s).generated.tables, tt.table = t.name →
      ∃ name, Followed r (c.adopt s) t tt name) ↔
    ∀ t ∈ s.sortedTables, ∀ tt ∈ (c.adopt s).generated.tables, tt.table = t.name →
      TellsApart (c.adopt s).generated t tt := by
  constructor
  · intro h t ht tt htt he
    have hfollowed := h t ht tt htt he
    obtain ⟨p, hp, rfl, rfl⟩ := exists_compiled ht htt he
    exact (followed_iff rfl hp).1 hfollowed
  · intro h t ht tt htt he
    have hapart := h t ht tt htt he
    obtain ⟨p, hp, rfl, rfl⟩ := exists_compiled ht htt he
    exact (followed_iff rfl hp).2 hapart

/-- Two foreign keys of one column, which refer to two columns of one table. -/
def sharedColumn : Schema :=
  let column (name : String) : SchemaColumn := ⟨name, "INTEGER", true, false, .text⟩
  ⟨[⟨"t", [column "id", column "c"], [⟨"c", "u", "id"⟩, ⟨"c", "u", "code"⟩], true⟩,
    ⟨"u", [column "id", column "code"], [], true⟩]⟩

theorem shared_column_not_followed :
    ¬ ∀ t ∈ sharedColumn.sortedTables, ∀ tt ∈ (({} : Catalog).adopt sharedColumn).generated.tables,
      tt.table = t.name → ∃ name, Followed ({} : Resolver Unit) (({} : Catalog).adopt sharedColumn) t tt name := by
  intro h
  let c : Catalog := ({} : Catalog).adopt sharedColumn
  let t : SchemaTable := sharedColumn.sortedTables.headD ⟨"", [], [], true⟩
  let tt : TableTypes :=
    ⟨"t", "T", ["id", "c"], [⟨"T", "u", "t", "c", "u", "code"⟩, ⟨"T", "u", "t", "c", "u", "id"⟩]⟩
  have htt : tt ∈ c.generated.tables := by decide +kernel
  obtain ⟨name, hf⟩ := h t (by decide +kernel) tt htt (by decide +kernel)
  have hlinked : ∀ f ∈ t.foreignKeys, Linked c.generated t tt f := by
    intro f hm
    have hexposed : ∀ f ∈ t.foreignKeys, f.column ∈ tt.columns := by decide +kernel
    have htarget : ∀ f ∈ t.foreignKeys, ∃ u ∈ c.generated.tables, u.table = f.referencedTable := by
      decide +kernel
    exact ⟨hm, hexposed f hm, htarget f hm⟩
  have hname : ∀ f ∈ t.foreignKeys, name f = "u" := by
    intro f hm
    obtain ⟨rel, hr, he⟩ := hf.fields f (hlinked f hm)
    have hfield : ∀ rel ∈ tt.relations, rel.field = "u" := by decide
    rw [← he, hfield rel hr]
  have hid : (⟨"c", "u", "id"⟩ : ForeignKey) ∈ t.foreignKeys := by decide +kernel
  have hcode : (⟨"c", "u", "code"⟩ : ForeignKey) ∈ t.foreignKeys := by decide +kernel
  have he := hf.apart _ _ (hlinked _ hid) (hlinked _ hcode) ((hname _ hid).trans (hname _ hcode).symm)
  exact absurd he (by decide)

end TableGraph
