import TableGraph.Proofs.Catalog.Entries
import TableGraph.Proofs.Naming.Validity

/-! # Valid names in the registries

Types, inputs, fields and arguments are named by columns, by sanitized texts, and by words put in front
of those or digests put behind. Three things go wrong, and no others: a column may end with a line
feed; a type name that is a single underscore may get a digest; and so may the name of a relation on
the column `_`, if the referenced table comes to an underscore too. What a later table takes over shows
no longer, so the columns count if no later table has the type (`TypeHeld`), and the relations if none
has it as its type or as its page (`TypeKept`).
-/
namespace TableGraph
open Name

def ValidName (s : String) : Prop := IsName s.toList

instance (s : String) : Decidable (ValidName s) := inferInstanceAs (Decidable (IsName s.toList))

namespace Generated

structure FieldValid (q : String × Field) : Prop where
  key : ValidName q.1
  name : ValidName q.2.name
  args : ∀ a ∈ q.2.args, ValidName a.1

structure NamesValid (g : Generated) : Prop where
  types : ∀ p ∈ g.types, ValidName p.1
  fields : ∀ p ∈ g.types, ∀ q ∈ p.2, FieldValid q
  inputs : ∀ p ∈ g.inputs, ValidName p.1
  inputFields : ∀ p ∈ g.inputs, ∀ q ∈ p.2, ValidName q.1

instance (q : String × Field) : Decidable (FieldValid q) :=
  decidable_of_iff (ValidName q.1 ∧ ValidName q.2.name ∧ ∀ a ∈ q.2.args, ValidName a.1)
    ⟨fun ⟨hkey, hname, hargs⟩ => ⟨hkey, hname, hargs⟩, fun h => ⟨h.key, h.name, h.args⟩⟩

instance (g : Generated) : Decidable (NamesValid g) :=
  decidable_of_iff
    ((∀ p ∈ g.types, ValidName p.1) ∧ (∀ p ∈ g.types, ∀ q ∈ p.2, FieldValid q) ∧
      (∀ p ∈ g.inputs, ValidName p.1) ∧ ∀ p ∈ g.inputs, ∀ q ∈ p.2, ValidName q.1)
    ⟨fun ⟨htypes, hfields, hinputs, hinputFields⟩ => ⟨htypes, hfields, hinputs, hinputFields⟩,
      fun h => ⟨h.types, h.fields, h.inputs, h.inputFields⟩⟩

def firstOn (relations : List Relation) (column : String) : Option Relation :=
  relations.find? fun rel => rel.column = column

/-- What the names made for a table depend on. The first relation on a column has given it its name. Columns and
relations that a later table hides make no names. -/
structure Nameable (g : Generated) (t : TableTypes) : Prop where
  type : typeNameFor t.table = "_" → t.type = "_"
  columns : TypeHeld g t → ∀ c ∈ t.columns, c.toList.getLast? ≠ some '\n'
  relations : TypeKept g t → ∀ rel, firstOn t.relations "_" = some rel → sanitizeName rel.referencedTable ≠ "_"

/-! ## Names of types -/

variable {hashLength : Int} {schema : Schema}

theorem isPart_of_mem_digestOf (hashLength : Int) (table : String) :
    ∀ c ∈ (digestOf hashLength table).toList, isPart c = true := by
  intro c hc
  simp [isPart, plain_digestOf hashLength table c hc]

theorem validName_tagged_iff (hashLength : Int) (table : String) :
    ValidName (taggedTypeName hashLength table) ↔ typeNameFor table ≠ "_" := by
  rw [ValidName, toList_taggedTypeName,
    isName_suffixed_iff (isName_typeNameFor table) (isPart_of_mem_digestOf hashLength table), ne_eq, eq_underscore_iff]

/-- A type name is valid unless a single underscore was given a digest. -/
theorem validName_type_iff {p : SchemaTable × String} (hp : p ∈ named hashLength schema) :
    ValidName p.2 ↔ (typeNameFor p.1.name = "_" → p.2 = "_") := by
  rcases chosenAgainst_named hashLength schema hp with ht | ⟨ht, -⟩
  · have hne : taggedTypeName hashLength p.1.name ≠ "_" := by
      intro he
      have h := plain_not_mem_tagged hashLength "_" p.1.name
      have hplain : typeNameFor "_" = "_" := by decide
      rw [he, hplain] at h
      exact h (self_mem_typeNames "_")
    have ht : p.2 = taggedTypeName hashLength p.1.name := ht
    rw [ht, validName_tagged_iff]
    exact ⟨fun h he => absurd he h, fun h he => hne (h he)⟩
  · rw [ht]
    exact iff_of_true (isName_typeNameFor p.1.name) id

theorem isPart_of_mem_type {p : SchemaTable × String} (hp : p ∈ named hashLength schema) :
    ∀ c ∈ p.2.toList, isPart c = true := by
  have hplain := (isName_typeNameFor p.1.name).parts
  have hunderscore : isPart '_' = true := by decide
  intro c hc
  rcases chosenAgainst_named hashLength schema hp with ht | ⟨ht, -⟩
  · have ht : p.2 = taggedTypeName hashLength p.1.name := ht
    rw [ht, toList_taggedTypeName] at hc
    rcases List.mem_append.1 hc with hc | hc
    · exact hplain c hc
    · rcases List.mem_cons.1 hc with rfl | hc
      · exact hunderscore
      · exact isPart_of_mem_digestOf hashLength _ c hc
  · exact hplain c (ht ▸ hc)

def words : List String := ["Page", "Input", "get", "getFirstOf", "putItem"]

/-- Behind a word any type name will do. -/
theorem validName_word {p : SchemaTable × String} (hp : p ∈ named hashLength schema) (word : String)
    (hw : word ∈ words) : ValidName (word ++ p.2) := by
  have hall : ∀ w ∈ words, w.toList ≠ [] ∧ w.toList.all Char.isAlpha = true := by decide
  obtain ⟨hne, halpha⟩ := hall word hw
  rw [ValidName, String.toList_append]
  exact isName_lead hne (List.all_eq_true.1 halpha) (isPart_of_mem_type hp)

/-! ## Names of relations -/

/-- What the names of relations come to while the foreign keys of a table are gone through. -/
structure Spelled (p : SchemaTable × String) (s : RelationState) : Prop where
  given : ∀ column name, s.namer.lookup p.1.name column = some name → ∃ rel ∈ s.relations, rel.column = column
  valid : (∀ c ∈ Assoc.keys (scalarFields p.1), ValidName c) →
    (∀ rel, firstOn s.relations "_" = some rel → sanitizeName rel.referencedTable ≠ "_") →
    ∀ rel ∈ s.relations, ValidName rel.field
  reserved : ∀ rel, firstOn s.relations "_" = some rel → sanitizeName rel.referencedTable = "_" →
    ¬ ValidName rel.field

theorem firstOn_concat (relations : List Relation) (new : Relation) (column : String) :
    firstOn (relations ++ [new]) column =
      (firstOn relations column).or (if new.column = column then some new else none) := by
  simp only [firstOn, List.find?_append, List.find?_singleton, decide_eq_true_eq]

theorem firstOn_eq_none {relations : List Relation} {column : String} :
    firstOn relations column = none ↔ ∀ rel ∈ relations, rel.column ≠ column := by
  simp [firstOn]

variable {bases : Assoc String String} {p : SchemaTable × String}

/-- The column of a relation is a column of the table, or else the name of an earlier relation. -/
theorem Related.mem_fields {done : List ForeignKey} {s : RelationState} (h : Related bases p done s)
    {column : String} (hc : s.fields.has column = true) :
    column ∈ Assoc.keys (scalarFields p.1) ∨ ∃ rel ∈ s.relations, rel.field = column := by
  rw [Assoc.has_iff, h.fields, Assoc.mem_keys_overlay] at hc
  simpa [Assoc.keys, relationEntry] using hc

theorem Related.taken {done : List ForeignKey} {s : RelationState} (h : Related bases p done s)
    {column : String} (hc : s.fields.has column = true) : column ∈ s.namer.takenFor p.1.name := by
  rcases h.mem_fields hc with hc | ⟨rel, hr, rfl⟩
  · exact h.coherent.seeded column (List.mem_cons_of_mem _ hc)
  · exact (h.coherent.held rel.column rel.field (h.held rel hr)).1

/-- The name that a foreign key gets in this state. -/
def nameIn (p : SchemaTable × String) (s : RelationState) (f : ForeignKey) : String :=
  (s.namer.assign p.1.name f.column f.referencedTable).1

/-- A column that has a relation keeps its name. -/
theorem Related.nameIn_of_some {done : List ForeignKey} {s : RelationState} (h : Related bases p done s)
    {f : ForeignKey} {rel : Relation} (hfirst : firstOn s.relations f.column = some rel) :
    rel ∈ s.relations ∧ nameIn p s f = rel.field := by
  have hr := List.mem_of_find?_eq_some hfirst
  have hcolumn : rel.column = f.column := by simpa using List.find?_some hfirst
  have hheld := h.held rel hr
  rw [hcolumn] at hheld
  exact ⟨hr, congrArg Prod.fst (Namer.assign_of_held hheld f.referencedTable)⟩

/-- A column that has no relation yet is given a new name. -/
theorem Spelled.nameIn_of_none {s : RelationState} (h : Spelled p s) {f : ForeignKey}
    (hfirst : firstOn s.relations f.column = none) :
    nameIn p s f = s.namer.choose p.1.name f.column f.referencedTable := by
  cases hl : s.namer.lookup p.1.name f.column with
  | none => simp only [nameIn, Namer.assign_of_new hl]
  | some held =>
    obtain ⟨rel, hr, hcolumn⟩ := h.given _ _ hl
    exact absurd hcolumn (firstOn_eq_none.1 hfirst rel hr)

theorem Spelled.validName_nameIn {done : List ForeignKey} {s : RelationState} (hrelated : Related bases p done s)
    (h : Spelled p s) {f : ForeignKey} (hc : s.fields.has f.column = true)
    (hcolumns : ∀ c ∈ Assoc.keys (scalarFields p.1), ValidName c)
    (hold : ∀ rel ∈ s.relations, ValidName rel.field)
    (hfirst : firstOn s.relations f.column = none → f.column = "_" → sanitizeName f.referencedTable ≠ "_") :
    ValidName (nameIn p s f) := by
  cases hl : firstOn s.relations f.column with
  | some rel =>
    obtain ⟨hr, hname⟩ := hrelated.nameIn_of_some hl
    exact hname ▸ hold rel hr
  | none =>
    have hvalid : ValidName f.column := by
      rcases hrelated.mem_fields hc with hc | ⟨rel, hr, hfield⟩
      · exact hcolumns f.column hc
      · exact hfield ▸ hold rel hr
    rw [h.nameIn_of_none hl]
    exact Namer.isName_choose hvalid (hfirst hl)

theorem Spelled.not_validName_nameIn {done : List ForeignKey} {s : RelationState} (hrelated : Related bases p done s)
    (h : Spelled p s) {f : ForeignKey} (hc : s.fields.has f.column = true)
    (hfirst : firstOn s.relations f.column = none) (hcolumn : f.column = "_")
    (hreferenced : sanitizeName f.referencedTable = "_") : ¬ ValidName (nameIn p s f) := by
  have htaken := hrelated.taken hc
  rw [hcolumn] at htaken
  rw [h.nameIn_of_none hfirst, hcolumn]
  intro hvalid
  exact hvalid.unreserved (Namer.reserved_choose htaken hreferenced)

theorem Spelled.addRelation {done : List ForeignKey} {s : RelationState} (hrelated : Related bases p done s)
    (h : Spelled p s) (f : ForeignKey) : Spelled p (addRelation bases p.1.name p.2 s f) := by
  rcases addRelation_cases bases p.1.name p.2 s f with ⟨he, -⟩ | ⟨target, -, hc, he⟩
  · rw [he]
    exact h
  · let new : Relation := ⟨p.2, nameIn p s f, p.1.name, f.column, f.referencedTable, f.referencedColumn⟩
    have hrelations : (Generated.addRelation bases p.1.name p.2 s f).relations = s.relations ++ [new] := by
      rw [he]
      rfl
    have hfirstOn (column : String) : firstOn (s.relations ++ [new]) column =
        (firstOn s.relations column).or (if f.column = column then some new else none) :=
      firstOn_concat s.relations new column
    refine ⟨?_, ?_, ?_⟩
    · rw [hrelations, he]
      intro column held hl
      rw [Namer.lookup_assign] at hl
      split at hl
      · rename_i hk
        exact ⟨new, List.mem_append_right _ (List.mem_singleton.2 rfl), hk.2⟩
      · obtain ⟨rel, hr, hcolumn⟩ := h.given column held hl
        exact ⟨rel, List.mem_append_left _ hr, hcolumn⟩
    · rw [hrelations]
      intro hcolumns hfirst
      have hold : ∀ rel ∈ s.relations, ValidName rel.field := by
        refine h.valid hcolumns fun rel hrel => hfirst rel ?_
        rw [hfirstOn, hrel, Option.some_or]
      intro rel hr
      rcases List.mem_append.1 hr with hr | hr
      · exact hold rel hr
      · obtain rfl : rel = new := List.mem_singleton.1 hr
        refine h.validName_nameIn hrelated hc hcolumns hold ?_
        intro hnone hcolumn
        refine hfirst new ?_
        rw [hfirstOn, ← hcolumn, hnone, Option.none_or, if_pos rfl]
    · rw [hrelations]
      intro rel hrel hreferenced
      rw [hfirstOn] at hrel
      rcases Option.or_eq_some_iff.1 hrel with hrel | ⟨hnone, hrel⟩
      · exact h.reserved rel hrel hreferenced
      · rw [Option.ite_none_right_eq_some] at hrel
        obtain ⟨hcolumn, hnew⟩ := hrel
        obtain rfl : new = rel := Option.some.inj hnew
        exact h.not_validName_nameIn hrelated hc (hcolumn ▸ hnone) hcolumn hreferenced

theorem Spelled.foldl {done : List ForeignKey} {s : RelationState} (hrelated : Related bases p done s)
    (h : Spelled p s) (keys : List ForeignKey) :
    Spelled p (keys.foldl (Generated.addRelation bases p.1.name p.2) s) := by
  induction keys generalizing done s with
  | nil => exact h
  | cons f r ih => exact ih (hrelated.addRelation f) (h.addRelation hrelated f)

theorem spelled_outcome (hashLength : Int) (bases : Assoc String String) (p : SchemaTable × String) :
    Spelled p (outcome hashLength bases p) := by
  refine Spelled.foldl (Related.start hashLength bases p) ⟨?_, ?_, ?_⟩ p.1.sortedForeignKeys
  · intro column name hl
    cases hl
  · intro _ _ rel hr
    cases hr
  · intro rel hrel
    cases hrel

/-! ## All names -/

def fixedNames : List String := [queryType, mutationType, "total", "items", "filter", "pagination", "input"]

theorem validName_fixed {name : String} (h : name ∈ fixedNames) : ValidName name := by
  have hall : ∀ s ∈ fixedNames, s.toList ≠ [] ∧ s.toList.all Char.isAlpha = true := by decide
  obtain ⟨hne, halpha⟩ := hall name h
  have hname := isName_lead (t := []) hne (List.all_eq_true.1 halpha) (by simp)
  rwa [List.append_nil] at hname

theorem validName_pageArgs : ∀ a ∈ pageArgs, ValidName a.1 := by
  have hall : ∀ a ∈ pageArgs, a.1 ∈ fixedNames := by decide
  exact fun a ha => validName_fixed (hall a ha)

/-- An exposed column is a valid name unless it ends with a line feed. -/
theorem validName_column_iff {relations : List Relation} {c : String} (hc : c ∈ (tableTypes p relations).columns) :
    ValidName c ↔ c.toList.getLast? ≠ some '\n' := by
  obtain ⟨column, hm, rfl⟩ := List.mem_map.1 hc
  have hadmitted := (List.mem_filter.1 hm).2
  simp only [isAdmitted, Bool.and_eq_true] at hadmitted
  exact isName_iff_of_isAdmitted hadmitted.2

variable {p : SchemaTable × String}

theorem validName_scalar (hcolumns : ∀ c ∈ (typesOf hashLength schema p).columns, c.toList.getLast? ≠ some '\n') :
    ∀ c ∈ Assoc.keys (scalarFields p.1), ValidName c := by
  intro c hc
  have hm := (mem_columns_iff p (outcomeOf hashLength schema p).relations c).2 hc
  exact (validName_column_iff hm).2 (hcolumns c hm)

theorem validName_columnFields
    (hcolumns : ∀ c ∈ (typesOf hashLength schema p).columns, c.toList.getLast? ≠ some '\n') :
    ∀ q ∈ columnFields p.1, ValidName q.1 := by
  intro q hq
  refine validName_scalar hcolumns q.1 (List.mem_map.2 ⟨_, List.mem_map_of_mem hq, rfl⟩)

theorem fieldValid_of_outcome (hn : Nameable (build hashLength schema) (typesOf hashLength schema p))
    (hkept : TypeKept (build hashLength schema) (typesOf hashLength schema p)) {name : String} {f : Field}
    (h : (name, f) ∈ (outcomeOf hashLength schema p).fields) : FieldValid (name, f) := by
  have hscalar := validName_scalar (hn.columns hkept.held)
  rcases field_origin h with ⟨rel, hr, -, he⟩ | hm
  · have hvalid := (spelled_outcome hashLength (basesOf (named hashLength schema)) p).valid hscalar
      (hn.relations hkept) rel hr
    obtain ⟨rfl, rfl⟩ := Prod.mk.inj he
    exact ⟨hvalid, hvalid, validName_pageArgs⟩
  · have hkey : ValidName name := hscalar name (List.mem_map_of_mem hm)
    obtain ⟨⟨column, ref⟩, -, he⟩ := List.mem_map.1 hm
    obtain ⟨rfl, rfl⟩ := Prod.mk.inj he
    exact ⟨hkey, hkey, by simp⟩

theorem fieldValid_of_type
    (hn : ∀ t ∈ (build hashLength schema).tables, Nameable (build hashLength schema) t) {type : String}
    {fields : Fields} (htype : (type, fields) ∈ (build hashLength schema).types) {q : String × Field}
    (hq : q ∈ fields) : FieldValid q := by
  have hname {p : SchemaTable × String} (hp : p ∈ emitted hashLength schema) (word : String) (hw : word ∈ words) :
      ValidName (word ++ p.2) := validName_word (List.mem_filter.1 hp).1 word hw
  rcases type_origin htype with ⟨-, rfl⟩ | ⟨-, rfl⟩ | ⟨p, hp, -, rfl, hkept⟩ | ⟨p, hp, -, rfl⟩
  · obtain ⟨p, hp, ⟨hkey, hf⟩ | ⟨hkey, hf⟩⟩ := query_origin hq
    · have hvalid : ValidName (typesOf hashLength schema p).listField := hname hp "get" (by decide)
      exact ⟨hkey ▸ hvalid, hf ▸ hvalid, hf ▸ validName_pageArgs⟩
    · have hvalid : ValidName (typesOf hashLength schema p).firstField := hname hp "getFirstOf" (by decide)
      exact ⟨hkey ▸ hvalid, hf ▸ hvalid, hf ▸ validName_pageArgs⟩
  · obtain ⟨p, hp, hkey, hf, hheld⟩ := mutation_origin hq
    have hvalid : ValidName (typesOf hashLength schema p).putField := hname hp "putItem" (by decide)
    refine ⟨hkey ▸ hvalid, hf ▸ hvalid, ?_⟩
    rw [hf]
    intro a ha
    rcases List.mem_cons.1 ha with rfl | ha
    · have hinput : ValidName "input" := validName_fixed (by decide)
      exact hinput
    · obtain ⟨column, hm, rfl⟩ := List.mem_map.1 ha
      exact validName_columnFields ((hn _ (mem_tables_of_emitted hp)).columns hheld) column (List.mem_filter.1 hm).1
  · exact fieldValid_of_outcome (hn _ (mem_tables_of_emitted hp)) hkept hq
  · have htotal : ValidName "total" := validName_fixed (by decide)
    have hitems : ValidName "items" := validName_fixed (by decide)
    simp only [pageFields, List.mem_cons, List.not_mem_nil, or_false] at hq
    rcases hq with rfl | rfl
    · exact ⟨htotal, htotal, by simp⟩
    · exact ⟨hitems, hitems, by simp⟩

theorem namesValid_of_nameable
    (hn : ∀ t ∈ (build hashLength schema).tables, Nameable (build hashLength schema) t) :
    NamesValid (build hashLength schema) where
  types := by
    rintro ⟨type, fields⟩ htype
    have hquery : ValidName queryType := validName_fixed (by decide)
    have hmutation : ValidName mutationType := validName_fixed (by decide)
    rcases type_origin htype with ⟨rfl, -⟩ | ⟨rfl, -⟩ | ⟨p, hp, rfl, -⟩ | ⟨p, hp, rfl, -⟩
    · exact hquery
    · exact hmutation
    · exact (validName_type_iff (List.mem_filter.1 hp).1).2 (hn _ (mem_tables_of_emitted hp)).type
    · exact validName_word (List.mem_filter.1 hp).1 "Page" (by decide)
  fields := by
    rintro ⟨type, fields⟩ htype q hq
    exact fieldValid_of_type hn htype hq
  inputs := by
    rintro ⟨type, fields⟩ htype
    obtain ⟨p, hp, rfl, -⟩ := input_origin htype
    exact validName_word (List.mem_filter.1 hp).1 "Input" (by decide)
  inputFields := by
    rintro ⟨type, fields⟩ htype
    obtain ⟨p, hp, -, rfl, hheld⟩ := input_origin htype
    exact validName_columnFields ((hn _ (mem_tables_of_emitted hp)).columns hheld)

theorem NamesValid.type (h : NamesValid (build hashLength schema)) {p : SchemaTable × String}
    (hp : p ∈ compiled hashLength schema) : typeNameFor p.1.name = "_" → p.2 = "_" := by
  obtain ⟨hnamed, hhas⟩ := List.mem_filter.1 hp
  obtain ⟨⟨type, fields⟩, htype, he⟩ := List.mem_map.1 ((Assoc.has_iff _ _).1 hhas)
  exact (validName_type_iff hnamed).1 (he ▸ h.types _ htype)

theorem NamesValid.columns (h : NamesValid (build hashLength schema))
    (hp : p ∈ emitted hashLength schema) (hheld : TypeHeld (build hashLength schema) (typesOf hashLength schema p)) :
    ∀ c ∈ (typesOf hashLength schema p).columns, c.toList.getLast? ≠ some '\n' := by
  intro c hc
  have hkey := (mem_columns_iff p (outcomeOf hashLength schema p).relations c).1 hc
  obtain ⟨q, hq, rfl⟩ := List.mem_map.1 hkey
  obtain ⟨column, hm, rfl⟩ := List.mem_map.1 hq
  exact (validName_column_iff hc).1 (h.inputFields _ (input_of_held hp hheld) column hm)

theorem NamesValid.relations (h : NamesValid (build hashLength schema)) {t : TableTypes}
    (ht : t ∈ (build hashLength schema).tables) (hkept : TypeKept (build hashLength schema) t) {rel : Relation}
    (hfirst : firstOn t.relations "_" = some rel) : sanitizeName rel.referencedTable ≠ "_" := by
  intro hreferenced
  have hr : rel ∈ t.relations := List.mem_of_find?_eq_some hfirst
  obtain ⟨last, hlast⟩ := exists_lastOn hr
  obtain ⟨hm, hcolumn⟩ := lastOn_mem hlast
  obtain ⟨fields, htype, hentry⟩ := exists_relationEntry ht hkept hm (hcolumn ▸ hlast)
  have hvalid : ValidName last.field := (h.fields _ htype _ hentry).key
  rw [(relation_field_eq_iff ht hm hr).2 hcolumn] at hvalid
  obtain ⟨p, -, rfl⟩ := compiled_of_mem_tables ht
  exact (spelled_outcome hashLength (basesOf (named hashLength schema)) p).reserved rel hfirst hreferenced hvalid

end Generated

open Generated

/-- Every name in the registries is valid exactly if no table gets a digest behind a type name that is one
underscore, no exposed column of a table whose type no later one has ends with a line feed, and in no
table that keeps its type is a table that comes to an underscore the first that a column `_` refers to. -/
theorem names_valid_iff (hashLength : Int) (schema : Schema) :
    NamesValid (build hashLength schema) ↔
      ∀ t ∈ (build hashLength schema).tables, Nameable (build hashLength schema) t := by
  refine ⟨?_, namesValid_of_nameable⟩
  intro h t ht
  refine ⟨?_, ?_, fun hkept rel hfirst => h.relations ht hkept hfirst⟩
  · obtain ⟨p, hp, rfl⟩ := compiled_of_mem_tables ht
    exact h.type hp
  · intro hheld c hc
    obtain ⟨p, hp, rfl⟩ := compiled_of_mem_tables ht
    have hemitted := emitted_of_columns (List.mem_filter.1 hp).1 (List.ne_nil_of_mem hc)
    exact h.columns hemitted hheld c hc

def tableOf (name : String) (columns : List String) (foreignKeys : List ForeignKey) : SchemaTable :=
  ⟨name, columns.map fun c => ⟨c, "INTEGER", true, false, .text⟩, foreignKeys, true⟩

/-- A column that ends with a line feed. -/
def lineFeedSchema : Schema := ⟨[tableOf "t" ["a\n"] []]⟩

/-- Two tables whose plain type name is an underscore. -/
def underscoreTypes : Schema := ⟨[tableOf "_" ["id"] [], tableOf "é" ["id"] []]⟩

/-- A column `_` that refers to a table that comes to an underscore. -/
def underscoreRelation : Schema := ⟨[tableOf "_" ["id"] [], tableOf "t" ["_"] [⟨"_", "_", "id"⟩]]⟩

theorem invalid_names :
    ¬ NamesValid (build 8 lineFeedSchema) ∧ ¬ NamesValid (build 8 underscoreTypes) ∧
      ¬ NamesValid (build 8 underscoreRelation) := by
  refine ⟨?_, ?_, ?_⟩
  · decide +kernel
  · decide +kernel
  · decide +kernel

end TableGraph
