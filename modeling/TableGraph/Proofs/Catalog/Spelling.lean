import TableGraph.Document.Binding
import TableGraph.Proofs.Catalog.Closure
import TableGraph.Proofs.Catalog.ReadBack
import TableGraph.Proofs.Catalog.ValidNames

/-! # How generated types are read

Whatever the schema, the generated types are rendered as types that can be read: their names, and those of
relations, are characters of a name, if a reserved one at times, and the name of a column is read without the
line feed that it may end with. No type is generated under the name of a given one.
-/
namespace TableGraph
open Document Name

/-! ## Words -/

theorem isWord_of_isName {s : List Char} (h : IsName s) : IsWord s := by
  cases s with
  | nil => exact absurd rfl h.nonempty
  | cons c r =>
    refine isWord_cons ?_ fun d hd => h.parts d (List.mem_cons_of_mem c hd)
    have hpart := h.parts c List.mem_cons_self
    have hdigit := h.start c rfl
    simp only [isPart, isStart, Char.isAlphanum, hdigit, Bool.or_false] at hpart ⊢
    exact hpart

theorem isWord_append {s t : List Char} (hs : IsWord s) (ht : ∀ c ∈ t, isPart c = true) : IsWord (s ++ t) := by
  obtain ⟨c, r, rfl, hc, hr⟩ := exists_cons_of_isWord hs
  refine isWord_cons hc fun d hd => ?_
  rcases List.mem_append.1 hd with hd | hd
  · exact hr d hd
  · exact ht d hd

/-- The name for a relation starts with a sanitized text. -/
theorem Namer.isWord_choose (n : Namer) (table column referencedTable : String) :
    IsWord (n.choose table column referencedTable).toList := by
  have hunderscore : isPart '_' = true := by decide
  have hword (s : String) : IsWord (sanitizeName s).toList := isWord_of_isName (isName_sanitizeName s)
  obtain ⟨r, he, hr⟩ := n.choose_eq_append table column referencedTable
  rw [he]
  refine isWord_append ?_ hr
  have hsecond : IsWord (if relationCandidate referencedTable ∈ n.takenFor table then
      sanitizeName (relationCandidate referencedTable ++ "_" ++ column)
      else relationCandidate referencedTable).toList := by
    split
    · exact hword _
    · exact hword _
  simp only [candidate]
  generalize (if relationCandidate referencedTable ∈ n.takenFor table then
    sanitizeName (relationCandidate referencedTable ++ "_" ++ column)
    else relationCandidate referencedTable) = second at hsecond
  split
  · rw [String.toList_append, String.toList_append, List.append_assoc]
    refine isWord_append hsecond fun c hc => ?_
    rcases List.mem_cons.1 hc with rfl | hc
    · exact hunderscore
    · exact n.isPart_of_mem_suffix _ c hc
  · exact hsecond

/-- What may stand as a field is read as a name. -/
theorem exists_spells {s : String} (h : isAdmitted s.toList = true) : ∃ name, Spells s name := by
  have hfeed : isPart '\n' = false := by decide
  unfold Spells
  cases hs : s.toList with
  | nil =>
    rw [hs] at h
    cases h
  | cons c r =>
    rw [hs] at h
    simp only [isAdmitted, Bool.and_eq_true, Bool.or_eq_true, decide_eq_true_eq] at h
    obtain ⟨⟨hstart, -⟩, hrest | ⟨hlast, hparts⟩⟩ := h
    · exact ⟨_, .word (isWord_cons hstart (List.all_eq_true.1 hrest))⟩
    · have hsplit : c :: r = (c :: r.dropLast) ++ ['\n'] := by
        rw [List.cons_append, List.dropLast_append_getLast? '\n' hlast]
      have hword : IsWord (c :: r.dropLast) := isWord_cons hstart (List.all_eq_true.1 hparts)
      rw [hsplit]
      exact ⟨_, (Lexes.word hword).append (.cons_ignored (by decide) .nil) (detached_cons hfeed _)⟩

/-! ## Readable registries -/

structure Field.Readable (f : Field) : Prop where
  name : ∃ name, Spells f.name name
  returns : ∃ type, f.returns.Denotes type
  args : ∀ p ∈ f.args, (∃ name, Spells p.1 name) ∧ ∃ type, p.2.ref.Denotes type

/-- Every name in the registries is read as one name, and every type reference as one type. -/
structure ReadableTypes (types : Assoc String Fields) (inputs : Assoc String InputFields) : Prop where
  types : ∀ p ∈ types, (∃ name, Spells p.1 name) ∧ ∀ q ∈ p.2, q.2.Readable
  inputs : ∀ p ∈ inputs, (∃ name, Spells p.1 name) ∧
    ∀ q ∈ p.2, (∃ name, Spells q.1 name) ∧ ∃ type, q.2.Denotes type

theorem exists_related_list {α β : Type} {R : α → β → Prop} {l : List α} (h : ∀ a ∈ l, ∃ b, R a b) :
    ∃ m, List.Forall₂ R l m := by
  induction l with
  | nil => exact ⟨[], .nil⟩
  | cons a r ih =>
    obtain ⟨⟨b, hb⟩, hr⟩ := List.forall_mem_cons.1 h
    obtain ⟨m, hm⟩ := ih hr
    exact ⟨b :: m, .cons hb hm⟩

theorem Field.Readable.exists_denotes {f : Field} (h : f.Readable) : ∃ d, f.Denotes d := by
  obtain ⟨⟨name, hname⟩, ⟨type, htype⟩, hargs⟩ := h
  have hall : ∀ p ∈ f.args, ∃ a, ArgumentDenotes p a := by
    intro p hp
    obtain ⟨⟨n, hn⟩, t, ht⟩ := hargs p hp
    exact ⟨⟨n, t⟩, hn, ht⟩
  obtain ⟨args, hargs⟩ := exists_related_list hall
  exact ⟨⟨name, args, type⟩, hname, hargs, htype⟩

/-- Readable registries are denoted by definitions. -/
theorem ReadableTypes.exists_definitions {types : Assoc String Fields} {inputs : Assoc String InputFields}
    (h : ReadableTypes types inputs) :
    ∃ is ts, List.Forall₂ InputDenotes (inputs.filter fun p => !p.2.isEmpty) is ∧
      List.Forall₂ TypeDenotes (types.filter fun p => !p.2.isEmpty) ts := by
  have hinputs : ∀ p ∈ inputs.filter (fun p => !p.2.isEmpty), ∃ d, InputDenotes p d := by
    intro p hp
    obtain ⟨hp, hne⟩ := List.mem_filter.1 hp
    obtain ⟨⟨name, hname⟩, hall⟩ := h.inputs p hp
    have hfields : ∀ q ∈ p.2, ∃ f, InputFieldDenotes q f := by
      intro q hq
      obtain ⟨⟨n, hn⟩, t, ht⟩ := hall q hq
      exact ⟨⟨n, [], t⟩, hn, rfl, ht⟩
    obtain ⟨fields, hfields⟩ := exists_related_list hfields
    exact ⟨⟨.input, name, fields⟩, rfl, hname, by simpa using hne, hfields⟩
  have htypes : ∀ p ∈ types.filter (fun p => !p.2.isEmpty), ∃ d, TypeDenotes p d := by
    intro p hp
    obtain ⟨hp, hne⟩ := List.mem_filter.1 hp
    obtain ⟨⟨name, hname⟩, hall⟩ := h.types p hp
    obtain ⟨fields, hfields⟩ := exists_related_list fun q hq => (hall q hq).exists_denotes
    exact ⟨⟨.object, name, fields⟩, rfl, hname, by simpa using hne, hfields⟩
  obtain ⟨is, his⟩ := exists_related_list hinputs
  obtain ⟨ts, hts⟩ := exists_related_list htypes
  exact ⟨is, ts, his, hts⟩

theorem denotes_word {name : String} (h : IsWord name.toList) : ∃ type, (TypeRef.named name).Denotes type := by
  have hnamed : (TypeRef.named name).WellNamed := h
  exact ⟨_, hnamed.denotes⟩

theorem readable_pageArgs : ∀ p ∈ pageArgs, (∃ name, Spells p.1 name) ∧ ∃ type, p.2.ref.Denotes type := by
  intro p hp
  simp only [pageArgs, List.mem_cons, List.not_mem_nil, or_false] at hp
  rcases hp with rfl | rfl <;> exact ⟨⟨_, spells_word (by decide)⟩, denotes_word (by decide)⟩

namespace Generated
variable {hashLength : Int} {schema : Schema}

theorem isWord_type {p : SchemaTable × String} (hp : p ∈ named hashLength schema) : IsWord p.2.toList := by
  have hplain := isWord_of_isName (isName_typeNameFor p.1.name)
  have hunderscore : isPart '_' = true := by decide
  rcases chosenAgainst_named hashLength schema hp with ht | ⟨ht, -⟩
  · have ht : p.2 = taggedTypeName hashLength p.1.name := ht
    rw [ht, toList_taggedTypeName]
    refine isWord_append hplain fun c hc => ?_
    rcases List.mem_cons.1 hc with rfl | hc
    · exact hunderscore
    · exact isPart_of_mem_digestOf hashLength _ c hc
  · exact ht ▸ hplain

/-- A namer that has given out names made of the characters of a name only. -/
def Wordy (n : Namer) : Prop := ∀ table column name, n.lookup table column = some name → IsWord name.toList

theorem wordy_addRelation {bases : Assoc String String} {table type : String} {s : RelationState}
    (h : Wordy s.namer) (f : ForeignKey) : Wordy (addRelation bases table type s f).namer := by
  rcases addRelation_cases bases table type s f with ⟨he, -⟩ | ⟨target, -, -, he⟩
  · rw [he]
    exact h
  · rw [he]
    intro other column name hl
    change (s.namer.assign table f.column f.referencedTable).2.lookup other column = some name at hl
    rw [Namer.lookup_assign] at hl
    split at hl
    · obtain rfl := Option.some.inj hl
      cases hheld : s.namer.lookup table f.column with
      | some held =>
        rw [Namer.assign_of_held hheld]
        exact h _ _ _ hheld
      | none =>
        rw [Namer.assign_of_new hheld]
        exact s.namer.isWord_choose _ _ _
    · exact h _ _ _ hl

theorem wordy_foldl {bases : Assoc String String} {table type : String} {s : RelationState} (h : Wordy s.namer)
    (keys : List ForeignKey) : Wordy (keys.foldl (addRelation bases table type) s).namer := by
  induction keys generalizing s with
  | nil => exact h
  | cons f r ih => exact ih (wordy_addRelation h f)

theorem isWord_relation {p : SchemaTable × String} {rel : Relation}
    (hr : rel ∈ (outcomeOf hashLength schema p).relations) : IsWord rel.field.toList := by
  have hstart : Wordy (Namer.reserve { hashLength } p.1.name (Assoc.keys (scalarFields p.1))) := by
    intro table column name hl
    cases hl
  have hwordy : Wordy (outcomeOf hashLength schema p).namer := wordy_foldl hstart _
  exact hwordy _ _ _ ((related_outcome hashLength (basesOf (named hashLength schema)) p).held rel hr)

/-! ## The generated registries -/

theorem isWord_behind {p : SchemaTable × String} (hp : p ∈ named hashLength schema) {word : String}
    (hw : word ∈ words) : IsWord (word ++ p.2).toList := isWord_of_isName (validName_word hp word hw)

/-- The field of a column, under its name. -/
theorem column_origin {t : SchemaTable} {name : String} {ref : TypeRef} (h : (name, ref) ∈ columnFields t) :
    (∃ read, Spells name read) ∧ ∃ type, ref.Denotes type := by
  have hscalars : ∀ scalar ∈ builtInScalars, IsWord scalar.toList := by decide
  obtain ⟨scalar, hscalar, rfl⟩ := columnField_scalar h
  rw [columnFields_eq, Assoc.mem_overlay_nil] at h
  obtain ⟨c, hc, he⟩ := List.mem_map.1 (List.mem_reverse.1 (Assoc.mem_of_get? h))
  obtain ⟨rfl, -⟩ := Prod.mk.inj he
  have hadmitted := (List.mem_filter.1 hc).2
  simp only [isAdmitted, Bool.and_eq_true] at hadmitted
  exact ⟨exists_spells hadmitted.2, denotes_word (hscalars scalar hscalar)⟩

theorem readable_outcome {p : SchemaTable × String} {name : String} {f : Field}
    (h : (name, f) ∈ (outcomeOf hashLength schema p).fields) : name = f.name ∧ f.Readable := by
  rcases field_origin h with ⟨rel, hr, -, he⟩ | hm
  · obtain ⟨rfl, rfl⟩ := Prod.mk.inj he
    obtain ⟨q, hq, hname⟩ := exists_named_target hr
    have hbase : (basesOf (named hashLength schema)).get? rel.referencedTable = some q.2 :=
      hname ▸ get?_bases_named hq
    have htarget := denotes_word (isWord_type hq)
    refine ⟨rfl, ⟨_, spells_word (isWord_relation hr)⟩, ?_, readable_pageArgs⟩
    simpa [hbase] using htarget
  · obtain ⟨⟨column, ref⟩, hcolumn, he⟩ := List.mem_map.1 hm
    obtain ⟨rfl, rfl⟩ := Prod.mk.inj he
    obtain ⟨hspells, hdenotes⟩ := column_origin hcolumn
    exact ⟨rfl, hspells, hdenotes, by simp⟩

theorem readable_putArgs {p : SchemaTable × String} (hp : p ∈ emitted hashLength schema) :
    ∀ a ∈ putArgs (typesOf hashLength schema p) (columnFields p.1),
      (∃ name, Spells a.1 name) ∧ ∃ type, a.2.ref.Denotes type := by
  have hkey : IsWord "input".toList := by decide
  intro a ha
  rcases List.mem_cons.1 ha with rfl | ha
  · exact ⟨⟨_, spells_word hkey⟩,
      denotes_word (isWord_behind (List.mem_filter.1 hp).1 (by decide : "Input" ∈ words))⟩
  · obtain ⟨⟨column, ref⟩, hm, rfl⟩ := List.mem_map.1 ha
    exact column_origin (List.mem_filter.1 hm).1

/-- Every generated field stands under its name and is readable. -/
theorem readable_field {type : String} {fields : Fields} (h : (type, fields) ∈ (build hashLength schema).types)
    {q : String × Field} (hq : q ∈ fields) : q.1 = q.2.name ∧ q.2.Readable := by
  have hword {p : SchemaTable × String} (hp : p ∈ emitted hashLength schema) {word : String} (hw : word ∈ words) :
      IsWord (word ++ p.2).toList := isWord_behind (List.mem_filter.1 hp).1 hw
  rcases type_origin h with ⟨-, rfl⟩ | ⟨-, rfl⟩ | ⟨p, hp, -, rfl, -⟩ | ⟨p, hp, -, rfl⟩
  · obtain ⟨p, hp, ⟨hkey, hf⟩ | ⟨hkey, hf⟩⟩ := query_origin hq
    · have hpage := denotes_word (hword hp (by decide : "Page" ∈ words))
      rw [hkey, hf]
      exact ⟨rfl, ⟨_, spells_word (hword hp (by decide : "get" ∈ words))⟩, hpage, readable_pageArgs⟩
    · have htype := denotes_word (isWord_type (List.mem_filter.1 hp).1)
      rw [hkey, hf]
      exact ⟨rfl, ⟨_, spells_word (hword hp (by decide : "getFirstOf" ∈ words))⟩, htype, readable_pageArgs⟩
  · obtain ⟨p, hp, hkey, hf, -⟩ := mutation_origin hq
    have htype := denotes_word (isWord_type (List.mem_filter.1 hp).1)
    rw [hkey, hf]
    exact ⟨rfl, ⟨_, spells_word (hword hp (by decide : "putItem" ∈ words))⟩, htype, readable_putArgs hp⟩
  · exact readable_outcome hq
  · simp only [pageFields, List.mem_cons, List.not_mem_nil, or_false] at hq
    rcases hq with rfl | rfl
    · exact ⟨rfl, ⟨_, spells_word (by decide)⟩, denotes_word (by decide), by simp⟩
    · have hkey : IsWord "items".toList := by decide
      have hitem : (TypeRef.list (.named p.2)).WellNamed := isWord_type (List.mem_filter.1 hp).1
      exact ⟨rfl, ⟨_, spells_word hkey⟩, ⟨_, hitem.denotes⟩, by simp⟩

theorem isWord_key {type : String} {fields : Fields} (h : (type, fields) ∈ (build hashLength schema).types) :
    IsWord type.toList := by
  rcases type_origin h with ⟨rfl, -⟩ | ⟨rfl, -⟩ | ⟨p, hp, rfl, -⟩ | ⟨p, hp, rfl, -⟩
  · decide
  · decide
  · exact isWord_type (List.mem_filter.1 hp).1
  · exact isWord_behind (List.mem_filter.1 hp).1 (by decide : "Page" ∈ words)

/-- Whatever the schema, the generated registries are readable. -/
theorem readable_build : ReadableTypes (build hashLength schema).types (build hashLength schema).inputs where
  types := by
    intro p hp
    exact ⟨⟨_, spells_word (isWord_key hp)⟩, fun q hq => (readable_field hp hq).2⟩
  inputs := by
    rintro ⟨name, fields⟩ hp
    obtain ⟨p, hpe, rfl, rfl, -⟩ := input_origin hp
    exact ⟨⟨_, spells_word (isWord_behind (List.mem_filter.1 hpe).1 (by decide : "Input" ∈ words))⟩,
      fun q hq => column_origin hq⟩

/-- The names that are kept for introspection start with two underscores and a capital. -/
theorem capital_of_given : ∀ name ∈ givenNames, name ∈ Name.reservedTypes ∨
    name.toList.take 2 = ['_', '_'] ∧ (name.toList.drop 2).head?.any Char.isUpper = true := by decide

/-- No type is generated under the name of a given one. -/
theorem isGiven_type {p : SchemaTable × String} (hp : p ∈ named hashLength schema) : isGiven p.2 = false := by
  have hdigit : ∀ n < 16, (Nat.digitChar n).isUpper = false := by decide
  rw [isGiven, decide_eq_false_iff_not]
  intro hgiven
  obtain hreserved | ⟨hunderscores, hcapital⟩ := capital_of_given p.2 hgiven
  · exact not_mem_reservedTypes hashLength schema hp (self_mem_typeNames p.2) hreserved
  have hprefix : ['_', '_'] <+: p.2.toList := hunderscores ▸ List.take_prefix 2 p.2.toList
  have hplain := isName_typeNameFor p.1.name
  rcases chosenAgainst_named hashLength schema hp with ht | ⟨ht, -⟩
  · have ht : p.2 = taggedTypeName hashLength p.1.name := ht
    -- only a single underscore before the digest makes two
    have hbase : (typeNameFor p.1.name).toList = ['_'] := by
      by_contra hne
      rw [ht, toList_taggedTypeName] at hprefix
      exact ((isName_suffixed_iff hplain (isPart_of_mem_digestOf hashLength _)).2 hne).unreserved hprefix
    rw [ht, toList_taggedTypeName, hbase, Option.any_eq_true] at hcapital
    obtain ⟨c, hc, hupper⟩ := hcapital
    have hm : c ∈ Name.tag hashLength [p.1.name] := by
      have hdrop := List.mem_of_mem_head? hc
      simpa [digestOf] using hdrop
    obtain ⟨n, hn, rfl⟩ := exists_digit_of_mem_tag hm
    rw [hdigit n hn] at hupper
    cases hupper
  · rw [ht] at hprefix
    exact hplain.unreserved hprefix

end Generated

end TableGraph
