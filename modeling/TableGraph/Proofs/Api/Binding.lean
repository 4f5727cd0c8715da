import TableGraph.Proofs.Api.History
import TableGraph.Proofs.Catalog.RootFields
import TableGraph.Proofs.Catalog.Spelling
import TableGraph.Proofs.Document.Binding

/-! # Binding the types of an API to its resolvers

Whatever was called, the resolver map of an API names fields of its types only, and once it is connected it
names every generated list, lookup, put and relation field. The text of the types is read as the types, so
what the map names is found in the document too, unless something added by hand cannot be read as it was
named, or was added to a type that is given (`binding_of_history`).
-/
namespace TableGraph
open Document

/-- What was added by hand can be read, the types and fields under the names that they were given, and none of the
types is one that needs no definition. -/
structure Catalog.WellAdded (c : Catalog) : Prop where
  types : ∀ p ∈ c.addedTypes, IsWord p.1.toList ∧ isGiven p.1 = false ∧
    ∀ q ∈ p.2, IsWord q.1.toList ∧ q.2.Readable
  inputs : ∀ p ∈ c.addedInputs, (∃ name, Spells p.1 name) ∧
    ∀ q ∈ p.2, (∃ name, Spells q.1 name) ∧ ∃ type, q.2.Denotes type

namespace Api
variable {ι : Type} {hashLength : Int} {a : Api ι}

/-! ## The map and the registries -/

theorem not_generates {c : Catalog} (hc : c.generated = {}) (type field : String) : ¬ c.Generates type field := by
  rintro ⟨t, ht, -⟩
  rw [hc] at ht
  cases ht

/-- What the map names was added, or is generated and has a connection to be resolved by. -/
theorem Agreeing.origin (h : Agreeing hashLength a) {type field : String}
    (ho : a.resolver.Offers a.hasEngine type field) :
    HasField a.catalog.addedTypes type field ∨ a.hasEngine = true ∧ a.catalog.Generates type field := by
  have hhandler := Resolver.handler_of_offers h.nodup ho
  cases he : a.resolver.entry? type field with
  | none => simp [he] at hhandler
  | some e =>
    rw [he, Option.bind_some] at hhandler
    cases hov : e.override with
    | some code => exact .inl (h.overridden type field (by rw [he, Option.bind_some, hov]; rfl))
    | none =>
      have hdefault : a.hasEngine = true ∧ e.default.isSome = true := by
        rw [Entry.handler, hov] at hhandler
        cases hc : a.hasEngine with
        | true => simpa [hc] using hhandler
        | false => simp [hc] at hhandler
      exact .inr ⟨hdefault.1, (h.defaulted type field).1 (by rw [he, Option.bind_some]; exact hdefault.2)⟩

/-- The map names fields of the types in force only. -/
theorem Agreeing.hasField (h : Agreeing hashLength a) {type field : String}
    (ho : a.resolver.Offers a.hasEngine type field) : HasField (a.catalog.types a.hasEngine) type field := by
  rcases h.origin ho with hadded | ⟨hc, hg⟩
  · rw [Catalog.types]
    split
    · obtain ⟨fields, hget, hm⟩ := hadded
      exact hasField_layered.2 (.inr ⟨_, Assoc.mem_of_get? hget, rfl, hm⟩)
    · exact hadded
  · rw [Catalog.types, if_pos hc, hasField_layered]
    rcases h.generated with hnone | ⟨-, s, hs, hbuild⟩
    · exact absurd hg (not_generates hnone type field)
    · exact .inl (hs.hasField hbuild hg)

/-- Every field that is generated for a default is in the map. -/
theorem Agreeing.offers (h : Agreeing hashLength a) {type field : String} (hg : a.catalog.Generates type field) :
    a.resolver.Offers a.hasEngine type field := by
  have hdefault := (h.defaulted type field).2 hg
  have hconnected : a.hasEngine = true := by
    rcases h.generated with hnone | ⟨hc, -⟩
    · exact absurd hg (not_generates hnone type field)
    · exact hc
  apply Resolver.offers_of_handler
  cases he : a.resolver.entry? type field with
  | none => simp [he] at hdefault
  | some e =>
    rw [he, Option.bind_some] at hdefault
    rw [hconnected, Option.bind_some, Entry.handler]
    cases e.override with
    | some code => rfl
    | none => simpa using hdefault

end Api

/-! ## The map and the document -/

namespace Catalog
variable {c : Catalog}

theorem WellAdded.readable (h : c.WellAdded) : ReadableTypes c.addedTypes c.addedInputs where
  types := by
    intro p hp
    obtain ⟨hword, -, hall⟩ := h.types p hp
    exact ⟨⟨_, spells_word hword⟩, fun q hq => (hall q hq).2⟩
  inputs := h.inputs

end Catalog

namespace Api
variable {ι : Type} {hashLength : Int} {a : Api ι}

theorem Agreeing.readable_generated (h : Agreeing hashLength a) :
    ReadableTypes a.catalog.generated.types a.catalog.generated.inputs := by
  rcases h.generated with hnone | ⟨-, s, -, hbuild⟩
  · rw [hnone]
    exact ⟨by simp, by simp⟩
  · rw [hbuild]
    exact Generated.readable_build

/-- The types in force are readable. -/
theorem Agreeing.readable (h : Agreeing hashLength a) (hw : a.catalog.WellAdded) (connected : Bool) :
    ReadableTypes (a.catalog.types connected) (a.catalog.inputs connected) := by
  have hadded := hw.readable
  have hgenerated := h.readable_generated
  cases connected with
  | false => exact hadded
  | true =>
    refine ⟨layered_forall (P := fun key => ∃ name, Spells key name) (Q := fun q : String × Field => q.2.Readable)
      hgenerated.types hadded.types, ?_⟩
    exact layered_forall (P := fun key => ∃ name, Spells key name)
      (Q := fun q : String × TypeRef => (∃ name, Spells q.1 name) ∧ ∃ type, q.2.Denotes type)
      hgenerated.inputs hadded.inputs

/-- The fields in force stand under their names. -/
theorem Agreeing.named (h : Agreeing hashLength a) (connected : Bool) :
    ∀ p ∈ a.catalog.types connected, ∀ q ∈ p.2, q.1 = q.2.name := by
  have hadded : ∀ p ∈ a.catalog.addedTypes, True ∧ ∀ q ∈ p.2, q.1 = q.2.name :=
    fun p hp => ⟨trivial, fun q hq => ((h.registry.types p hp).2 q hq).1⟩
  have hgenerated : ∀ p ∈ a.catalog.generated.types, True ∧ ∀ q ∈ p.2, q.1 = q.2.name := by
    intro p hp
    refine ⟨trivial, fun q hq => ?_⟩
    rcases h.generated with hnone | ⟨-, s, -, hbuild⟩
    · rw [hnone] at hp
      cases hp
    · rw [hbuild] at hp
      exact (Generated.readable_field hp hq).1
  cases connected with
  | false => exact fun p hp => (hadded p hp).2
  | true =>
    have hall := layered_forall (P := fun _ => True) (Q := fun q : String × Field => q.1 = q.2.name) hgenerated hadded
    exact fun p hp => (hall p hp).2

/-- A field that a default is made for is named by words, in a type that is not given. -/
theorem words_of_generates {c : Catalog} {s : Schema} (hc : c.generated = Generated.build hashLength s)
    {type field : String} (hg : c.Generates type field) :
    IsWord type.toList ∧ IsWord field.toList ∧ isGiven type = false := by
  obtain ⟨t, ht, hg⟩ := hg
  rw [hc] at ht
  obtain ⟨p, hp, rfl⟩ := Generated.compiled_of_mem_tables ht
  have hnamed := (List.mem_filter.1 hp).1
  have hlist := Generated.isWord_behind hnamed (by decide : "get" ∈ Generated.words)
  have hfirst := Generated.isWord_behind hnamed (by decide : "getFirstOf" ∈ Generated.words)
  have hput := Generated.isWord_behind hnamed (by decide : "putItem" ∈ Generated.words)
  rcases hg with ⟨rfl, rfl | rfl⟩ | ⟨rfl, rfl⟩ | ⟨rel, hr, rfl, rfl⟩
  · exact ⟨by decide, hlist, by decide⟩
  · exact ⟨by decide, hfirst, by decide⟩
  · exact ⟨by decide, hput, by decide⟩
  · rw [(Generated.relation_origin ht hr).1]
    exact ⟨Generated.isWord_type hnamed, Generated.isWord_relation hr, Generated.isGiven_type hnamed⟩

/-- What the map names is a name, and none of the types is given. -/
theorem Agreeing.words (h : Agreeing hashLength a) (hw : a.catalog.WellAdded) {type field : String}
    (ho : a.resolver.Offers a.hasEngine type field) :
    IsWord type.toList ∧ IsWord field.toList ∧ isGiven type = false := by
  rcases h.origin ho with hadded | ⟨-, hg⟩
  · obtain ⟨p, hp, rfl, q, hq, rfl⟩ := hadded.exists_mem
    obtain ⟨htype, hgiven, hall⟩ := hw.types p hp
    exact ⟨htype, (hall q hq).1, hgiven⟩
  · rcases h.generated with hnone | ⟨-, s, -, hbuild⟩
    · exact absurd hg (not_generates hnone type field)
    · exact words_of_generates hbuild hg

theorem eq_of_spells {text name : String} (hw : IsWord text.toList) (h : Spells text name) : name = text := by
  have htokens := h.tokens.symm.trans (spells_word hw).tokens
  simpa using htokens

/-- What the map names is defined in the document that the types are read as. -/
theorem Agreeing.defines (h : Agreeing hashLength a) (hw : a.catalog.WellAdded) {type field : String}
    (ho : a.resolver.Offers a.hasEngine type field) {ts : List TypeDefinition}
    (hts : List.Forall₂ TypeDenotes ((a.catalog.types a.hasEngine).filter fun p => !p.2.isEmpty) ts) :
    Defines ts type field := by
  obtain ⟨htype, hfield, hgiven⟩ := h.words hw ho
  obtain ⟨p, hp, rfl, q, hq, rfl⟩ := (h.hasField ho).exists_mem
  have hne : (!p.2.isEmpty) = true := by
    cases hf : p.2 with
    | nil =>
      rw [hf] at hq
      cases hq
    | cons _ _ => rfl
  obtain ⟨d, hd, hden⟩ := exists_related hts (List.mem_filter.2 ⟨hp, hne⟩)
  obtain ⟨f, hf, hfield'⟩ := exists_related hden.fields hq
  have hname := hfield'.name
  rw [← h.named a.hasEngine p hp q hq] at hname
  exact ⟨d, hd, hden.kind, eq_of_spells htype hden.name, hgiven, f, hf, eq_of_spells hfield hname⟩

/-- Binding meets no unknown type and no unknown field. -/
theorem Agreeing.bind (h : Agreeing hashLength a) (hw : a.catalog.WellAdded) (refresh : Bool) (e : ConfigError) :
    (a.bind refresh).1 ≠ .error (.config e) := by
  have htext : (a.bind refresh).1 = Document.bind (a.catalog.render a.hasEngine) a.fieldMap := by
    rw [← Catalog.text_eq_render h.current refresh a.hasEngine]
    rfl
  obtain ⟨is, ts, his, hts⟩ := (h.readable hw a.hasEngine).exists_definitions
  have hdefines : ∀ p ∈ a.fieldMap, ∀ field ∈ p.2, Defines (is ++ ts) p.1 field := by
    intro p hp field hf
    obtain ⟨d, hd, hrest⟩ := h.defines hw (Resolver.offers_of_mem hp hf) hts
    exact ⟨d, List.mem_append_right is hd, hrest⟩
  rw [htext]
  refine bind_ne_config (Resolver.fieldMap_spec a.resolver a.hasEngine).2 ?_ hdefines e
  exact read?_renderText his hts

/-- For every history of calls that read schemas with distinct type names, whether they succeed or fail: what the
resolver map names is a field of that type in the catalog, and every list, lookup, put and relation field that
was generated is in the map. Binding meets no unknown type and no unknown field if what was added by hand can
be read under its name and is not of a given type. -/
theorem binding_of_history (name : String) (engine : Option Engine) (exclude : List String)
    (productName : Option String) (settings : Settings) (hook : Hook ι) {steps : List (Step ι)}
    (hs : ∀ x ∈ steps, x.ReadsApart settings.hashLength) :
    let a := (create name engine exclude productName settings hook).after steps
    (∀ type field, a.resolver.Offers a.hasEngine type field → HasField (a.catalog.types a.hasEngine) type field) ∧
    (∀ type field, a.catalog.Generates type field → a.resolver.Offers a.hasEngine type field) ∧
    (a.catalog.WellAdded → ∀ refresh e, (a.bind refresh).1 ≠ .error (.config e)) := by
  intro a
  have h : Agreeing settings.hashLength a :=
    agreeing_after (agreeing_create name engine exclude productName settings hook) hs
  exact ⟨fun _ _ => h.hasField, fun _ _ => h.offers, fun hw => h.bind hw⟩

/-- Two fields by hand, one of them of a type that the connection between them generates. -/
def connectedSteps : List (Step Unit) := [
  .add queryType "hello" (.text "String") (some (.host ())) [],
  .connect (fun _ _ => .ok (twoTables "posts" "users")) "",
  .add "Posts" "score" (.text "Int") none []]

theorem readsApart_connectedSteps : ∀ x ∈ connectedSteps, x.ReadsApart 8 := by
  intro x hx
  simp only [connectedSteps, List.mem_cons, List.not_mem_nil, or_false] at hx
  rcases hx with rfl | rfl | rfl
  · trivial
  · intro space exclude s hs
    obtain rfl := Except.ok.inj hs
    decide +kernel
  · trivial

/-- A connected API whose query type has a field by hand beside the generated ones, all of which it binds. -/
theorem binding_connectedSteps :
    let a := (create "" (some ⟨"sqlite", none⟩) [] none {} {}).after connectedSteps
    (∀ x ∈ connectedSteps, x.ReadsApart 8) ∧ a.catalog.Generates queryType "getPosts" ∧
      a.resolver.Offers a.hasEngine queryType "getPosts" ∧ a.catalog.WellAdded ∧
      ∀ refresh e, (a.bind refresh).1 ≠ .error (.config e) := by
  intro a
  have hbinding := binding_of_history "" (some ⟨"sqlite", none⟩) [] none {} {} readsApart_connectedSteps
  have hgenerates : a.catalog.Generates queryType "getPosts" := by
    have htable : ∃ t ∈ a.catalog.generated.tables, "getPosts" = t.listField := by decide +kernel
    obtain ⟨t, ht, hlist⟩ := htable
    exact ⟨t, ht, .inl ⟨rfl, .inl hlist⟩⟩
  have hadded : a.catalog.WellAdded := by
    have htypes : a.catalog.addedTypes = [(queryType, [("hello", ⟨"hello", .named "String", []⟩)]),
        ("Posts", [("score", ⟨"score", .named "Int", []⟩)])] := rfl
    have hinputs : a.catalog.addedInputs = [] := rfl
    refine ⟨?_, by simp [hinputs]⟩
    rw [htypes]
    intro p hp
    simp only [List.mem_cons, List.not_mem_nil, or_false] at hp
    rcases hp with rfl | rfl
    · refine ⟨by decide, by decide, fun q hq => ?_⟩
      obtain rfl := List.mem_singleton.1 hq
      exact ⟨by decide, ⟨_, spells_word (by decide)⟩, denotes_word (by decide), by simp⟩
    · refine ⟨by decide, by decide, fun q hq => ?_⟩
      obtain rfl := List.mem_singleton.1 hq
      exact ⟨by decide, ⟨_, spells_word (by decide)⟩, denotes_word (by decide), by simp⟩
  exact ⟨readsApart_connectedSteps, hgenerates, hbinding.2.1 _ _ hgenerates, hadded, hbinding.2.2 hadded⟩

/-- A field by hand of a type that every document has without a definition. -/
def stringLength : List (Step Unit) := [.add "String" "length" (.text "Int") (some (.host ())) []]

/-- A field that was added to a given type is in the catalog and in the map, and it is not in the document. -/
theorem bind_stringLength :
    let a := (create "" none [] none {} {}).after stringLength
    (∀ x ∈ stringLength, x.ReadsApart 8) ∧ HasField (a.catalog.types a.hasEngine) "String" "length" ∧
      (a.bind false).1 = .error (.config (.unknownObjectType "String")) := by
  intro a
  let length : Field := ⟨"length", .named "Int", []⟩
  have hcatalog : a.catalog = (Catalog.fresh 8 none).withField "String" length := rfl
  have hint : (TypeRef.named "Int").WellNamed := (by decide : IsWord "Int".toList)
  have hnamed : a.catalog.WellNamed := by
    rw [hcatalog]
    exact Catalog.registry_withField (Catalog.registry_fresh 8 none) ⟨by decide, by decide, hint, by simp [length]⟩
  have hread := Catalog.read?_render_of_wellNamed hnamed
    (.inr (by simp [hcatalog, Catalog.withField, Assoc.put_ne_nil]))
  refine ⟨by simp [stringLength, Step.ReadsApart], ⟨_, rfl, by decide⟩, ?_⟩
  change Document.bind (a.catalog.render false) a.fieldMap = _
  rw [Document.bind, hread]
  rfl

end Api

end TableGraph
