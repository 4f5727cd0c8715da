import TableGraph.Proofs.Store.Chains
import TableGraph.Proofs.Catalog.History
import TableGraph.Proofs.Catalog.Rendering

/-! # Additions are read back

What holds of everything that is added holds of everything in the registries (`Registry`), under the name
that it was added for. If all names that are added are names and all references are names inside lists, the
text of the additions is read as exactly the registries (`read?_text_of_additions`).
-/
namespace TableGraph
open Document

/-! ## The registries of additions -/

namespace Assoc
variable {κ ι ν : Type} [DecidableEq κ] [DecidableEq ι]

/-- A map put into a map of maps. Its entries are the one put and those that were there. -/
theorem mem_put_under {m : Assoc κ (Assoc ι ν)} {k : κ} {j : ι} {v : ν} {p : κ × Assoc ι ν}
    (h : p ∈ put m k (put ((get? m k).getD []) j v)) :
    (p.2 ≠ [] ∨ p ∈ m) ∧ ∀ q ∈ p.2, (p.1 = k ∧ q = (j, v)) ∨ ∃ fields, (p.1, fields) ∈ m ∧ q ∈ fields := by
  rcases mem_put h with rfl | h
  · refine ⟨.inl (put_ne_nil _ j v), fun q hq => ?_⟩
    rcases mem_put hq with rfl | hq
    · exact .inl ⟨rfl, rfl⟩
    · cases hg : get? m k with
      | none => simp [hg] at hq
      | some fields =>
        rw [hg, Option.getD_some] at hq
        exact .inr ⟨fields, mem_of_get? hg, hq⟩
  · exact ⟨.inr h, fun q hq => .inr ⟨p.2, h, hq⟩⟩

end Assoc

namespace Catalog

/-- Every added field and input field has the property, and every added type has a field. -/
structure Registry (P : String → Field → Prop) (Q : String → String → TypeRef → Prop) (c : Catalog) : Prop where
  types : ∀ p ∈ c.addedTypes, p.2 ≠ [] ∧ ∀ q ∈ p.2, q.1 = q.2.name ∧ P p.1 q.2
  inputs : ∀ p ∈ c.addedInputs, p.2 ≠ [] ∧ ∀ q ∈ p.2, Q p.1 q.1 q.2

section Registry
variable {P : String → Field → Prop} {Q : String → String → TypeRef → Prop} {c : Catalog}

theorem registry_fresh (hashLength : Int) (schema : Option Schema) : Registry P Q (fresh hashLength schema) where
  types := by simp [fresh]
  inputs := by simp [fresh]

theorem registry_withField (h : Registry P Q c) {type : String} {f : Field} (hf : P type f) :
    Registry P Q (c.withField type f) where
  types := by
    intro p hp
    obtain ⟨hne, hq⟩ := Assoc.mem_put_under hp
    refine ⟨?_, fun q hqp => ?_⟩
    · rcases hne with hne | hm
      · exact hne
      · exact (h.types p hm).1
    · rcases hq q hqp with ⟨htype, rfl⟩ | ⟨fields, hm, hqm⟩
      · exact ⟨rfl, htype ▸ hf⟩
      · exact (h.types _ hm).2 q hqm
  inputs := h.inputs

theorem registry_withInput (h : Registry P Q c) {type field : String} {ref : TypeRef} (hr : Q type field ref) :
    Registry P Q (c.withInput type field ref) where
  types := h.types
  inputs := by
    intro p hp
    obtain ⟨hne, hq⟩ := Assoc.mem_put_under hp
    refine ⟨?_, fun q hqp => ?_⟩
    · rcases hne with hne | hm
      · exact hne
      · exact (h.inputs p hm).1
    · rcases hq q hqp with ⟨htype, rfl⟩ | ⟨fields, hm, hqm⟩
      · exact htype ▸ hr
      · exact (h.inputs _ hm).2 q hqm

end Registry

end Catalog

/-! ## Well named additions -/

/-- The name of a type inside any number of lists, as a value. -/
inductive NamedType : Value → Prop where
  | name {name : String} : IsWord name.toList → NamedType (.text name)
  | list {v : Value} : NamedType v → NamedType (.list [v])

def TypeRef.WellNamed : TypeRef → Prop
  | named name => IsWord name.toList
  | list inner => inner.WellNamed

structure Field.WellNamed (f : Field) : Prop where
  name : IsWord f.name.toList
  returns : f.returns.WellNamed
  args : ∀ p ∈ f.args, IsWord p.1.toList ∧ p.2.ref.WellNamed

namespace Catalog

/-- An addition whose names are names and whose type references are names inside lists. -/
def Step.WellNamed : Step → Prop
  | .field type name returns args => IsWord type.toList ∧ IsWord name.toList ∧ NamedType returns ∧
      ∀ p ∈ args, IsWord p.1.toList ∧ NamedType p.2
  | .input type name given => IsWord type.toList ∧ IsWord name.toList ∧ NamedType given
  | .build _ | .text .. => False

/-- The registries hold names and references to names only. -/
abbrev WellNamed (c : Catalog) : Prop :=
  Registry (fun type f => IsWord type.toList ∧ f.WellNamed)
    (fun type field ref => IsWord type.toList ∧ IsWord field.toList ∧ ref.WellNamed) c

end Catalog

theorem ne_empty_of_isWord {s : String} (h : IsWord s.toList) : s ≠ "" := by
  rintro rfl
  obtain ⟨c, r, he, -⟩ := exists_cons_of_isWord h
  cases he

/-- The name of a type inside lists is read as a reference. -/
theorem ofValue_of_namedType {v : Value} (h : NamedType v) : ∃ ref, TypeRef.ofValue v = .ok ref ∧ ref.WellNamed := by
  induction h with
  | @name n hn =>
    have hne := ne_empty_of_isWord hn
    have htext : (Value.text n).givenText = n := by simp [Value.givenText, Value.text, Value.isGiven, Scalar.isGiven,
      Value.display, Scalar.display, hne]
    have htrim : Text.trim n.toList = n.toList :=
      Text.trim_of_not_blank fun c hc => Name.not_isBlank_of_isPart (hn.parts c hc)
    refine ⟨.named n, ?_, hn⟩
    change TypeRef.ofText (.text n) = _
    simp [TypeRef.ofText, htext, htrim, hne]
  | list _ ih =>
    obtain ⟨ref, hr, hw⟩ := ih
    exact ⟨.list ref, by rw [TypeRef.ofValue, hr]; rfl, hw⟩

theorem declareAll_of_namedTypes {args : Args} (h : ∀ p ∈ args, IsWord p.1.toList ∧ NamedType p.2) :
    ∃ declared, Field.declareAll args = .ok declared ∧ ∀ p ∈ declared, IsWord p.1.toList ∧ p.2.ref.WellNamed := by
  induction args with
  | nil => exact ⟨[], rfl, by simp⟩
  | cons p r ih =>
    obtain ⟨⟨hp, hv⟩, hr⟩ := List.forall_mem_cons.1 h
    obtain ⟨ref, href, hw⟩ := ofValue_of_namedType hv
    obtain ⟨declared, hd, hall⟩ := ih hr
    refine ⟨(p.1, ⟨p.2, ref⟩) :: declared, ?_, List.forall_mem_cons.2 ⟨⟨hp, hw⟩, hall⟩⟩
    exact Chain.mapM_cons_ok.2 ⟨_, _, by rw [Declared.ofValue, href]; rfl, hd, rfl⟩

namespace Catalog

/-- A well named addition succeeds, and the registries stay well named and are not empty. -/
theorem call_wellNamed {c : Catalog} (hc : c.WellNamed) {x : Step} (hx : x.WellNamed) :
    (c.call x).1 = true ∧ (c.call x).2.WellNamed ∧
      ((c.call x).2.addedInputs ≠ [] ∨ (c.call x).2.addedTypes ≠ []) := by
  cases x with
  | field type name returns args =>
    obtain ⟨htype, hname, hreturns, hargs⟩ := hx
    obtain ⟨ref, href, hw⟩ := ofValue_of_namedType hreturns
    obtain ⟨declared, hdeclared, hall⟩ := declareAll_of_namedTypes hargs
    have hadd : c.addField type name returns args = .ok (c.withField type ⟨name, ref, declared⟩) := by
      rw [addField_eq, newField]
      simp [ne_empty_of_isWord htype, ne_empty_of_isWord hname, href, hdeclared, Bind.bind, Except.bind, Pure.pure,
        Except.pure, Except.map]
    rw [call, hadd]
    exact ⟨rfl, registry_withField hc ⟨htype, hname, hw, hall⟩, .inr (Assoc.put_ne_nil _ _ _)⟩
  | input type name given =>
    obtain ⟨htype, hname, hgiven⟩ := hx
    obtain ⟨ref, href, hw⟩ := ofValue_of_namedType hgiven
    have hadd : c.addInput type name given = .ok (c.withInput type name ref) := by
      rw [addInput_eq, newInput]
      simp [ne_empty_of_isWord htype, ne_empty_of_isWord hname, href, Except.map]
    rw [call, hadd]
    exact ⟨rfl, registry_withInput hc ⟨htype, hname, hw⟩, .inl (Assoc.put_ne_nil _ _ _)⟩
  | build schema => cases hx
  | text refresh connected => cases hx

theorem wellNamed_after {c : Catalog} (hc : c.WellNamed) {steps : List Step} (h : ∀ x ∈ steps, x.WellNamed) :
    (c.after steps).WellNamed := by
  induction steps generalizing c with
  | nil => exact hc
  | cons x rest ih =>
    obtain ⟨hx, hrest⟩ := List.forall_mem_cons.1 h
    exact ih (call_wellNamed hc hx).2.1 hrest

/-- None of the well named additions is refused. -/
theorem accepted_wellNamed {c : Catalog} (hc : c.WellNamed) {steps : List Step} (h : ∀ x ∈ steps, x.WellNamed) :
    c.accepted steps = steps := by
  induction steps generalizing c with
  | nil => rfl
  | cons x rest ih =>
    obtain ⟨hx, hrest⟩ := List.forall_mem_cons.1 h
    obtain ⟨hok, hnext, -⟩ := call_wellNamed hc hx
    have hadd : x.isAddition = true := by cases x <;> first | rfl | cases hx
    rw [accepted, hok, hadd, Bool.and_self, if_pos rfl, ih hnext hrest]

end Catalog

/-! ## What is read back -/

def TypeRef.expr : TypeRef → TypeExpr
  | named name => .named name
  | list inner => .list inner.expr

/-- An entry of a type in the registries, as a field of a definition. -/
def fieldDefinition (p : String × Field) : FieldDefinition :=
  ⟨p.1, p.2.args.map fun a => ⟨a.1, a.2.ref.expr⟩, p.2.returns.expr⟩

def inputFieldDefinition (p : String × TypeRef) : FieldDefinition := ⟨p.1, [], p.2.expr⟩

def objectDefinition (p : String × Fields) : TypeDefinition := ⟨.object, p.1, p.2.map fieldDefinition⟩

def inputDefinition (p : String × InputFields) : TypeDefinition := ⟨.input, p.1, p.2.map inputFieldDefinition⟩

theorem spells_word {s : String} (h : IsWord s.toList) : Spells s s := by
  have hword := Lexes.word h
  rwa [String.ofList_toList] at hword

/-- A reference to a name is read as it stands. -/
theorem TypeRef.WellNamed.denotes {r : TypeRef} (h : r.WellNamed) : r.Denotes r.expr := by
  induction r with
  | named name => exact ⟨trivial, spells_word h⟩
  | list inner ih =>
    obtain ⟨hproper, hlexes⟩ := ih h
    refine ⟨hproper, ?_⟩
    have hclose : Lexes [']'] [.punctuator ']'] := .cons_punctuator (by decide) .nil
    have hall := Lexes.cons_punctuator (by decide : isPunctuator '[' = true)
      (hlexes.append hclose (detached_cons (by decide) _))
    simpa [TypeRef.render, TypeRef.expr, TypeExpr.tokens] using hall

theorem Field.WellNamed.denotes {f : Field} (h : f.WellNamed) : f.Denotes (fieldDefinition (f.name, f)) where
  name := spells_word h.name
  args := by
    rw [fieldDefinition, List.forall₂_map_right_iff, List.forall₂_same]
    intro p hp
    obtain ⟨hn, hr⟩ := h.args p hp
    exact ⟨spells_word hn, hr.denotes⟩
  type := h.returns.denotes

namespace Catalog

/-- Well named registries are read back as they are. -/
theorem read?_render_of_wellNamed {c : Catalog} (h : c.WellNamed) (hne : c.addedInputs ≠ [] ∨ c.addedTypes ≠ []) :
    read? (c.render false) = some (c.addedInputs.map inputDefinition ++ c.addedTypes.map objectDefinition) := by
  have hinputs : c.addedInputs.filter (fun p => !p.2.isEmpty) = c.addedInputs := by
    rw [List.filter_eq_self]
    intro p hp
    simpa using (h.inputs p hp).1
  have htypes : c.addedTypes.filter (fun p => !p.2.isEmpty) = c.addedTypes := by
    rw [List.filter_eq_self]
    intro p hp
    simpa using (h.types p hp).1
  apply read?_renderText
  · change List.Forall₂ _ (c.addedInputs.filter fun p => !p.2.isEmpty) _
    rw [hinputs, List.forall₂_map_right_iff, List.forall₂_same]
    intro p hp
    obtain ⟨hnonempty, hall⟩ := h.inputs p hp
    obtain ⟨q, hq⟩ := List.exists_mem_of_ne_nil p.2 hnonempty
    refine ⟨rfl, spells_word (hall q hq).1, hnonempty, ?_⟩
    rw [inputDefinition, List.forall₂_map_right_iff, List.forall₂_same]
    intro q hq
    obtain ⟨-, hname, href⟩ := hall q hq
    exact ⟨spells_word hname, rfl, href.denotes⟩
  · change List.Forall₂ _ (c.addedTypes.filter fun p => !p.2.isEmpty) _
    rw [htypes, List.forall₂_map_right_iff, List.forall₂_same]
    intro p hp
    obtain ⟨hnonempty, hall⟩ := h.types p hp
    obtain ⟨q, hq⟩ := List.exists_mem_of_ne_nil p.2 hnonempty
    refine ⟨rfl, spells_word (hall q hq).2.1, hnonempty, ?_⟩
    rw [objectDefinition, List.forall₂_map_right_iff, List.forall₂_same]
    intro q hq
    obtain ⟨hkey, -, hf⟩ := hall q hq
    have hden := hf.denotes
    rwa [← hkey] at hden
  · rcases hne with hne | hne <;> simp [hne]

/-- The text of well named additions, none of which is refused, is read as exactly the registries: the inputs and then
the object types in their order, each with its fields, their arguments and their types. -/
theorem read?_text_of_additions (hashLength : Int) (schema : Option Schema) {steps : List Step} (hne : steps ≠ [])
    (h : ∀ x ∈ steps, x.WellNamed) (refresh : Bool) :
    (fresh hashLength schema).accepted steps = steps ∧
      read? (((fresh hashLength schema).after steps).text refresh false).1 =
        some (((fresh hashLength schema).after steps).addedInputs.map inputDefinition ++
          ((fresh hashLength schema).after steps).addedTypes.map objectDefinition) := by
  have hfresh : (fresh hashLength schema).WellNamed := registry_fresh hashLength schema
  have hcurrent : Current (fresh hashLength schema) := current_of_stale rfl
  refine ⟨accepted_wellNamed hfresh h, ?_⟩
  rw [text_eq_render (current_after hcurrent steps)]
  refine read?_render_of_wellNamed (wellNamed_after hfresh h) ?_
  -- The last addition has left an entry.
  rw [← List.dropLast_concat_getLast hne, after_append]
  have hbefore : ((fresh hashLength schema).after steps.dropLast).WellNamed :=
    wellNamed_after hfresh fun x hx => h x (List.dropLast_subset steps hx)
  exact (call_wellNamed hbefore (h _ (List.getLast_mem hne))).2.2

/-- Additions by hand: an input, a type with arguments and nested lists, a root field. -/
def postAdditions : List Step := [
  .input "PostFilter" "title" (.text "String"),
  .field "Post" "tags" (.list [.list [.text "Tag"]]) [("first", .text "Int"), ("filter", .text "PostFilter")],
  .field "Query" "posts" (.list [.text "Post"]) [],
  .field "Tag" "name" (.text "String") [],
  .field "Post" "title" (.text "String") []]

theorem postAdditions_wellNamed : ∀ x ∈ postAdditions, x.WellNamed := by
  have hname (s : String) (h : IsWord s.toList) : NamedType (.text s) := .name h
  intro x hx
  simp only [postAdditions, List.mem_cons, List.not_mem_nil, or_false] at hx
  rcases hx with rfl | rfl | rfl | rfl | rfl
  · exact ⟨by decide, by decide, hname _ (by decide)⟩
  · refine ⟨by decide, by decide, .list (.list (hname _ (by decide))), ?_⟩
    intro p hp
    simp only [List.mem_cons, List.not_mem_nil, or_false] at hp
    rcases hp with rfl | rfl <;> exact ⟨by decide, hname _ (by decide)⟩
  · exact ⟨by decide, by decide, .list (hname _ (by decide)), by simp⟩
  · exact ⟨by decide, by decide, hname _ (by decide), by simp⟩
  · exact ⟨by decide, by decide, hname _ (by decide), by simp⟩

theorem read?_postAdditions :
    postAdditions ≠ [] ∧ (∀ x ∈ postAdditions, x.WellNamed) ∧
      read? (((fresh 8 none).after postAdditions).text false false).1 = some [
        ⟨.input, "PostFilter", [⟨"title", [], .named "String"⟩]⟩,
        ⟨.object, "Post", [
          ⟨"tags", [⟨"first", .named "Int"⟩, ⟨"filter", .named "PostFilter"⟩], .list (.list (.named "Tag"))⟩,
          ⟨"title", [], .named "String"⟩]⟩,
        ⟨.object, "Query", [⟨"posts", [], .list (.named "Post")⟩]⟩,
        ⟨.object, "Tag", [⟨"name", [], .named "String"⟩]⟩] := by
  have hne : postAdditions ≠ [] := List.cons_ne_nil _ _
  refine ⟨hne, postAdditions_wellNamed, ?_⟩
  rw [(read?_text_of_additions 8 none hne postAdditions_wellNamed false).2]
  rfl

end Catalog

end TableGraph
