import TableGraph.Proofs.Document.Tokens
import TableGraph.Proofs.Document.Reading
import TableGraph.Catalog.Basic

/-! # Rendered types are read back

The text of a catalog is put together from names, type references and punctuators. If every name in the
registries is read as one name and every type reference as one type, the text is read as one definition for
each type that has a field, with the fields and arguments in their order (`read?_renderText`).
-/
namespace TableGraph
open Document

/-- The text is read as one name. -/
def Spells (text name : String) : Prop := Lexes text.toList [.name name]

/-- The type reference is rendered as one type. -/
structure TypeRef.Denotes (r : TypeRef) (e : TypeExpr) : Prop where
  proper : e.Proper
  lexes : Lexes r.render.toList e.tokens

/-- The argument is rendered as the other one. -/
structure ArgumentDenotes (p : String × Declared) (a : Argument) : Prop where
  name : Spells p.1 a.name
  type : p.2.ref.Denotes a.type

structure Field.Denotes (f : Field) (d : FieldDefinition) : Prop where
  name : Spells f.name d.name
  args : List.Forall₂ ArgumentDenotes f.args d.args
  type : f.returns.Denotes d.type

structure InputFieldDenotes (p : String × TypeRef) (d : FieldDefinition) : Prop where
  name : Spells p.1 d.name
  args : d.args = []
  type : p.2.Denotes d.type

/-- The type is rendered as the definition. It has a field. -/
structure TypeDenotes (p : String × Fields) (d : TypeDefinition) : Prop where
  kind : d.kind = .object
  name : Spells p.1 d.name
  nonempty : p.2 ≠ []
  fields : List.Forall₂ (fun q f => q.2.Denotes f) p.2 d.fields

structure InputDenotes (p : String × InputFields) (d : TypeDefinition) : Prop where
  kind : d.kind = .input
  name : Spells p.1 d.name
  nonempty : p.2 ≠ []
  fields : List.Forall₂ InputFieldDenotes p.2 d.fields

/-! ## What is denoted can be read -/

section Members
variable {α β : Type} {R : α → β → Prop} {l : List α} {m : List β}

theorem exists_related (h : List.Forall₂ R l m) {a : α} (ha : a ∈ l) : ∃ b ∈ m, R a b := by
  induction h with
  | nil => cases ha
  | @cons c d r s hcd _ ih =>
    rcases List.mem_cons.1 ha with rfl | ha
    · exact ⟨d, List.mem_cons_self, hcd⟩
    · obtain ⟨b, hb, hab⟩ := ih ha
      exact ⟨b, List.mem_cons_of_mem d hb, hab⟩

theorem exists_relating (h : List.Forall₂ R l m) {b : β} (hb : b ∈ m) : ∃ a ∈ l, R a b :=
  exists_related h.flip hb

end Members

theorem Field.Denotes.isProper {f : Field} {d : FieldDefinition} (h : f.Denotes d) : d.Proper where
  type := h.type.proper
  args := by
    intro a ha
    obtain ⟨p, -, hp⟩ := exists_relating h.args ha
    exact hp.type.proper

theorem InputFieldDenotes.isProper {p : String × TypeRef} {d : FieldDefinition} (h : InputFieldDenotes p d) :
    d.Proper where
  type := h.type.proper
  args := by
    intro a ha
    rw [h.args] at ha
    cases ha

theorem ne_nil_of_related {α β : Type} {R : α → β → Prop} {l : List α} {m : List β} (h : List.Forall₂ R l m)
    (hl : l ≠ []) : m ≠ [] := by
  rintro rfl
  exact hl (List.forall₂_nil_right_iff.1 h)

theorem TypeDenotes.isProper {p : String × Fields} {d : TypeDefinition} (h : TypeDenotes p d) : d.Proper where
  nonempty := ne_nil_of_related h.fields h.nonempty
  fields := by
    intro f hf
    obtain ⟨q, -, hq⟩ := exists_relating h.fields hf
    exact hq.isProper
  input := by
    intro hk
    rw [h.kind] at hk
    cases hk

theorem InputDenotes.isProper {p : String × InputFields} {d : TypeDefinition} (h : InputDenotes p d) : d.Proper where
  nonempty := ne_nil_of_related h.fields h.nonempty
  fields := by
    intro f hf
    obtain ⟨q, -, hq⟩ := exists_relating h.fields hf
    exact hq.isProper
  input := by
    intro _ f hf
    obtain ⟨q, -, hq⟩ := exists_relating h.fields hf
    exact hq.args

/-! ## The tokens of what is rendered -/

theorem detached_cons {c : Char} (hc : Name.isPart c = false) (s : List Char) : Detached (c :: s) := by
  intro d hd
  exact Option.some.inj hd ▸ hc

/-- A name, a colon and a type. -/
theorem lexes_typed {name spelled : String} {ref : TypeRef} {type : TypeExpr} (hn : Spells name spelled)
    (ht : ref.Denotes type) :
    Lexes (name ++ ": " ++ ref.render).toList (.name spelled :: .punctuator ':' :: type.tokens) := by
  have htail : Lexes (':' :: ' ' :: ref.render.toList) (.punctuator ':' :: type.tokens) :=
    .cons_punctuator (by decide) (.cons_ignored (by decide) ht.lexes)
  have hall := hn.append htail (detached_cons (by decide) _)
  simpa using hall

theorem ArgumentDenotes.lexes {p : String × Declared} {a : Argument} (h : ArgumentDenotes p a) :
    Lexes (p.1 ++ ": " ++ p.2.ref.render).toList a.tokens :=
  lexes_typed h.name h.type

theorem InputFieldDenotes.lexes {p : String × TypeRef} {d : FieldDefinition} (h : InputFieldDenotes p d) :
    Lexes (p.1 ++ ": " ++ p.2.render).toList d.tokens := by
  have hall := lexes_typed h.name h.type
  simpa [FieldDefinition.tokens, argumentTokens, h.args] using hall

/-- Arguments in parentheses, before more. -/
theorem lexes_arguments {args : Assoc String Declared} {as : List Argument}
    (h : List.Forall₂ ArgumentDenotes args as) {s : List Char} {ts : List Token} (hs : Lexes s ts) :
    Lexes ((Field.renderArgs args).toList ++ s) (argumentTokens as ++ ts) := by
  have hempty : args.isEmpty = as.isEmpty := by cases h <;> rfl
  rw [Field.renderArgs, argumentTokens, hempty]
  cases as.isEmpty with
  | true => exact hs
  | false =>
    have hlines : List.Forall₂ Lexes (args.map fun p => (p.1 ++ ": " ++ p.2.ref.render).toList)
        (as.map Argument.tokens) := by
      rw [List.forall₂_map_left_iff, List.forall₂_map_right_iff]
      exact h.imp fun _ _ => ArgumentDenotes.lexes
    have hlist := Lexes.intercalate
      (List.all_eq_true.1 (by decide : [',', ' '].all isIgnored = true)) (by decide) hlines
    have hclose : Lexes (')' :: s) (.punctuator ')' :: ts) := .cons_punctuator (by decide) hs
    have hall := Lexes.cons_punctuator (by decide : isPunctuator '(' = true)
      (hlist.append hclose (detached_cons (by decide) _))
    simpa [String.toList_intercalate, Function.comp_def, List.flatMap] using hall

theorem Field.Denotes.lexes {f : Field} {d : FieldDefinition} (h : f.Denotes d) : Lexes f.render.toList d.tokens := by
  have htail : Lexes (':' :: ' ' :: f.returns.render.toList) (.punctuator ':' :: d.type.tokens) :=
    .cons_punctuator (by decide) (.cons_ignored (by decide) h.type.lexes)
  have hargs := lexes_arguments h.args htail
  have hdetached : Detached ((Field.renderArgs f.args).toList ++ ':' :: ' ' :: f.returns.render.toList) := by
    unfold Field.renderArgs
    by_cases he : f.args.isEmpty
    · rw [if_pos he]
      exact detached_cons (by decide) _
    · rw [if_neg he]
      simpa using detached_cons (by decide : Name.isPart '(' = false) _
  have hall := h.name.append hargs hdetached
  simpa [Field.render, FieldDefinition.tokens] using hall

/-- A block of lines, each of which is read as a field. -/
theorem lexes_block {name : String} {lines : List String} {d : TypeDefinition} (hn : Spells name d.name)
    (hl : List.Forall₂ (fun line f => Lexes line.toList f.tokens) lines d.fields) :
    Lexes (Catalog.block d.kind.keyword name lines).toList d.tokens := by
  have hlines : List.Forall₂ Lexes (lines.map fun line => ' ' :: ' ' :: line.toList)
      (d.fields.map FieldDefinition.tokens) := by
    rw [List.forall₂_map_left_iff, List.forall₂_map_right_iff]
    exact hl.imp fun _ _ h => .cons_ignored (by decide) (.cons_ignored (by decide) h)
  have hbody := Lexes.intercalate (List.all_eq_true.1 (by decide : ['\n'].all isIgnored = true)) (by decide) hlines
  have hclose : Lexes ['\n', '\x7d'] [.punctuator '\x7d'] :=
    .cons_ignored (by decide) (.cons_punctuator (by decide) .nil)
  have hbraces :
      Lexes (' ' :: '\x7b' :: '\n' ::
          (['\n'].intercalate (lines.map fun line => ' ' :: ' ' :: line.toList) ++ ['\n', '\x7d']))
        (.punctuator '\x7b' :: ((d.fields.map FieldDefinition.tokens).flatten ++ [.punctuator '\x7d'])) :=
    .cons_ignored (by decide) (.cons_punctuator (by decide) (.cons_ignored (by decide)
      (hbody.append hclose (detached_cons (by decide) _))))
  have hnamed := Lexes.cons_ignored (by decide : isIgnored ' ' = true)
    (hn.append hbraces (detached_cons (by decide) _))
  have hkeyword : Lexes d.kind.keyword.toList [.name d.kind.keyword] := by
    cases d.kind <;> exact .word (by decide)
  have hall := hkeyword.append hnamed (detached_cons (by decide) _)
  simpa [Catalog.block, TypeDefinition.tokens, String.toList_intercalate, Function.comp_def, List.flatMap] using hall

theorem TypeDenotes.lexes {p : String × Fields} {d : TypeDefinition} (h : TypeDenotes p d) :
    Lexes (Catalog.typeBlock p.1 p.2).toList d.tokens := by
  have hl : List.Forall₂ (fun line f => Lexes line.toList f.tokens) (p.2.map fun q => q.2.render) d.fields := by
    rw [List.forall₂_map_left_iff]
    exact h.fields.imp fun _ _ => Field.Denotes.lexes
  have hall := lexes_block h.name hl
  rw [h.kind] at hall
  exact hall

theorem InputDenotes.lexes {p : String × InputFields} {d : TypeDefinition} (h : InputDenotes p d) :
    Lexes (Catalog.inputBlock p.1 p.2).toList d.tokens := by
  have hl : List.Forall₂ (fun line f => Lexes line.toList f.tokens) (p.2.map fun q => q.1 ++ ": " ++ q.2.render)
      d.fields := by
    rw [List.forall₂_map_left_iff]
    exact h.fields.imp fun _ _ => InputFieldDenotes.lexes
  have hall := lexes_block h.name hl
  rw [h.kind] at hall
  exact hall

/-- The text of the types and inputs that have a field is read as their definitions, inputs first. -/
theorem read?_renderText {types : Assoc String Fields} {inputs : Assoc String InputFields}
    {ts is : List TypeDefinition}
    (hi : List.Forall₂ InputDenotes (inputs.filter fun p => !p.2.isEmpty) is)
    (ht : List.Forall₂ TypeDenotes (types.filter fun p => !p.2.isEmpty) ts) (hne : is ++ ts ≠ []) :
    read? (Catalog.renderText types inputs) = some (is ++ ts) := by
  have hblocks : List.Forall₂ Lexes
      (((inputs.filter fun p => !p.2.isEmpty).map fun p => (Catalog.inputBlock p.1 p.2).toList) ++
        (types.filter fun p => !p.2.isEmpty).map fun p => (Catalog.typeBlock p.1 p.2).toList)
      (is.map TypeDefinition.tokens ++ ts.map TypeDefinition.tokens) := by
    apply List.rel_append
    · rw [List.forall₂_map_left_iff, List.forall₂_map_right_iff]
      exact hi.imp fun _ _ => InputDenotes.lexes
    · rw [List.forall₂_map_left_iff, List.forall₂_map_right_iff]
      exact ht.imp fun _ _ => TypeDenotes.lexes
  have hgap := Lexes.intercalate
    (List.all_eq_true.1 (by decide : ['\n', '\n'].all isIgnored = true)) (by decide) hblocks
  have hend : Lexes ['\n'] [] := .cons_ignored (by decide) .nil
  have hall := (hgap.append hend (detached_cons (by decide) _)).tokens
  have htokens : tokens? (Catalog.renderText types inputs) = some ((is ++ ts).flatMap TypeDefinition.tokens) := by
    simpa [tokens?, Catalog.renderText, String.toList_intercalate, Function.comp_def, List.flatMap] using hall
  rw [read?, htokens]
  refine readTokens?_tokens hne fun d hd => ?_
  rcases List.mem_append.1 hd with hd | hd
  · obtain ⟨p, -, hp⟩ := exists_relating hi hd
    exact hp.isProper
  · obtain ⟨p, -, hp⟩ := exists_relating ht hd
    exact hp.isProper

end TableGraph
