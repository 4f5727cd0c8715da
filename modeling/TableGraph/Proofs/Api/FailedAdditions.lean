import TableGraph.Proofs.Api.Refresh

/-! # Additions that fail

An addition puts the field into the catalog before the resolver looks at the code. If it fails for its path, its names
or its types, then the API is what it was. If it fails for the code, then the field is in the catalog without any
(`Api.addAt_failed`), so all is as before only if just this field was there already (`Api.failed_addition_keeps_iff`).
-/
namespace TableGraph
open Chain
variable {ι : Type}

/-- What is found to be wrong with a field before it is added. -/
inductive ConfigError.Early : ConfigError → Prop where
  | path : Early .fieldPath
  | names : Early .typeFieldNames
  | untyped : Early .emptyType
  | arity (items : String) : Early (.listArity items)

theorem ConfigError.Early.ne_notCallable {e : ConfigError} (h : e.Early) (type field : String) :
    e ≠ .notCallable type field := by
  rintro rfl
  cases h

theorem TypeRef.early_of_ofValue {v : Value} {e : ConfigError} (h : ofValue v = .error e) : e.Early := by
  fun_induction ofValue v with
  | case1 v ih => exact ih (map_eq_error.1 h)
  | case2 items =>
    obtain rfl := Except.error.inj h
    exact .arity _
  | case3 v =>
    simp only [ofText] at h
    split at h
    · obtain rfl := Except.error.inj h
      exact .untyped
    · cases h

theorem Field.early_of_declareAll {args : Args} {e : ConfigError} (h : declareAll args = .error e) : e.Early := by
  obtain ⟨p, -, hp⟩ := exists_of_error h
  exact TypeRef.early_of_ofValue (map_eq_error.1 (map_eq_error.1 hp))

namespace Catalog

theorem early_of_newField {type field : String} {returns : Value} {args : Args} {e : ConfigError}
    (h : newField type field returns args = .error e) : e.Early := by
  rw [newField_eq] at h
  split at h
  · obtain rfl := Except.error.inj h
    exact .names
  · rcases bind_eq_error.1 h with hreturns | ⟨ref, -, hargs⟩
    · exact TypeRef.early_of_ofValue hreturns
    · exact Field.early_of_declareAll (map_eq_error.1 hargs)

/-- The field that was added by hand. -/
def addedField? (c : Catalog) (type field : String) : Option Field :=
  (c.addedTypes.get? type).bind fun fields => fields.get? field

theorem addedTypes_withField_eq_iff {c : Catalog} {type : String} {f : Field} :
    (c.withField type f).addedTypes = c.addedTypes ↔ c.addedField? type f.name = some f := by
  have hput : (c.withField type f).addedTypes =
      c.addedTypes.put type (((c.addedTypes.get? type).getD []).put f.name f) := rfl
  rw [hput, Assoc.put_eq_self_iff, addedField?]
  cases c.addedTypes.get? type with
  | none => simp
  | some fields =>
    rw [Option.getD_some, Option.bind_some, Option.some.injEq, ← Assoc.put_eq_self_iff]
    exact eq_comm

end Catalog

namespace Api

/-- Where a field is added: under two names, or under a path that ends in both. -/
inductive Place where
  | names (type field : String)
  | path (given : Value)

/-- The type and the field that a place names. -/
def Place.target : Place → Except ConfigError (String × String)
  | names type field => .ok (type, field)
  | path given => match splitPath given.givenText with
    | none => .error .fieldPath
    | some p => .ok p

/-- Adds a field at a place. -/
def addAt (a : Api ι) (p : Place) (returns : Value) (code : Option (Code ι)) (args : Args) :
    Except ConfigError Unit × Api ι :=
  match p with
  | .names type field => a.add type field returns code args
  | .path given => a.addField given returns code args

variable {a : Api ι} {p : Place} {returns : Value} {code : Option (Code ι)} {args : Args}

/-- Nothing but the path can be wrong with a place, and then nothing is done. -/
theorem addAt_eq : a.addAt p returns code args =
    match p.target with
    | .error e => (.error e, a)
    | .ok t => a.add t.1 t.2 returns code args := by
  cases p with
  | names type field => rfl
  | path given =>
    rw [addAt, addField, Place.target]
    cases splitPath given.givenText <;> rfl

theorem Place.early_of_target {e : ConfigError} (h : p.target = .error e) : e.Early := by
  cases p with
  | names type field => cases h
  | path given =>
    rw [target] at h
    split at h
    · obtain rfl := Except.error.inj h
      exact .path
    · cases h

/-- An addition that fails leaves the API as it is, or it fails for the code and leaves the field. -/
theorem addAt_failed {e : ConfigError} (h : (a.addAt p returns code args).1 = .error e) :
    (e.Early ∧ (a.addAt p returns code args).2 = a) ∨
      ∃ type field f, e = .notCallable type field ∧ p.target = .ok (type, field) ∧ code = none ∧
        Catalog.newField type field returns args = .ok f ∧
        (a.addAt p returns code args).2 = { a with catalog := a.catalog.withField type f } := by
  rw [addAt_eq] at h ⊢
  cases htarget : p.target with
  | error fault =>
    rw [htarget] at h
    obtain rfl := Except.error.inj h
    exact .inl ⟨Place.early_of_target htarget, rfl⟩
  | ok names =>
    obtain ⟨type, field⟩ := names
    rw [htarget] at h
    dsimp only at h ⊢
    cases hf : Catalog.newField type field returns args with
    | error fault =>
      rw [add_of_refused hf] at h ⊢
      obtain rfl := Except.error.inj h
      exact .inl ⟨Catalog.early_of_newField hf, rfl⟩
    | ok f =>
      rw [add_of_newField hf] at h ⊢
      cases code with
      | none =>
        obtain rfl := Except.error.inj h
        rw [Resolver.change_override]
        exact .inr ⟨type, field, f, rfl, rfl, rfl, hf, rfl⟩
      | some given => cases h

/-- The second API has the fields of the first: the text, the types, the inputs, the entries and the resolver map. -/
structure KeepsFields (a b : Api ι) : Prop where
  text : ∀ refresh again, (b.text again).1 = (a.text refresh).1
  addedTypes : b.catalog.addedTypes = a.catalog.addedTypes
  generated : b.catalog.generated = a.catalog.generated
  addedInputs : b.catalog.addedInputs = a.catalog.addedInputs
  entries : b.resolver.entries = a.resolver.entries
  fieldMap : b.fieldMap = a.fieldMap

theorem keepsFields_refl (h : a.catalog.Current) : KeepsFields a a where
  text refresh again := by
    rw [text, text, Catalog.text_eq_render h, Catalog.text_eq_render h]
  addedTypes := rfl
  generated := rfl
  addedInputs := rfl
  entries := rfl
  fieldMap := rfl

/-- A field alone in the catalog changes nothing only if it is there already. -/
theorem keepsFields_withField_iff (h : a.catalog.Current) {type : String} {f : Field} :
    KeepsFields a { a with catalog := a.catalog.withField type f } ↔ a.catalog.addedField? type f.name = some f := by
  rw [← Catalog.addedTypes_withField_eq_iff]
  constructor
  · exact KeepsFields.addedTypes
  · intro hadded
    have hcurrent : (a.catalog.withField type f).Current := Catalog.current_of_stale rfl
    have hrender : (a.catalog.withField type f).render a.hasEngine = a.catalog.render a.hasEngine :=
      Catalog.render_congr ⟨hadded, rfl⟩ rfl a.hasEngine
    refine ⟨fun refresh again => ?_, hadded, rfl, rfl, rfl, rfl⟩
    exact ((Catalog.text_eq_render hcurrent again a.hasEngine).trans hrender).trans
      (Catalog.text_eq_render h refresh a.hasEngine).symm

/-- After any history an addition that fails leaves the API exactly as it was if it fails for its path, its names or its
types. If it fails for its code, then the field is in the catalog and the rest is as it was. So the text, the types, the
inputs, the entries and the map are the same as before, unless it fails for the code of a field that was not
there with the same type and arguments. -/
theorem failed_addition_keeps_iff (name : String) (engine : Option Engine) (exclude : List String)
    (productName : Option String) (settings : Settings) (hook : Hook ι) (steps : List (Step ι)) (p : Place)
    (returns : Value) (code : Option (Code ι)) (args : Args) {e : ConfigError} (h :
      (((create name engine exclude productName settings hook).after steps).addAt p returns code args).1 = .error e) :
    let a := (create name engine exclude productName settings hook).after steps
    let b := (a.addAt p returns code args).2
    (e.Early → b = a) ∧
    (∀ type field, e = .notCallable type field → ∃ f, Catalog.newField type field returns args = .ok f ∧
      b = { a with catalog := a.catalog.withField type f }) ∧
    (KeepsFields a b ↔ e.Early ∨ ∃ type field f, e = .notCallable type field ∧
      Catalog.newField type field returns args = .ok f ∧ a.catalog.addedField? type field = some f) := by
  intro a b
  have hcurrent : a.catalog.Current :=
    ((consistent_create name engine exclude productName settings hook).after steps).current
  rcases addAt_failed h with ⟨hearly, hsame⟩ | ⟨type, field, f, rfl, -, -, hf, hleft⟩
  · have hb : b = a := hsame
    rw [hb]
    exact ⟨fun _ => rfl, fun type field he => absurd he (hearly.ne_notCallable type field),
      iff_of_true (keepsFields_refl hcurrent) (.inl hearly)⟩
  · have hb : b = { a with catalog := a.catalog.withField type f } := hleft
    rw [hb]
    refine ⟨fun hearly => absurd rfl (hearly.ne_notCallable type field), ?_, ?_⟩
    · rintro _ _ ⟨⟩
      exact ⟨f, hf, rfl⟩
    · rw [keepsFields_withField_iff hcurrent, Catalog.name_newField hf]
      constructor
      · intro hadded
        exact .inr ⟨type, field, f, rfl, hf, hadded⟩
      · rintro (hearly | ⟨_, _, g, ⟨⟩, hg, hadded⟩)
        · exact absurd rfl (hearly.ne_notCallable type field)
        · obtain rfl := Except.ok.inj (hf.symm.trans hg)
          exact hadded

/-- One field by hand. -/
def helloSteps : List (Step Unit) := [.add queryType "hello" (.text "String") (some (.host ())) []]

/-- The same field a second time, with no code that can be called: it keeps its first code, and nothing is changed. -/
theorem hello_kept :
    let a := (create "" none [] none {} {}).after helloSteps
    let b := a.addAt (.path (.text "Query.hello")) (.text "String") none []
    b.1 = .error (.notCallable queryType "hello") ∧ KeepsFields a b.2 := by
  intro a b
  have hfail : b.1 = .error (.notCallable queryType "hello") := by decide +kernel
  have hkeeps := failed_addition_keeps_iff "" none [] none {} {} helloSteps (.path (.text "Query.hello"))
    (.text "String") none [] hfail
  let hello : Field := ⟨"hello", .named "String", []⟩
  have hnew : Catalog.newField queryType "hello" (.text "String") [] = .ok hello := rfl
  have hadded : a.catalog.addedField? queryType "hello" = some hello := rfl
  exact ⟨hfail, hkeeps.2.2.2 (.inr ⟨queryType, "hello", hello, rfl, hnew, hadded⟩)⟩

/-- A new field with no code that can be called is in the text after the addition has failed. -/
theorem hello_left :
    let a : Api Unit := (create "" none [] none {} {}).after []
    let b := (a.addAt (.names queryType "hello") (.text "String") none []).2
    (a.addAt (.names queryType "hello") (.text "String") none []).1 = .error (.notCallable queryType "hello") ∧
      (a.text false).1 = "\n" ∧ (b.text false).1 = "type Query \x7b\n  hello: String\n\x7d\n" ∧ ¬ KeepsFields a b := by
  intro a b
  have hbefore : (a.text false).1 = "\n" := by decide +kernel
  have hafter : (b.text false).1 = "type Query \x7b\n  hello: String\n\x7d\n" := by decide +kernel
  refine ⟨rfl, hbefore, hafter, fun hkeeps => ?_⟩
  have hsame := hkeeps.text false false
  rw [hbefore, hafter] at hsame
  exact absurd hsame (by decide)

end Api

end TableGraph
