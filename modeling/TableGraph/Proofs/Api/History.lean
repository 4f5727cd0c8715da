import TableGraph.Api.Execution
import TableGraph.Proofs.Catalog.Layers
import TableGraph.Proofs.Catalog.ReadBack
import TableGraph.Proofs.Resolver.Gate

/-! # Histories of an API

The catalog and the resolver of an API are changed by separate calls, and a connection replaces what was
generated in both. What one call does to them is one of a few moves (`moves_step`), and every move keeps them
in agreement (`Agreeing`): an override is of an added field, and the defaults are those of the generated
fields.
-/
namespace TableGraph

/-! ## Reading a schema -/

/-- The schema that is read whole over a connection, whether the connection can be closed afterwards or not. -/
def Connection.reads (c : Connection) (look : Api.Introspect) (space : Option String) (exclude : List String) :
    Option Schema :=
  match c.opening with
  | .error _ => none
  | .ok () => (look space exclude).toOption

section Reads
variable {l : Link} {look : Api.Introspect} {space : Option String} {exclude : List String} {c : Connection}
  {s : Schema}

theorem Connection.reads_eq_some :
    c.reads look space exclude = some s ↔ c.opening = .ok () ∧ look space exclude = .ok s := by
  unfold reads
  cases c.opening <;> cases look space exclude <;> simp [Except.toOption]

/-- A schema is given if it is read whole and the connection can be closed. -/
theorem Link.introspect_ok : (l.introspect look space exclude c).1 = .ok s ↔
    c.reads look space exclude = some s ∧ c.closing = .ok () := by
  unfold introspect Connection.reads
  cases c.opening <;> cases look space exclude <;> cases c.closing <;> simp [Except.toOption]

/-- What is given does not depend on the tables that are known. -/
theorem Link.introspect_given (l l' : Link) (look : Api.Introspect) (space : Option String) (exclude : List String)
    (c : Connection) : (l'.introspect look space exclude c).1 = (l.introspect look space exclude c).1 := by
  unfold introspect
  cases c.opening <;> cases look space exclude <;> cases c.closing <;> rfl

/-- What is known after a reading: the tables of what was read whole, if anything was. -/
def Link.told (l : Link) (read : Option Schema) : Link := (read.map l.knowing).getD l

theorem Link.product_told (l : Link) (read : Option Schema) : (l.told read).product = l.product := by
  cases read <;> rfl

theorem Link.introspect_link (l : Link) (look : Api.Introspect) (space : Option String) (exclude : List String)
    (c : Connection) : (l.introspect look space exclude c).2 = l.told (c.reads look space exclude) := by
  unfold introspect Connection.reads
  cases c.opening <;> cases look space exclude <;> cases c.closing <;> rfl

end Reads

namespace Api

variable {ι : Type}

/-- A call on an API. A connection reads a schema by the function given with it, if it can be opened and closed. -/
inductive Step (ι : Type) where
  | add (type field : String) (returns : Value) (code : Option (Code ι)) (args : Args)
  | addField (path returns : Value) (code : Option (Code ι)) (args : Args)
  | addInput (path type : Value)
  | onBefore (validator : ι) (rejected : Option ι)
  | connect (look : Introspect) (space : String) (connection : Connection := {})
  | text (refresh : Bool)

def step (a : Api ι) : Step ι → Api ι
  | .add type field returns code args => (a.add type field returns code args).2
  | .addField path returns code args => (a.addField path returns code args).2
  | .addInput path type => (a.addInput path type).2
  | .onBefore validator rejected => a.onBefore validator rejected
  | .connect look space c => (a.connect look space c).2
  | .text refresh => (a.text refresh).2

def after (a : Api ι) (steps : List (Step ι)) : Api ι := steps.foldl step a

/-- Whatever schema the call reads, the names of its types are pairwise distinct. -/
def Step.ReadsApart (hashLength : Int) : Step ι → Prop
  | .connect look _ _ => ∀ space exclude s, look space exclude = .ok s →
      ((Generated.named hashLength s).flatMap fun p => typeNames p.2).Nodup
  | _ => True

/-! ## What one call does -/

/-- What a call may do to the registries of an API: nothing, or one addition, or to take over a schema, or to
render the text. -/
inductive Moves (apart : Schema → Prop) (a b : Api ι) : Prop where
  | idle (engine : b.engine = a.engine) (catalog : b.catalog = a.catalog)
      (entries : b.resolver.entries = a.resolver.entries)
  | field (type : String) (f : Field) (code : Option (Code ι)) (args : Args) (engine : b.engine = a.engine)
      (catalog : b.catalog = a.catalog.withField type f)
      (resolver : b.resolver = a.resolver.change (.override type f.name code args))
  | input (type name : String) (ref : TypeRef) (engine : b.engine = a.engine)
      (catalog : b.catalog = a.catalog.withInput type name ref) (entries : b.resolver.entries = a.resolver.entries)
  | adopt (schema : Schema) (apart : apart schema) (engine : b.engine = a.engine) (connected : a.hasEngine = true)
      (catalog : b.catalog = a.catalog.adopt schema)
      (entries : b.resolver.entries = (a.resolver.register (a.catalog.adopt schema)).entries)
  | text (refresh connected : Bool) (engine : b.engine = a.engine)
      (catalog : b.catalog = (a.catalog.text refresh connected).2)
      (entries : b.resolver.entries = a.resolver.entries)

theorem moves_refl (apart : Schema → Prop) (a : Api ι) : Moves apart a a := .idle rfl rfl rfl

theorem add_of_refused {a : Api ι} {type field : String} {returns : Value} {args : Args} {e : ConfigError}
    (h : Catalog.newField type field returns args = .error e) (code : Option (Code ι)) :
    a.add type field returns code args = (.error e, a) := by
  rw [add, Catalog.addField_eq, h]
  rfl

/-- A field that can be made is added whatever its code is, and nothing but the code can be wrong then. -/
theorem add_of_newField {a : Api ι} {type field : String} {returns : Value} {args : Args} {f : Field}
    (h : Catalog.newField type field returns args = .ok f) (code : Option (Code ι)) :
    a.add type field returns code args =
      (match code with
        | none => .error (.notCallable type field)
        | some _ => .ok (),
      { a with
        catalog := a.catalog.withField type f
        resolver := a.resolver.change (.override type field code args) }) := by
  have hnames := Catalog.names_of_newField h
  rw [add, Catalog.addField_eq, h]
  cases code <;> simp [Except.map, Resolver.add, Resolver.change, hnames]

theorem moves_add (apart : Schema → Prop) (a : Api ι) (type field : String) (returns : Value)
    (code : Option (Code ι)) (args : Args) : Moves apart a (a.add type field returns code args).2 := by
  cases hf : Catalog.newField type field returns args with
  | error e =>
    rw [add_of_refused hf]
    exact moves_refl apart a
  | ok f =>
    rw [add_of_newField hf]
    exact .field type f code args rfl rfl (by rw [Catalog.name_newField hf])

theorem engine_linked {a : Api ι} {e : Engine} {l : Link} (h : a.linked = .ok (e, l)) : a.hasEngine = true := by
  unfold linked at h
  cases he : a.engine with
  | none => simp [he] at h
  | some engine => simp [hasEngine, he]

theorem moves_connect (apart : Schema → Prop) (a : Api ι) (look : Introspect) (space : String) (c : Connection)
    (h : ∀ space exclude s, look space exclude = .ok s → apart s) : Moves apart a (a.connect look space c).2 := by
  unfold connect
  cases hl : a.linked with
  | error e => exact moves_refl apart a
  | ok p =>
    obtain ⟨e, l⟩ := p
    dsimp only
    split
    · exact .idle rfl rfl rfl
    · rename_i s l' hs
      obtain ⟨hread, -⟩ := Link.introspect_ok.1 (congrArg Prod.fst hs)
      obtain ⟨-, hlook⟩ := Connection.reads_eq_some.1 hread
      exact .adopt s (h _ _ s hlook) rfl (engine_linked hl) rfl rfl

theorem moves_step_of {apart : Schema → Prop} (a : Api ι) {x : Step ι}
    (hx : ∀ look given c, x = .connect look given c → ∀ space exclude s, look space exclude = .ok s → apart s) :
    Moves apart a (a.step x) := by
  cases x with
  | add type field returns code args => exact moves_add _ a type field returns code args
  | addField path returns code args =>
    simp only [step, addField]
    cases splitPath path.givenText with
    | none => exact moves_refl _ a
    | some p => exact moves_add _ a p.1 p.2 returns code args
  | addInput path type =>
    simp only [step, addInput]
    cases splitPath path.givenText with
    | none => exact moves_refl _ a
    | some p =>
      simp only [Catalog.addInput_eq]
      cases Catalog.newInput p.1 p.2 type with
      | error e => exact moves_refl _ a
      | ok ref => exact .input p.1 p.2 ref rfl rfl rfl
  | onBefore validator rejected => exact .idle rfl rfl rfl
  | connect look space c => exact moves_connect _ a look space c (hx look space c rfl)
  | text refresh => exact .text refresh a.hasEngine rfl rfl rfl

theorem moves_step {hashLength : Int} (a : Api ι) {x : Step ι} (hx : x.ReadsApart hashLength) :
    Moves (Generated.TypeNamesApart hashLength) a (a.step x) := by
  apply moves_step_of
  rintro look given c rfl space exclude s hs
  refine ⟨hx space exclude s hs, ?_⟩
  intro p hp name hn
  exact Generated.not_mem_reservedTypes hashLength s hp hn

/-! ## Agreement -/

/-- What the catalog and the resolver of an API have in common. The generated types, if there are any, come from
a schema with distinct type names, and there is an engine that it was read from. -/
structure Agreeing (hashLength : Int) (a : Api ι) : Prop where
  length : a.catalog.hashLength = hashLength
  generated : a.catalog.generated = {} ∨ a.hasEngine = true ∧
    ∃ s, Generated.TypeNamesApart hashLength s ∧ a.catalog.generated = Generated.build hashLength s
  registry : a.catalog.Registry (fun _ _ => True) fun _ _ _ => True
  current : a.catalog.Current
  nodup : a.resolver.entries.keys.Nodup
  overridden : ∀ type field, ((a.resolver.entry? type field).bind (·.override)).isSome = true →
    HasField a.catalog.addedTypes type field
  defaulted : ∀ type field, ((a.resolver.entry? type field).bind (·.default)).isSome = true ↔
    a.catalog.Generates type field

theorem entry?_congr {r r' : Resolver (Code ι)} (h : r'.entries = r.entries) (type field : String) :
    r'.entry? type field = r.entry? type field := by rw [Resolver.entry?, h, Resolver.entry?]

/-- An added field is there, and those that were are. -/
theorem hasField_withField (c : Catalog) (type : String) (f : Field) :
    HasField (c.withField type f).addedTypes type f.name ∧
      ∀ t name, HasField c.addedTypes t name → HasField (c.withField type f).addedTypes t name := by
  have hput (fields : Fields) (name : String) : name ∈ Assoc.keys (fields.put f.name f) ↔
      name = f.name ∨ name ∈ Assoc.keys fields := by
    rw [Assoc.keys_put]
    split
    · rename_i hm
      exact ⟨.inr, fun h => h.elim (fun he => he ▸ hm) id⟩
    · simp [or_comm]
  have hget (t : String) : (c.withField type f).addedTypes.get? t =
      if type = t then some (((c.addedTypes.get? type).getD []).put f.name f) else c.addedTypes.get? t :=
    Assoc.get?_put _ _ _ _
  constructor
  · exact ⟨_, (hget type).trans (if_pos rfl), (hput _ _).2 (.inl rfl)⟩
  · rintro t name ⟨fields, hfields, hm⟩
    by_cases ht : type = t
    · subst ht
      refine ⟨_, (hget type).trans (if_pos rfl), (hput _ _).2 (.inr ?_)⟩
      rwa [hfields, Option.getD_some]
    · exact ⟨fields, (hget t).trans ((if_neg ht).trans hfields), hm⟩

theorem Generates.congr {c d : Catalog} (h : c.generated = d.generated) (type field : String) :
    c.Generates type field ↔ d.Generates type field := by
  unfold Catalog.Generates
  rw [h]

/-- What leaves the entries, the added types and the generated ones as they are. -/
theorem Agreeing.same {hashLength : Int} {a b : Api ι} (h : Agreeing hashLength a) (engine : b.engine = a.engine)
    (entries : b.resolver.entries = a.resolver.entries) (length : b.catalog.hashLength = a.catalog.hashLength)
    (added : b.catalog.addedTypes = a.catalog.addedTypes) (generated : b.catalog.generated = a.catalog.generated)
    (registry : b.catalog.Registry (fun _ _ => True) fun _ _ _ => True) (current : b.catalog.Current) :
    Agreeing hashLength b where
  length := length.trans h.length
  generated := by
    rw [generated, hasEngine, engine]
    exact h.generated
  registry := registry
  current := current
  nodup := entries ▸ h.nodup
  overridden := by
    intro type field ho
    rw [entry?_congr entries] at ho
    rw [added]
    exact h.overridden type field ho
  defaulted := by
    intro type field
    rw [entry?_congr entries, Generates.congr generated]
    exact h.defaulted type field

/-- An added field may get an override, and no default. -/
theorem Agreeing.field {hashLength : Int} {a b : Api ι} (h : Agreeing hashLength a) (engine : b.engine = a.engine)
    {type : String} {f : Field} (catalog : b.catalog = a.catalog.withField type f)
    {code : Option (Code ι)} {args : Args}
    (resolver : b.resolver = a.resolver.change (.override type f.name code args)) : Agreeing hashLength b where
  length := by
    rw [catalog]
    exact h.length
  generated := by
    rw [catalog, hasEngine, engine]
    exact h.generated
  registry := by
    rw [catalog]
    exact Catalog.registry_withField h.registry trivial
  current := by
    rw [catalog]
    exact Catalog.current_of_stale rfl
  nodup := by
    rw [resolver]
    exact Resolver.nodup_change h.nodup _
  overridden := by
    obtain ⟨hadded, hkept⟩ := hasField_withField a.catalog type f
    intro t name ho
    rw [resolver, Resolver.entry?_override] at ho
    rw [catalog]
    cases hg : Change.given? t name (.override type f.name code args) with
    | some p =>
      obtain ⟨rfl, rfl⟩ := Resolver.given?_self_of_given? hg
      exact hadded
    | none =>
      rw [hg] at ho
      exact hkept t name (h.overridden t name ho)
  defaulted := by
    intro t name
    have hgenerates : b.catalog.Generates t name ↔ a.catalog.Generates t name :=
      Generates.congr (by rw [catalog]; rfl) t name
    rw [hgenerates, ← h.defaulted t name, resolver, Resolver.entry?_override]
    cases hg : Change.given? t name (.override type f.name code args) with
    | some p => cases a.resolver.entry? t name <;> rfl
    | none => exact Iff.rfl

/-- A schema taken over brings its own defaults, and keeps the overrides. -/
theorem Agreeing.adopt {hashLength : Int} {a b : Api ι} (h : Agreeing hashLength a) (engine : b.engine = a.engine)
    (connected : a.hasEngine = true) {schema : Schema} (apart : Generated.TypeNamesApart hashLength schema)
    (catalog : b.catalog = a.catalog.adopt schema)
    (entries : b.resolver.entries = (a.resolver.register (a.catalog.adopt schema)).entries) :
    Agreeing hashLength b := by
  have hentry (type field : String) : b.resolver.entry? type field =
      Entry.registered type field (a.catalog.adopt schema) (a.resolver.entry? type field) :=
    (entry?_congr entries type field).trans
      (Resolver.entry?_change h.nodup (.register (a.catalog.adopt schema)) type field)
  refine ⟨catalog ▸ h.length, .inr ⟨?_, schema, apart, ?_⟩, ?_, ?_, ?_, ?_, ?_⟩
  · rw [hasEngine, engine]
    exact connected
  · rw [catalog, ← h.length]
    rfl
  · rw [catalog]
    exact ⟨h.registry.types, h.registry.inputs⟩
  · rw [catalog]
    exact Catalog.current_of_stale rfl
  · rw [entries]
    exact Resolver.nodup_change h.nodup (.register (a.catalog.adopt schema))
  · intro type field ho
    rw [hentry, Entry.override_registered] at ho
    rw [catalog]
    exact h.overridden type field ho
  · intro type field
    rw [hentry, Entry.default_registered, catalog, Option.isSome_map, Catalog.isSome_defaultOf]

/-- Every move keeps the registries in agreement. -/
theorem Agreeing.moves {hashLength : Int} {a b : Api ι} (h : Agreeing hashLength a)
    (hm : Moves (Generated.TypeNamesApart hashLength) a b) : Agreeing hashLength b := by
  cases hm with
  | idle engine catalog entries =>
    exact h.same engine entries (by rw [catalog]) (by rw [catalog]) (by rw [catalog]) (catalog ▸ h.registry)
      (catalog ▸ h.current)
  | field type f code args engine catalog resolver => exact h.field engine catalog resolver
  | input type name ref engine catalog entries =>
    refine h.same engine entries (by rw [catalog]; rfl) (by rw [catalog]; rfl) (by rw [catalog]; rfl) ?_ ?_
    · rw [catalog]
      exact Catalog.registry_withInput h.registry trivial
    · rw [catalog]
      exact Catalog.current_of_stale rfl
  | adopt schema apart engine connected catalog entries => exact h.adopt engine connected apart catalog entries
  | text refresh connected engine catalog entries =>
    have hcurrent : b.catalog.Current := catalog ▸ Catalog.current_call h.current (.text refresh connected)
    obtain ⟨r, -, -, -, ht⟩ | ht := a.catalog.text_cases refresh connected
    · rw [ht] at catalog
      exact h.same engine entries (by rw [catalog]) (by rw [catalog]) (by rw [catalog]) (catalog ▸ h.registry) hcurrent
    · rw [ht] at catalog
      refine h.same engine entries (by rw [catalog]) (by rw [catalog]) (by rw [catalog]) ?_ hcurrent
      rw [catalog]
      exact ⟨h.registry.types, h.registry.inputs⟩

theorem agreeing_after {hashLength : Int} {a : Api ι} (h : Agreeing hashLength a) {steps : List (Step ι)}
    (hs : ∀ x ∈ steps, x.ReadsApart hashLength) : Agreeing hashLength (a.after steps) := by
  induction steps generalizing a with
  | nil => exact h
  | cons x rest ih =>
    obtain ⟨hx, hrest⟩ := List.forall_mem_cons.1 hs
    exact ih (h.moves (moves_step a hx)) hrest

/-- A new API is in agreement, also about the field that tells its name. -/
theorem agreeing_create (name : String) (engine : Option Engine) (exclude : List String)
    (productName : Option String) (settings : Settings) (hook : Hook ι) :
    Agreeing settings.hashLength (create name engine exclude productName settings hook) := by
  have hnone (c : Catalog) (hc : c.generated = {}) (type field : String) : ¬ c.Generates type field := by
    rintro ⟨t, ht, -⟩
    rw [hc] at ht
    cases ht
  have hempty (hook : Hook (Code ι)) : Agreeing settings.hashLength
      ({ engine, exclude, productName,
         catalog := { hashLength := settings.hashLength }, resolver := { settings, hook } } : Api ι) :=
    { length := rfl
      generated := .inl rfl
      registry := ⟨by simp, by simp⟩
      current := Catalog.current_of_stale rfl
      nodup := List.nodup_nil
      overridden := by
        intro type field ho
        cases ho
      defaulted := by
        intro type field
        exact iff_of_false (fun h => nomatch h) (hnone _ rfl type field) }
  unfold create
  dsimp only
  split
  · exact hempty _
  · exact (hempty _).moves (moves_add _ _ _ _ _ _ _)

end Api

end TableGraph
