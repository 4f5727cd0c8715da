import TableGraph.Catalog.Basic
import TableGraph.Proofs.Store.Chains

/-! # Histories of a catalog

Fields and inputs are added to a catalog, types are generated and the text is asked for, in any order.
What an addition adds depends on its arguments alone (`addField_eq`, `addInput_eq`), and a kept text that
is not stale is the one that would be rendered now (`Current`). So the text after a history is that of a
new catalog to which the successful additions are made, and for which the last schema built is built once
(`text_of_history`).
-/
namespace TableGraph.Catalog

/-! ## One addition -/

/-- The field that an addition makes. -/
def newField (type field : String) (returns : Value) (args : Args) : Except ConfigError Field := do
  if type = "" ∨ field = "" then throw .typeFieldNames
  let returns ← TypeRef.ofValue returns
  let args ← Field.declareAll args
  return ⟨field, returns, args⟩

def newInput (type field : String) (given : Value) : Except ConfigError TypeRef :=
  if type = "" ∨ field = "" then .error .inputFieldNames else TypeRef.ofValue given

def withField (c : Catalog) (type : String) (f : Field) : Catalog :=
  { c with addedTypes := c.addedTypes.put type (((c.addedTypes.get? type).getD []).put f.name f), stale := true }

def withInput (c : Catalog) (type field : String) (ref : TypeRef) : Catalog :=
  { c with addedInputs := c.addedInputs.put type (((c.addedInputs.get? type).getD []).put field ref), stale := true }

theorem addField_eq (c : Catalog) (type field : String) (returns : Value) (args : Args) :
    c.addField type field returns args = (newField type field returns args).map (c.withField type) := by
  unfold addField newField
  by_cases h : type = "" ∨ field = ""
  · simp [h, throw, throwThe, MonadExceptOf.throw, bind, Except.bind, Except.map]
  · cases TypeRef.ofValue returns with
    | error e => simp [h, bind, Except.bind, Except.map]
    | ok ref =>
      cases Field.declareAll args with
      | error e => simp [h, bind, Except.bind, Except.map]
      | ok declared => simp [h, bind, Except.bind, pure, Except.pure, Except.map, withField]

theorem newField_eq (type field : String) (returns : Value) (args : Args) : newField type field returns args =
    if type = "" ∨ field = "" then .error .typeFieldNames
    else (TypeRef.ofValue returns).bind fun ref =>
      (Field.declareAll args).map fun declared => ⟨field, ref, declared⟩ := by
  unfold newField
  split
  · rfl
  · cases TypeRef.ofValue returns with
    | error e => rfl
    | ok ref => cases Field.declareAll args <;> rfl

theorem names_of_newField {type field : String} {returns : Value} {args : Args} {f : Field}
    (h : newField type field returns args = .ok f) : ¬ (type = "" ∨ field = "") := by
  intro hempty
  rw [newField_eq, if_pos hempty] at h
  cases h

theorem name_newField {type field : String} {returns : Value} {args : Args} {f : Field}
    (h : newField type field returns args = .ok f) : f.name = field := by
  rw [newField_eq, if_neg (names_of_newField h)] at h
  obtain ⟨ref, -, h⟩ := Chain.bind_eq_ok.1 h
  obtain ⟨declared, -, rfl⟩ := Chain.map_eq_ok.1 h
  rfl

theorem addInput_eq (c : Catalog) (type field : String) (given : Value) :
    c.addInput type field given = (newInput type field given).map (c.withInput type field) := by
  unfold addInput newInput
  by_cases h : type = "" ∨ field = ""
  · simp [h, throw, throwThe, MonadExceptOf.throw, bind, Except.bind, Except.map]
  · cases TypeRef.ofValue given with
    | error e => simp [h, bind, Except.bind, Except.map]
    | ok ref => simp [h, bind, Except.bind, pure, Except.pure, Except.map, withInput]

/-! ## Histories -/

/-- A call on a catalog. -/
inductive Step where
  | field (type field : String) (returns : Value) (args : Args)
  | input (type field : String) (given : Value)
  | build (schema : Option Schema)
  | text (refresh connected : Bool)

namespace Step

def isAddition : Step → Bool
  | field .. | input .. => true
  | build _ | text .. => false

end Step

/-- What a call comes to: whether it succeeds, and the catalog after it. A failed addition leaves the
catalog as it is, a failed build keeps the schema it was given. -/
def call (c : Catalog) : Step → Bool × Catalog
  | .field type field returns args =>
    match c.addField type field returns args with
    | .ok added => (true, added)
    | .error _ => (false, c)
  | .input type field given =>
    match c.addInput type field given with
    | .ok added => (true, added)
    | .error _ => (false, c)
  | .build schema => ((c.build schema).1.isOk, (c.build schema).2)
  | .text refresh connected => (true, (c.text refresh connected).2)

def after (c : Catalog) (steps : List Step) : Catalog := steps.foldl (fun c x => (c.call x).2) c

/-- The additions of a history that succeed, in their order. -/
def accepted (c : Catalog) : List Step → List Step
  | [] => []
  | x :: rest =>
    if x.isAddition && (c.call x).1 then x :: (c.call x).2.accepted rest else (c.call x).2.accepted rest

/-- The schema that a call builds. -/
def built? (c : Catalog) : Step → Option Schema
  | .build schema => if (c.build schema).1.isOk then (c.build schema).2.schema else none
  | _ => none

/-- The schema of the last build that succeeds. -/
def lastBuilt (c : Catalog) : List Step → Option Schema
  | [] => none
  | x :: rest => (c.call x).2.lastBuilt rest <|> c.built? x

/-- A new catalog. -/
def fresh (hashLength : Int) (schema : Option Schema) : Catalog := { hashLength, schema }

theorem after_cons (c : Catalog) (x : Step) (rest : List Step) : c.after (x :: rest) = (c.call x).2.after rest := rfl

theorem after_append (c : Catalog) (steps more : List Step) : c.after (steps ++ more) = (c.after steps).after more :=
  List.foldl_append

/-! ## What one call does -/

/-- The two catalogs hold the same additions. -/
def SameAdditions (c d : Catalog) : Prop := c.addedTypes = d.addedTypes ∧ c.addedInputs = d.addedInputs

/-- Two catalogs of the same additions and the same generated types have the same text. -/
theorem render_congr {c d : Catalog} (h : SameAdditions c d) (hg : c.generated = d.generated) (connected : Bool) :
    c.render connected = d.render connected := by
  obtain ⟨ht, hi⟩ := h
  simp only [render, types, inputs, ht, hi, hg]

/-- A build takes over a sound schema, or at most notes the schema it was given. -/
theorem build_cases (c : Catalog) (schema : Option Schema) :
    (∃ s, s.isSound = true ∧ c.build schema = (.ok (), c.adopt s)) ∨
      ∃ e noted, c.build schema = (.error e, { c with schema := noted }) := by
  unfold build
  cases schema <|> c.schema with
  | none => exact .inr ⟨_, c.schema, rfl⟩
  | some s =>
    by_cases hs : s.isSound
    · exact .inl ⟨s, hs, by simp [hs]⟩
    · exact .inr ⟨.wrongKind, some s, by simp [hs]⟩

/-- Asking for the text changes at most what is kept of it. -/
theorem text_cases (c : Catalog) (refresh connected : Bool) :
    (∃ r, c.rendered = some r ∧ c.stale = false ∧ r.connected = connected ∧ c.text refresh connected = (r.text, c)) ∨
      c.text refresh connected = (c.render connected,
        { c with
          rendered := some ⟨c.render connected, connected⟩
          stale := false
          renderings := c.renderings + 1 }) := by
  unfold text kept?
  cases hr : c.rendered with
  | none => exact .inr rfl
  | some r =>
    by_cases h : (!refresh && !c.stale && r.connected = connected) = true
    · have hkept : (refresh = false ∧ c.stale = false) ∧ r.connected = connected := by simpa using h
      exact .inl ⟨r, rfl, hkept.1.2, hkept.2, by simp [h]⟩
    · exact .inr (by simp [h])

/-- An addition fares alike in catalogs with the same additions. -/
theorem call_addition {c d : Catalog} (h : SameAdditions c d) {x : Step} (hx : x.isAddition = true) :
    (c.call x).1 = (d.call x).1 ∧ SameAdditions (c.call x).2 (d.call x).2 := by
  obtain ⟨ht, hi⟩ := h
  cases x with
  | field type field returns args =>
    simp only [call, addField_eq]
    cases newField type field returns args with
    | error e => exact ⟨rfl, ht, hi⟩
    | ok f => exact ⟨rfl, by simp [Except.map, withField, ht], hi⟩
  | input type field given =>
    simp only [call, addInput_eq]
    cases newInput type field given with
    | error e => exact ⟨rfl, ht, hi⟩
    | ok ref => exact ⟨rfl, ht, by simp [Except.map, withInput, hi]⟩
  | build schema => cases hx
  | text refresh connected => cases hx

/-- A failed addition changes nothing. -/
theorem call_refused {c : Catalog} {x : Step} (hx : x.isAddition = true) (h : (c.call x).1 = false) :
    (c.call x).2 = c := by
  cases x with
  | field type field returns args =>
    simp only [call] at h ⊢
    cases hadd : c.addField type field returns args with
    | error e => rfl
    | ok added => simp [hadd] at h
  | input type field given =>
    simp only [call] at h ⊢
    cases hadd : c.addInput type field given with
    | error e => rfl
    | ok added => simp [hadd] at h
  | build schema => cases hx
  | text refresh connected => cases hx

/-- Builds and texts add nothing. -/
theorem call_other {c : Catalog} {x : Step} (hx : x.isAddition = false) : SameAdditions (c.call x).2 c := by
  cases x with
  | field type field returns args => cases hx
  | input type field given => cases hx
  | build schema =>
    obtain ⟨s, -, hb⟩ | ⟨e, noted, hb⟩ := c.build_cases schema <;> simp only [call, hb] <;> exact ⟨rfl, rfl⟩
  | text refresh connected =>
    obtain ⟨r, -, -, -, ht⟩ | ht := c.text_cases refresh connected <;> simp only [call, ht] <;> exact ⟨rfl, rfl⟩

/-- The generated types after a call are those of the schema that it builds, or else the earlier ones. -/
theorem generated_call (c : Catalog) (x : Step) :
    (c.call x).2.generated = ((c.built? x).map (Generated.build c.hashLength)).getD c.generated ∧
      (c.call x).2.hashLength = c.hashLength := by
  cases x with
  | field type field returns args =>
    simp only [call, addField_eq]
    cases newField type field returns args <;> exact ⟨rfl, rfl⟩
  | input type field given =>
    simp only [call, addInput_eq]
    cases newInput type field given <;> exact ⟨rfl, rfl⟩
  | build schema =>
    obtain ⟨s, -, hb⟩ | ⟨e, noted, hb⟩ := c.build_cases schema
    · exact ⟨by rw [call, built?, hb]; rfl, by rw [call, hb]; rfl⟩
    · exact ⟨by rw [call, built?, hb]; rfl, by rw [call, hb]⟩
  | text refresh connected =>
    obtain ⟨r, -, -, -, ht⟩ | ht := c.text_cases refresh connected <;> rw [call, ht] <;> exact ⟨rfl, rfl⟩

theorem isSound_of_built? {c : Catalog} {x : Step} {s : Schema} (h : c.built? x = some s) : s.isSound = true := by
  cases x with
  | build schema =>
    obtain ⟨t, ht, hb⟩ | ⟨e, noted, hb⟩ := c.build_cases schema
    · have hts : t = s := by simpa [built?, hb, Except.isOk, Except.toBool, adopt] using h
      exact hts ▸ ht
    · simp [built?, hb, Except.isOk, Except.toBool] at h
  | _ => cases h

/-! ## The kept text -/

/-- A kept text that is not stale is the text of the catalog as it is. -/
def Current (c : Catalog) : Prop :=
  ∀ r, c.rendered = some r → c.stale = false → r.text = c.render r.connected

theorem text_eq_render {c : Catalog} (h : Current c) (refresh connected : Bool) :
    (c.text refresh connected).1 = c.render connected := by
  obtain ⟨r, hr, hs, rfl, ht⟩ | ht := c.text_cases refresh connected
  · rw [ht]
    exact h r hr hs
  · rw [ht]

/-- What makes the catalog stale may change everything. -/
theorem current_of_stale {c : Catalog} (h : c.stale = true) : Current c := by
  intro r _ hs
  rw [h] at hs
  cases hs

theorem current_call {c : Catalog} (h : Current c) (x : Step) : Current (c.call x).2 := by
  cases x with
  | field type field returns args =>
    simp only [call, addField_eq]
    cases newField type field returns args with
    | error e => exact h
    | ok f => exact current_of_stale rfl
  | input type field given =>
    simp only [call, addInput_eq]
    cases newInput type field given with
    | error e => exact h
    | ok ref => exact current_of_stale rfl
  | build schema =>
    obtain ⟨s, -, hb⟩ | ⟨e, noted, hb⟩ := c.build_cases schema
    · simp only [call, hb]
      exact current_of_stale rfl
    · simp only [call, hb]
      exact h
  | text refresh connected =>
    obtain ⟨r, -, -, -, ht⟩ | ht := c.text_cases refresh connected
    · simp only [call, ht]
      exact h
    · simp only [call, ht]
      intro r hr _
      cases hr
      rfl

/-! ## What a history comes to -/

theorem current_after {c : Catalog} (h : Current c) (steps : List Step) : Current (c.after steps) := by
  induction steps generalizing c with
  | nil => exact h
  | cons x rest ih => exact ih (current_call h x)

/-- The accepted additions alone add the same. They generate nothing. -/
theorem after_accepted {c d : Catalog} (h : SameAdditions c d) (steps : List Step) :
    SameAdditions (c.after steps) (d.after (c.accepted steps)) ∧
      (d.after (c.accepted steps)).generated = d.generated ∧
      (d.after (c.accepted steps)).hashLength = d.hashLength := by
  induction steps generalizing c d with
  | nil => exact ⟨h, rfl, rfl⟩
  | cons x rest ih =>
    by_cases hx : x.isAddition = true
    · by_cases hok : (c.call x).1 = true
      · have hacc : c.accepted (x :: rest) = x :: (c.call x).2.accepted rest := by simp [accepted, hx, hok]
        have hgen := d.generated_call x
        have hnone : d.built? x = none := by cases x <;> first | rfl | cases hx
        rw [hnone, Option.map_none, Option.getD_none] at hgen
        obtain ⟨hsame, hg, hl⟩ := ih (call_addition h hx).2
        rw [hacc]
        exact ⟨hsame, hg.trans hgen.1, hl.trans hgen.2⟩
      · have hacc : c.accepted (x :: rest) = (c.call x).2.accepted rest := by simp [accepted, hok]
        have hsame : (c.call x).2 = c := call_refused hx (by simpa using hok)
        rw [hacc, after_cons, hsame]
        exact ih h
    · have hx : x.isAddition = false := by simpa using hx
      have hacc : c.accepted (x :: rest) = (c.call x).2.accepted rest := by simp [accepted, hx]
      obtain ⟨ht, hi⟩ := call_other (c := c) hx
      rw [hacc]
      exact ih ⟨ht.trans h.1, hi.trans h.2⟩

/-- The generated types are those of the schema built last. -/
theorem generated_after (c : Catalog) (steps : List Step) :
    (c.after steps).generated = ((c.lastBuilt steps).map (Generated.build c.hashLength)).getD c.generated := by
  induction steps generalizing c with
  | nil => rfl
  | cons x rest ih =>
    obtain ⟨hg, hl⟩ := c.generated_call x
    rw [after_cons, ih, hg, hl, lastBuilt]
    cases (c.call x).2.lastBuilt rest <;> rfl

theorem isSound_lastBuilt {c : Catalog} {steps : List Step} {s : Schema} (h : c.lastBuilt steps = some s) :
    s.isSound = true := by
  induction steps generalizing c with
  | nil => cases h
  | cons x rest ih =>
    cases hr : (c.call x).2.lastBuilt rest with
    | some t =>
      rw [lastBuilt, hr] at h
      exact ih (hr.trans h)
    | none =>
      rw [lastBuilt, hr] at h
      exact isSound_of_built? h

theorem sameAdditions_adopt {c d : Catalog} (h : SameAdditions c d) (s : Schema) : SameAdditions c (d.adopt s) := h

/-- A build of a sound schema generates from it, and adds nothing. -/
theorem call_build (c : Catalog) {s : Schema} (h : s.isSound = true) : (c.call (.build (some s))).2 = c.adopt s := by
  simp [call, build, h]

/-- The calls that a history can be replaced by: its accepted additions, and one build of the last schema built. -/
def essence (c : Catalog) (steps : List Step) : List Step :=
  c.accepted steps ++ (c.lastBuilt steps).toList.map fun s => .build (some s)

theorem render_essence (hashLength : Int) (schema : Option Schema) (steps : List Step) (connected : Bool) :
    ((fresh hashLength schema).after steps).render connected =
      ((fresh hashLength none).after ((fresh hashLength schema).essence steps)).render connected := by
  have hsame : SameAdditions (fresh hashLength schema) (fresh hashLength none) := ⟨rfl, rfl⟩
  obtain ⟨hadd, hgen, hlen⟩ := after_accepted hsame steps
  have hall := (fresh hashLength schema).generated_after steps
  rw [essence, after_append]
  cases hl : (fresh hashLength schema).lastBuilt steps with
  | none =>
    rw [hl] at hall
    exact render_congr hadd (hall.trans hgen.symm) connected
  | some s =>
    rw [hl] at hall
    have hbuilt : ((fresh hashLength none).after ((fresh hashLength schema).accepted steps)).after [.build (some s)] =
        ((fresh hashLength none).after ((fresh hashLength schema).accepted steps)).adopt s :=
      call_build _ (isSound_lastBuilt hl)
    have hgenerated : ((fresh hashLength schema).after steps).generated =
        (((fresh hashLength none).after ((fresh hashLength schema).accepted steps)).adopt s).generated := by
      rw [adopt, hlen]
      exact hall
    change _ = Catalog.render (after _ [.build (some s)]) connected
    rw [hbuilt]
    exact render_congr (sameAdditions_adopt hadd s) hgenerated connected

/-- Whatever was called before, the text is that of a new catalog after the additions that succeeded and one
build of the last schema built. Kept texts, earlier builds and failed calls do not show in it. -/
theorem text_of_history (hashLength : Int) (schema : Option Schema) (steps : List Step)
    (refresh connected again : Bool) :
    (((fresh hashLength schema).after steps).text refresh connected).1 =
      (((fresh hashLength none).after ((fresh hashLength schema).essence steps)).text again connected).1 := by
  have hfresh (given : Option Schema) : Current (fresh hashLength given) := current_of_stale rfl
  rw [text_eq_render (current_after (hfresh schema) steps) refresh connected,
    text_eq_render (current_after (hfresh none) _) again connected]
  exact render_essence hashLength schema steps connected

end TableGraph.Catalog
