import TableGraph.Proofs.Resolver.Changes
import TableGraph.Proofs.Work
import TableGraph.Resolver.Resolve

/-! # The hook in front of every field

The map of resolvers that a host takes holds functions, not handlers: each looks up the hook when it is
called, and the field's handler when the verdict is there. So whatever was changed since the map was
taken counts, and what a call does is read off the history (`called_through_hook`). A function taken
without a connection is of an overridden field, which stays overridden.
-/
namespace TableGraph

variable {ι : Type}

namespace Change

def validator? : Change ι → Option ι
  | hook validator _ => some validator
  | _ => none

def rejected? : Change ι → Option ι
  | hook _ rejected => rejected
  | _ => none

end Change

namespace Hook

/-- The hook in force after some changes: the validator set last and the code for rejected fields given
last, or else the configured ones. -/
def afterChanges (h : Hook ι) (changes : List (Change ι)) : Hook ι where
  validator := (changes.filterMap Change.validator?).getLast?.or h.validator
  rejected := (changes.filterMap Change.rejected?).getLast?.or h.rejected

/-- What the validator itself does. The built-in one lets every field through. -/
def validation (h : Hook ι) (host : Host ι ι) (q : FieldQuery) : Work ι Value :=
  match h.validator with
  | some code => host.validate code q
  | none => .done (.ok (.bool true))

/-- What the code for rejected fields itself does. The built-in one answers null. -/
def answerRejected (h : Hook ι) (host : Host ι ι) (q : FieldQuery) : Work ι Value :=
  match h.rejected with
  | some code => host.reject code q
  | none => .done (.ok .null)

end Hook

/-- The handler of a field after some changes to a new resolver: the code given last, or else the default
of the catalog registered last. -/
def handlerAfter (type field : String) (changes : List (Change ι)) : Option (Handler ι) :=
  ((givenTo type field changes).getLast?.map fun p => Handler.host p.1).or
    (((lastCatalog changes).bind fun c => c.defaultOf type field).map fun d => .default d.1)

namespace Resolver

/-- The function of a field is in the map that is taken with or without a connection. -/
def Offers (r : Resolver ι) (connected : Bool) (type field : String) : Prop :=
  ∃ fields, (r.fieldMap connected).get? type = some fields ∧ field ∈ fields

/-- A call of a function of the map. The hook in force decides, and once its verdict is there, the
resolver as it is by then handles the field. -/
def resolveAcross (now later : Resolver ι) (host : Host ι ι) (q : FieldQuery) (connected : Bool) : Work ι Value := do
  if ← now.verdict host q then later.handle host q connected else now.rejection host q

/-- What a field's code is told. -/
def contextOf (r : Resolver ι) (q : FieldQuery) : FieldContext ι :=
  ⟨r, q.type, q.field, (r.entry? q.type q.field).bind (·.table), q.context,
    (r.entry? q.type q.field).bind (·.default)⟩

/-- What a handler does, if there is one. -/
def runHandler (r : Resolver ι) (host : Host ι ι) (q : FieldQuery) : Option (Handler ι) → Work ι Value
  | none => .fail (.config (.noResolver q.type q.field))
  | some (.host code) => .emit (.handler code) (host.handle code (r.contextOf q) q.parent q.args)
  | some (.default d) => (r.contextOf q).runDefault d q.parent q.args

theorem handle_eq (r : Resolver ι) (host : Host ι ι) (q : FieldQuery) (connected : Bool) :
    r.handle host q connected =
      r.runHandler host q ((r.entry? q.type q.field).bind fun e => e.handler connected) := by
  unfold handle
  cases he : r.entry? q.type q.field with
  | none => rfl
  | some e =>
    have hcontext : r.contextOf q = ⟨r, q.type, q.field, e.table, q.context, e.default⟩ := by
      rw [contextOf, he]
      rfl
    cases hh : e.handler connected with
    | none => simp only [Option.bind_some, hh, runHandler]
    | some h =>
      cases h with
      | host code =>
        simp only [Option.bind_some, hh, runHandler, hcontext]
        rfl
      | default d => simp only [Option.bind_some, hh, runHandler, hcontext]

/-! ## The hook in force -/

theorem hook_after (r : Resolver ι) (changes : List (Change ι)) :
    (r.after changes).hook = r.hook.afterChanges changes := by
  induction changes using List.reverseRecOn with
  | nil => rfl
  | append_singleton changes x ih =>
    rw [after_concat]
    cases x with
    | hook validator rejected =>
      have hset : ((r.after changes).change (.hook validator rejected)).hook =
          ⟨some validator, rejected.or (r.after changes).hook.rejected⟩ := by
        cases rejected <;> rfl
      rw [hset, ih]
      cases rejected <;> simp [Hook.afterChanges, Change.validator?, Change.rejected?]
    | override t f code args =>
      have hkept : ((r.after changes).change (.override t f code args)).hook = (r.after changes).hook := by
        rw [change_override]
        split <;> rfl
      rw [hkept, ih]
      simp [Hook.afterChanges, Change.validator?, Change.rejected?]
    | register c =>
      change (r.after changes).hook = _
      rw [ih]
      simp [Hook.afterChanges, Change.validator?, Change.rejected?]

/-! ## The map -/

theorem mem_foldl_fields {entries : List ((String × String) × Entry ι)} {m : Assoc String (List String)}
    {type field : String} {fields : List String}
    (h : (entries.foldl (fun m p => m.change p.1.1 fun fields => fields.getD [] ++ [p.1.2]) m).get? type = some fields)
    (hf : field ∈ fields) :
    (∃ held, m.get? type = some held ∧ field ∈ held) ∨ ∃ p ∈ entries, p.1 = (type, field) := by
  induction entries generalizing m with
  | nil => exact .inl ⟨fields, h, hf⟩
  | cons p rest ih =>
    rcases ih h with ⟨held, hheld, hmem⟩ | ⟨q, hq, hk⟩
    · change (Assoc.put m p.1.1 ((m.get? p.1.1).getD [] ++ [p.1.2])).get? type = some held at hheld
      rw [Assoc.get?_put] at hheld
      split at hheld
      · rename_i htype
        obtain rfl := Option.some.inj hheld
        rcases List.mem_append.1 hmem with hmem | hmem
        · cases hg : m.get? p.1.1 with
          | none =>
            rw [hg] at hmem
            cases hmem
          | some old =>
            rw [hg] at hmem
            exact .inl ⟨old, htype ▸ hg, hmem⟩
        · exact .inr ⟨p, List.mem_cons_self, Prod.ext htype (List.mem_singleton.1 hmem).symm⟩
      · exact .inl ⟨held, hheld, hmem⟩
    · exact .inr ⟨q, List.mem_cons_of_mem p hq, hk⟩

theorem mem_foldl_fields_of {entries : List ((String × String) × Entry ι)} {m : Assoc String (List String)}
    {type field : String}
    (h : (∃ held, m.get? type = some held ∧ field ∈ held) ∨ ∃ p ∈ entries, p.1 = (type, field)) :
    ∃ fields, (entries.foldl (fun m p => m.change p.1.1 fun fields => fields.getD [] ++ [p.1.2]) m).get? type =
      some fields ∧ field ∈ fields := by
  induction entries generalizing m with
  | nil =>
    rcases h with h | ⟨p, hp, -⟩
    · exact h
    · cases hp
  | cons p rest ih =>
    have hget : (m.change p.1.1 fun fields => fields.getD [] ++ [p.1.2]).get? type =
        if p.1.1 = type then some ((m.get? p.1.1).getD [] ++ [p.1.2]) else m.get? type := Assoc.get?_put _ _ _ _
    apply ih
    rcases h with ⟨held, hheld, hmem⟩ | ⟨q, hq, hk⟩
    · left
      by_cases htype : p.1.1 = type
      · refine ⟨_, hget.trans (if_pos htype), List.mem_append_left _ ?_⟩
        rwa [htype, hheld, Option.getD_some]
      · exact ⟨held, hget.trans ((if_neg htype).trans hheld), hmem⟩
    · rcases List.mem_cons.1 hq with rfl | hq
      · left
        obtain ⟨htype, hfield⟩ := Prod.mk.inj hk
        exact ⟨_, hget.trans (if_pos htype), List.mem_append_right _ (hfield ▸ List.mem_cons_self)⟩
      · exact .inr ⟨q, hq, hk⟩

/-- A function in the map is of a field with a handler. -/
theorem handler_of_offers {r : Resolver ι} (hr : r.entries.keys.Nodup) {connected : Bool} {type field : String}
    (h : r.Offers connected type field) :
    ((r.entry? type field).bind fun e => e.handler connected).isSome = true := by
  obtain ⟨fields, hget, hmem⟩ := h
  rcases mem_foldl_fields hget hmem with ⟨held, hheld, -⟩ | ⟨⟨key, e⟩, hp, hk⟩
  · cases hheld
  · obtain ⟨hp, hhandler⟩ := List.mem_filter.1 hp
    obtain rfl : key = (type, field) := hk
    rw [ entry?, Assoc.get?_eq_some_of_mem hr hp]
    exact hhandler

/-- A field with a handler has a function in the map. -/
theorem offers_of_handler {r : Resolver ι} {connected : Bool} {type field : String}
    (h : ((r.entry? type field).bind fun e => e.handler connected).isSome = true) : r.Offers connected type field := by
  cases he : r.entry? type field with
  | none => simp [he] at h
  | some e =>
    rw [he, Option.bind_some] at h
    exact mem_foldl_fields_of (.inr ⟨_, List.mem_filter.2 ⟨Assoc.mem_of_get? he, h⟩, rfl⟩)

/-- The map has each type once, with a field. -/
theorem fieldMap_spec (r : Resolver ι) (connected : Bool) :
    (r.fieldMap connected).keys.Nodup ∧ ∀ p ∈ r.fieldMap connected, p.2 ≠ [] := by
  have hfold (entries : List ((String × String) × Entry ι)) : ∀ m : Assoc String (List String),
      m.keys.Nodup ∧ (∀ p ∈ m, p.2 ≠ []) →
      (entries.foldl (fun m p => m.change p.1.1 fun fields => fields.getD [] ++ [p.1.2]) m).keys.Nodup ∧
        ∀ p ∈ entries.foldl (fun m p => m.change p.1.1 fun fields => fields.getD [] ++ [p.1.2]) m, p.2 ≠ [] := by
    induction entries with
    | nil => exact fun m hm => hm
    | cons q rest ih =>
      intro m hm
      refine ih _ ⟨Assoc.nodup_put hm.1 _ _, fun p hp => ?_⟩
      rcases Assoc.mem_put hp with rfl | hp
      · simp
      · exact hm.2 p hp
  exact hfold _ [] ⟨List.nodup_nil, by simp⟩

/-- What stands in the map is offered. -/
theorem offers_of_mem {r : Resolver ι} {connected : Bool} {p : String × List String} (hp : p ∈ r.fieldMap connected)
    {field : String} (hf : field ∈ p.2) : r.Offers connected p.1 field :=
  ⟨p.2, Assoc.get?_eq_some_of_mem (r.fieldMap_spec connected).1 hp, hf⟩

end Resolver

/-- The handler that an entry gives a function taken with a connection. -/
theorem handler_entryAfter (type field : String) (changes : List (Change ι)) :
    ((entryAfter type field changes).bind fun e => e.handler true) = handlerAfter type field changes := by
  have htiers : ((entryAfter type field changes).bind fun e => e.handler true) =
      (((entryAfter type field changes).bind (·.override)).map .host).or
        (((entryAfter type field changes).bind (·.default)).map .default) := by
    cases entryAfter type field changes with
    | none => rfl
    | some e => cases ho : e.override <;> simp [Entry.handler, ho]
  rw [htiers, override_entryAfter, default_entryAfter, Option.map_map, Option.map_map]
  rfl

/-- Once the function of a field is in a map, it finds the field's handler, if there is one: an override
is never taken back, and a default is only looked for by a function taken with a connection. -/
theorem handler_of_taken {settings : Settings} {hook : Hook ι} {driver : Bool} {before : List (Change ι)}
    {connected : Bool} {type field : String}
    (h : ((Resolver.fresh settings hook driver).after before).Offers connected type field)
    (since : List (Change ι)) :
    ((entryAfter type field (before ++ since)).bind fun e => e.handler connected) =
      handlerAfter type field (before ++ since) := by
  cases connected with
  | true => exact handler_entryAfter type field (before ++ since)
  | false =>
    have hnodup : (Resolver.fresh settings hook driver).entries.keys.Nodup := List.nodup_nil
    have hhandler := Resolver.handler_of_offers (Resolver.nodup_after hnodup before) h
    rw [Resolver.entry?_after] at hhandler
    -- without a connection only an override handles, so the field had one when the map was taken
    have hgiven : givenTo type field before ≠ [] := by
      rw [← List.getLast?_isSome, ← Option.isSome_map (f := Prod.fst), ← override_entryAfter]
      cases he : entryAfter type field before with
      | none =>
        rw [he] at hhandler
        cases hhandler
      | some e =>
        rw [he] at hhandler
        cases ho : e.override with
        | none => simp [Entry.handler, ho] at hhandler
        | some code => simp [ho]
    have hlater : givenTo type field (before ++ since) ≠ [] := by
      rw [givenTo, List.filterMap_append]
      exact List.append_ne_nil_of_left_ne_nil hgiven _
    have hoverride : ((entryAfter type field (before ++ since)).bind (·.override)).isSome = true := by
      rw [override_entryAfter, Option.isSome_map, List.getLast?_isSome]
      exact hlater
    rw [← handler_entryAfter]
    cases he : entryAfter type field (before ++ since) with
    | none => rfl
    | some e =>
      rw [he] at hoverride
      obtain ⟨code, ho⟩ := Option.isSome_iff_exists.1 hoverride
      have ho : e.override = some code := ho
      simp [Entry.handler, ho]

namespace Resolver

theorem resolveAcross_self (r : Resolver ι) (host : Host ι ι) (q : FieldQuery) (connected : Bool) :
    r.resolveAcross r host q connected = r.resolve host q connected := rfl

/-- A call runs the validator, and after it one of two things. -/
theorem resolveAcross_eq (now later : Resolver ι) (host : Host ι ι) (q : FieldQuery) (connected : Bool) :
    now.resolveAcross later host q connected =
      .emit (.validator now.hook.validator q) ((now.hook.validation host q).bind fun v =>
        if v.isGiven then later.handle host q connected
        else .emit (.rejected now.hook.rejected q) (now.hook.answerRejected host q)) := by
  have hrejection : now.rejection host q =
      .emit (.rejected now.hook.rejected q) (now.hook.answerRejected host q) := by
    unfold rejection Hook.answerRejected
    cases now.hook.rejected <;> rfl
  have hverdict : now.verdict host q = .emit (.validator now.hook.validator q)
      ((now.hook.validation host q).bind fun v => .done (.ok v.isGiven)) := by
    unfold verdict Hook.validation
    cases now.hook.validator <;> rfl
  change (now.verdict host q).bind _ = _
  rw [hverdict, hrejection]
  exact congrArg (Work.emit _) (Work.bind_assoc _ _ _)

end Resolver

/-- For every run of changes to a new resolver, a function taken from its map at any time and called at any
later time, whatever is changed until then and while the validator makes up its mind. The call first asks the
validator in force when it is made, once and with the whole query. If the validator fails, so does the call.
If the verdict does not count as given, the code for rejected fields in force when the call was made answers,
and nothing else runs. Otherwise the field's handler as it is by then runs, the override if there is one and
else the default, or the call fails for want of one. -/
theorem called_through_hook (settings : Settings) (configured : Hook ι) (driver : Bool)
    (before waited meanwhile : List (Change ι)) (connected : Bool) (q : FieldQuery)
    (htaken : ((Resolver.fresh settings configured driver).after before).Offers connected q.type q.field)
    (host : Host ι ι) {σ : Type} (answer : (c : Call) → σ → Except Failure c.Answer × σ) (s : σ) :
    let now := (Resolver.fresh settings configured driver).after (before ++ waited)
    let later := now.after meanwhile
    let hook := configured.afterChanges (before ++ waited)
    let handler := handlerAfter q.type q.field (before ++ waited ++ meanwhile)
    let call := now.resolveAcross later host q connected
    let verdict := (hook.validation host q).run answer s
    (meanwhile = [] → call = now.resolve host q connected) ∧
    (∀ e, verdict.result = .error e →
      call.run answer s = ⟨.error e, verdict.state, .event (.validator hook.validator q) :: verdict.trace⟩) ∧
    (∀ v, verdict.result = .ok v → v.isGiven = false →
      let rejected := (hook.answerRejected host q).run answer verdict.state
      call.run answer s = ⟨rejected.result, rejected.state, .event (.validator hook.validator q) ::
        verdict.trace ++ .event (.rejected hook.rejected q) :: rejected.trace⟩) ∧
    ∀ v, verdict.result = .ok v → v.isGiven = true →
      let handled := (later.runHandler host q handler).run answer verdict.state
      call.run answer s = ⟨handled.result, handled.state, .event (.validator hook.validator q) ::
        verdict.trace ++ handled.trace⟩ := by
  intro now later hook handler call verdict
  have hhook : now.hook = hook := Resolver.hook_after _ (before ++ waited)
  have hlater : later = (Resolver.fresh settings configured driver).after (before ++ (waited ++ meanwhile)) := by
    rw [← List.append_assoc, Resolver.after_append]
  have hhandler : later.handle host q connected = later.runHandler host q handler := by
    have htakenHandler := handler_of_taken htaken (waited ++ meanwhile)
    rw [← List.append_assoc] at htakenHandler
    rw [Resolver.handle_eq, hlater, Resolver.entry?_after, ← List.append_assoc, htakenHandler]
  have hcall : call = .emit (.validator hook.validator q) ((hook.validation host q).bind fun v =>
      if v.isGiven then later.runHandler host q handler
      else .emit (.rejected hook.rejected q) (hook.answerRejected host q)) := by
    rw [← hhook, ← hhandler]
    exact Resolver.resolveAcross_eq now later host q connected
  have hrun : call.run answer s = (verdict.andThen fun v s => (if v.isGiven then later.runHandler host q handler
      else .emit (.rejected hook.rejected q) (hook.answerRejected host q)).run answer s).precededBy
        [.event (.validator hook.validator q)] := by
    rw [hcall, Work.run_emit, Work.run_bind]
  refine ⟨?_, ?_, ?_, ?_⟩
  · rintro rfl
    exact Resolver.resolveAcross_self now host q connected
  · intro e he
    rw [hrun, Work.Outcome.andThen, he]
    rfl
  · intro v hv hgiven
    rw [hrun, Work.Outcome.andThen, hv]
    simp only [hgiven]
    rfl
  · intro v hv hgiven
    rw [hrun, Work.Outcome.andThen, hv]
    simp only [hgiven]
    rfl

/-- Host code by number: the validator 3 lets nothing through, and all else does. -/
def numbered : Host Nat Nat where
  handle _ _ _ _ := .done (.ok (.text "pong"))
  validate code _ := .done (.ok (.bool (code ≠ 3)))
  reject _ _ := .done (.ok (.text "nope"))

def pingQuery : FieldQuery := ⟨queryType, "ping", .null, [], .null⟩

/-- A function that was taken without a connection, before the hooks were set, meets the validator set last
and the code for rejected fields that came with the one before. -/
theorem ping_rejected :
    let pinged : List (Change Nat) := [.override queryType "ping" (some 0) []]
    let now := (Resolver.fresh {} {} true).after (pinged ++ [.hook 1 (some 2), .hook 3 none])
    ((Resolver.fresh {} {} true).after pinged).Offers false queryType "ping" ∧
      ∀ answer : (c : Call) → Unit → Except Failure c.Answer × Unit,
        (now.resolveAcross now numbered pingQuery false).run answer () =
          ⟨.ok (.text "nope"), (),
            [.event (.validator (some 3) pingQuery), .event (.rejected (some 2) pingQuery)]⟩ := by
  intro pinged now
  have htaken : ((Resolver.fresh {} {} true).after pinged).Offers false pingQuery.type pingQuery.field :=
    ⟨["ping"], rfl, List.mem_singleton.2 rfl⟩
  refine ⟨htaken, fun answer => ?_⟩
  have hcall := called_through_hook {} {} true pinged [.hook 1 (some 2), .hook 3 none] [] false pingQuery htaken
    numbered answer ()
  exact hcall.2.2.1 (.bool false) rfl rfl

end TableGraph
