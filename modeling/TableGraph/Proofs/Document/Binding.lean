import Mathlib.Data.List.Nodup
import TableGraph.Document.Binding
import TableGraph.Proofs.Store.Chains

/-! # When binding succeeds

Binding marks fields and takes none away (`isSome_field?_bindField`). So it goes through if every type and
every field that the resolver map names is defined before anything is bound (`bind_ne_config`).
-/
namespace TableGraph.Document

/-- The definitions have an object type of this name, and no type is given under it. The type has the field. -/
def Defines (ds : List TypeDefinition) (type field : String) : Prop :=
  ∃ d ∈ ds, d.kind = .object ∧ d.name = type ∧ isGiven type = false ∧ ∃ f ∈ d.fields, f.name = field

theorem isGiven_of_introspection {o : ObjectType} (h : o ∈ introspectionTypes) : isGiven o.name = true := by
  have hm : o.name ∈ introspectionTypes.map (·.name) := List.mem_map_of_mem h
  simp only [isGiven, givenNames, List.mem_append, decide_eq_true_eq]
  exact .inl (.inr hm)

namespace BoundSchema

theorem isSome_field?_bindField (s : BoundSchema) (t f type field : String) :
    ((s.bindField t f).field? type field).isSome = (s.field? type field).isSome := by
  have hobject : (s.bindField t f).object? type = (s.object? type).map fun o =>
      if o.name = t then { o with fields := o.fields.map fun g => if g.name = f then { g with bound := true } else g }
      else o := by
    unfold object? bindField
    rw [List.find?_map]
    congr 2
    funext o
    simp only [Function.comp_apply]
    split <;> rfl
  unfold field?
  rw [hobject]
  cases s.object? type with
  | none => rfl
  | some o =>
    rw [Option.map_some, Option.bind_some, Option.bind_some]
    split
    · rw [List.find?_map, Option.isSome_map]
      congr 2
      funext g
      simp only [Function.comp_apply]
      split <;> rfl
    · rfl

theorem isSome_object? {s : BoundSchema} {type field : String} (h : (s.field? type field).isSome = true) :
    (s.object? type).isSome = true := by
  unfold field? at h
  cases ho : s.object? type with
  | none => simp [ho] at h
  | some o => rfl

/-- Fields that are there are bound, and the others stay. -/
theorem bindFields_ok {s : BoundSchema} {type : String} {fields : List String}
    (h : ∀ field ∈ fields, (s.field? type field).isSome = true) :
    ∃ bound, s.bindFields type fields = .ok bound ∧
      ∀ t f, (bound.field? t f).isSome = (s.field? t f).isSome := by
  induction fields generalizing s with
  | nil => exact ⟨s, rfl, fun _ _ => rfl⟩
  | cons field rest ih =>
    obtain ⟨hfield, hrest⟩ := List.forall_mem_cons.1 h
    have hkept := s.isSome_field?_bindField type field
    obtain ⟨bound, hb, hall⟩ := ih fun f hf => (hkept type f).trans (hrest f hf)
    refine ⟨bound, ?_, fun t f => (hall t f).trans (hkept t f)⟩
    rw [bindFields, if_pos hfield, hb]

theorem bindTypes_ok {s : BoundSchema} {resolvers : Assoc String (List String)} (hne : ∀ p ∈ resolvers, p.2 ≠ [])
    (h : ∀ p ∈ resolvers, ∀ field ∈ p.2, (s.field? p.1 field).isSome = true) :
    ∃ bound, resolvers.foldlM bindType s = .ok bound := by
  induction resolvers generalizing s with
  | nil => exact ⟨s, rfl⟩
  | cons p rest ih =>
    obtain ⟨hp, hrest⟩ := List.forall_mem_cons.1 h
    obtain ⟨field, hfield⟩ := List.exists_mem_of_ne_nil p.2 (hne p List.mem_cons_self)
    obtain ⟨next, hnext, hall⟩ := bindFields_ok hp
    have htype : s.bindType p = .ok next := by rw [bindType, if_pos (isSome_object? (hp field hfield)), hnext]
    obtain ⟨bound, hbound⟩ := ih (fun q hq => hne q (List.mem_cons_of_mem p hq))
      fun q hq f hf => (hall q.1 f).trans (hrest q hq f hf)
    exact ⟨bound, by rw [List.foldlM_cons, htype]; exact hbound⟩

/-- What is defined can be looked up, if no name is defined twice. -/
theorem field?_ofDefinitions {ds : List TypeDefinition} (hn : (ds.map (·.name)).Nodup) {type field : String}
    (h : Defines ds type field) : ((ofDefinitions ds).field? type field).isSome = true := by
  obtain ⟨d, hd, hkind, hname, hgiven, f, hf, hfield⟩ := h
  let own : ObjectType := unboundType d.name (d.fields.map fun f => (f.name, f.type))
  have hown : own ∈ (ofDefinitions ds).objects := by
    refine List.mem_append_left _ (List.mem_map.2 ⟨d, List.mem_filter.2 ⟨hd, ?_⟩, rfl⟩)
    simp [hkind, hname, hgiven]
  have hfind : (ofDefinitions ds).object? type = some own := by
    cases ho : (ofDefinitions ds).object? type with
    | none =>
      have hno := List.find?_eq_none.1 ho own hown
      simp [own, unboundType, hname] at hno
    | some o =>
      have hoName : o.name = type := by simpa using List.find?_some ho
      rcases List.mem_append.1 (List.mem_of_find?_eq_some ho) with hm | hm
      · obtain ⟨e, he, rfl⟩ := List.mem_map.1 hm
        have hsame : e = d := List.inj_on_of_nodup_map hn (List.mem_filter.1 he).1 hd (hoName.trans hname.symm)
        rw [hsame]
      · rw [← hoName, isGiven_of_introspection hm] at hgiven
        cases hgiven
  rw [field?, hfind, Option.bind_some, List.find?_isSome]
  exact ⟨_, List.mem_map.2 ⟨_, List.mem_map_of_mem hf, rfl⟩, by simpa using hfield⟩

end BoundSchema

/-- Binding meets no unknown type and no unknown field if the map names defined fields only. -/
theorem bind_ne_config {text : String} {ds : List TypeDefinition} {resolvers : Assoc String (List String)}
    (hne : ∀ p ∈ resolvers, p.2 ≠ []) (hread : ds ≠ [] → read? text = some ds)
    (h : ∀ p ∈ resolvers, ∀ field ∈ p.2, Defines ds p.1 field) (e : ConfigError) :
    bind text resolvers ≠ .error (.config e) := by
  intro hbind
  rw [bind] at hbind
  cases hr : read? text with
  | none => simp [hr] at hbind
  | some read =>
    simp only [hr] at hbind
    by_cases hc : consistent read = true
    · obtain ⟨s, hs⟩ : ∃ s, resolvers.foldlM BoundSchema.bindType (.ofDefinitions read) = .ok s := by
        refine BoundSchema.bindTypes_ok hne fun p hp field hf => ?_
        have hdefined := h p hp field hf
        have hds : ds ≠ [] := by
          obtain ⟨d, hd, -⟩ := hdefined
          exact List.ne_nil_of_mem hd
        have hsame : read = ds := Option.some.inj (hr.symm.trans (hread hds))
        rw [← hsame] at hdefined
        simp only [consistent, Bool.and_eq_true, Bool.not_eq_true'] at hc
        exact BoundSchema.field?_ofDefinitions (hasRepeats_eq_false.1 hc.1) hdefined
      rw [if_pos hc, hs] at hbind
      cases hbind
    · rw [if_neg hc] at hbind
      cases hbind

end TableGraph.Document
