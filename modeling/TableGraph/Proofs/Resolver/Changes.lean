import Mathlib.Data.List.Induction
import TableGraph.Proofs.Resolver.Defaults

/-! # Runs of changes to a resolver

A resolver is changed by setting its hook, by overriding a field and by registering a catalog, in any
order. What a field is resolved by afterwards is read off the history: the code given last for it, and
what the catalog registered last makes of it (`entries_after`).
-/
namespace TableGraph

/-- What a catalog does for a field by default, with the table that it reads. Of several tables that
name the field the last one counts. -/
def Catalog.defaultOf (c : Catalog) (type field : String) : Option (Default × String) :=
  Assoc.get? (Resolver.defaultEntries c.generated.tables).reverse (type, field)

/-- The arguments that a catalog declares for a field. -/
def Catalog.declaredFor (c : Catalog) (type field : String) : Args :=
  match ((c.types true).get? type).bind fun fields => Assoc.get? fields field with
  | some f => f.args.map fun p => (p.1, p.2.given)
  | none => []

/-- The field is a list, lookup, put or relation field of one of the compiled tables. -/
def Catalog.Generates (c : Catalog) (type field : String) : Prop :=
  ∃ t ∈ c.generated.tables,
    type = queryType ∧ (field = t.listField ∨ field = t.firstField) ∨
    type = mutationType ∧ field = t.putField ∨
    ∃ rel ∈ t.relations, rel.type = type ∧ rel.field = field

theorem Catalog.isSome_defaultOf (c : Catalog) (type field : String) :
    (c.defaultOf type field).isSome = true ↔ c.Generates type field := by
  have hkeys : (c.defaultOf type field).isSome = true ↔
      ∃ d, ((type, field), d) ∈ Resolver.defaultEntries c.generated.tables := by
    constructor
    · intro h
      obtain ⟨d, hd⟩ := Option.isSome_iff_exists.1 h
      exact ⟨d, List.mem_reverse.1 (Assoc.mem_of_get? hd)⟩
    · rintro ⟨d, hd⟩
      obtain ⟨e, he⟩ := Assoc.exists_get?_reverse (List.mem_map_of_mem hd)
      exact Option.isSome_iff_exists.2 ⟨e, he⟩
  rw [hkeys]
  constructor
  · rintro ⟨⟨d, table⟩, hd⟩
    obtain ⟨t, ht, hd⟩ := Resolver.mem_defaultEntries.1 hd
    refine ⟨t, ht, ?_⟩
    rcases Resolver.mem_defaultsOf.1 hd with ⟨hq, hf, -⟩ | ⟨hq, hf, -⟩ | ⟨hm, hf, -⟩ | ⟨rel, hr, htype, hfield, -⟩
    · exact .inl ⟨hq, .inl hf⟩
    · exact .inl ⟨hq, .inr hf⟩
    · exact .inr (.inl ⟨hm, hf⟩)
    · exact .inr (.inr ⟨rel, hr, htype, hfield⟩)
  · rintro ⟨t, ht, h⟩
    rcases h with ⟨hq, hf | hf⟩ | ⟨hm, hf⟩ | ⟨rel, hr, htype, hfield⟩
    · exact ⟨(.page, t.table), Resolver.mem_defaultEntries.2
        ⟨t, ht, Resolver.mem_defaultsOf.2 (.inl ⟨hq, hf, rfl, rfl⟩)⟩⟩
    · exact ⟨(.first, t.table), Resolver.mem_defaultEntries.2
        ⟨t, ht, Resolver.mem_defaultsOf.2 (.inr (.inl ⟨hq, hf, rfl, rfl⟩))⟩⟩
    · exact ⟨(.put, t.table), Resolver.mem_defaultEntries.2
        ⟨t, ht, Resolver.mem_defaultsOf.2 (.inr (.inr (.inl ⟨hm, hf, rfl, rfl⟩)))⟩⟩
    · exact ⟨(.related rel, rel.referencedTable), Resolver.mem_defaultEntries.2
        ⟨t, ht, Resolver.mem_defaultsOf.2 (.inr (.inr (.inr ⟨rel, hr, htype, hfield, rfl, rfl⟩)))⟩⟩

theorem Catalog.defaultOf_eq_none (c : Catalog) (type field : String) :
    c.defaultOf type field = none ↔ ¬ c.Generates type field := by
  rw [← c.isSome_defaultOf, Bool.not_eq_true, Option.isSome_eq_false_iff, Option.isNone_iff_eq_none]

variable {ι : Type}

/-- A call that changes a resolver. The code offered for a field may be none that can be called. -/
inductive Change (ι : Type) where
  | hook (validator : ι) (rejected : Option ι)
  | override (type field : String) (code : Option ι) (args : Args)
  | register (catalog : Catalog)

namespace Change

/-- The code and the arguments that a change gives a field. An override that is refused gives none. -/
def given? (type field : String) : Change ι → Option (ι × Args)
  | override t f (some code) args =>
    if t = type ∧ f = field ∧ type ≠ "" ∧ field ≠ "" then some (code, args) else none
  | _ => none

def catalog? : Change ι → Option Catalog
  | register c => some c
  | _ => none

end Change

/-- What the changes gave a field, in their order. -/
def givenTo (type field : String) (changes : List (Change ι)) : List (ι × Args) :=
  changes.filterMap (Change.given? type field)

def catalogsOf (changes : List (Change ι)) : List Catalog := changes.filterMap Change.catalog?

/-- The catalog registered last. -/
def lastCatalog (changes : List (Change ι)) : Option Catalog := (catalogsOf changes).getLast?

namespace Entry

/-- What a registration leaves of an entry before it makes its own defaults. -/
def kept (e : Entry ι) : Option (Entry ι) := if e.override.isSome then some { e with default := none } else none

def withDefault (e : Entry ι) (d : Default × String) (declared : Args) : Entry ι :=
  { e with default := some d.1, table := some d.2, args := if e.args.isEmpty then declared else e.args }

def withOverride (e : Entry ι) (p : ι × Args) : Entry ι :=
  { e with override := some p.1, args := if p.2.isEmpty then e.args else p.2 }

theorem withDefault_withDefault (e : Entry ι) (d d' : Default × String) (declared : Args) :
    (e.withDefault d declared).withDefault d' declared = e.withDefault d' declared := by
  cases h : e.args <;> cases declared <;> simp [withDefault, h]

end Entry

namespace Resolver

/-- A new resolver. -/
def fresh (settings : Settings) (hook : Hook ι) (connected : Bool) : Resolver ι := { settings, hook, connected }

/-- A change that is refused leaves the resolver as it is. -/
def change (r : Resolver ι) : Change ι → Resolver ι
  | .hook validator rejected => r.onBefore validator rejected
  | .override type field code args =>
    match r.add type field code args with
    | .ok changed => changed
    | .error _ => r
  | .register c => r.register c

def after (r : Resolver ι) (changes : List (Change ι)) : Resolver ι := changes.foldl change r

theorem after_concat (r : Resolver ι) (changes : List (Change ι)) (x : Change ι) :
    r.after (changes ++ [x]) = (r.after changes).change x :=
  List.foldl_append

theorem after_append (r : Resolver ι) (changes more : List (Change ι)) :
    r.after (changes ++ more) = (r.after changes).after more :=
  List.foldl_append

/-! ## One change -/

theorem get?_dropDefaults {entries : Assoc (String × String) (Entry ι)} (h : entries.keys.Nodup)
    (key : String × String) : (dropDefaults entries).get? key = (entries.get? key).bind Entry.kept := by
  induction entries with
  | nil => rfl
  | cons p rest ih =>
    obtain ⟨hp, hrest⟩ := List.nodup_cons.1 h
    have ih := ih hrest
    cases ho : p.2.override with
    | none =>
      have hdrop : dropDefaults (p :: rest) = dropDefaults rest := by simp [dropDefaults, ho]
      rw [hdrop, ih, Assoc.get?_cons]
      split
      · rename_i hk
        have hnone : Assoc.get? rest key = none := Assoc.get?_eq_none_iff.2 (hk ▸ hp)
        rw [hnone]
        simp [Entry.kept, ho]
      · rfl
    | some code =>
      have hdrop : dropDefaults (p :: rest) = (p.1, { p.2 with default := none }) :: dropDefaults rest := by
        simp [dropDefaults, ho]
      rw [hdrop, Assoc.get?_cons, Assoc.get?_cons, ih]
      split
      · simp [Entry.kept, ho]
      · rfl

theorem get?_foldl_setDefault (c : Catalog) (ds : List (String × String × Default × String))
    (entries : Assoc (String × String) (Entry ι)) (type field : String) :
    (ds.foldl (fun entries d => setDefault (c.types true) entries d.1 d.2.1 d.2.2.1 d.2.2.2) entries).get?
        (type, field) =
      match Assoc.get? (ds.map fun d => ((d.1, d.2.1), d.2.2)).reverse (type, field) with
      | some d => some (((entries.get? (type, field)).getD {}).withDefault d (c.declaredFor type field))
      | none => entries.get? (type, field) := by
  induction ds generalizing entries with
  | nil => rfl
  | cons d rest ih =>
    rw [List.foldl_cons, ih, List.map_cons, List.reverse_cons, Assoc.get?_append, Assoc.get?_cons, Assoc.get?_nil]
    simp only [setDefault, Assoc.get?_put]
    by_cases hk : (d.1, d.2.1) = (type, field)
    · obtain ⟨rfl, rfl⟩ := Prod.mk.inj hk
      -- a later default of the field declares the same arguments, so it only replaces this one
      cases Assoc.get? (rest.map fun d => ((d.1, d.2.1), d.2.2)).reverse (d.1, d.2.1) with
      | some later =>
        simp only [if_true, Option.some_or, Option.getD_some]
        exact congrArg some (Entry.withDefault_withDefault _ d.2.2 later _)
      | none =>
        simp only [if_true, Option.none_or]
        rfl
    · simp only [hk, if_false, Option.or_none]

theorem entry?_register {r : Resolver ι} (h : r.entries.keys.Nodup) (c : Catalog) (type field : String) :
    Resolver.entry? (r.register c) type field =
      match c.defaultOf type field with
      | some d => some ((((r.entry? type field).bind Entry.kept).getD {}).withDefault d (c.declaredFor type field))
      | none => (r.entry? type field).bind Entry.kept := by
  have hfold := get?_foldl_setDefault c (c.generated.tables.flatMap defaultsOf) (dropDefaults r.entries) type field
  rw [get?_dropDefaults h] at hfold
  exact hfold

/-- An override sets the entry of its field, or is refused. -/
theorem change_override (r : Resolver ι) (type field : String) (code : Option ι) (args : Args) :
    r.change (.override type field code args) =
      match Change.given? type field (.override type field code args) with
      | some p => { r with
          entries := r.entries.put (type, field) (((r.entry? type field).getD {}).withOverride p) }
      | none => r := by
  cases code with
  | none =>
    by_cases hempty : type = "" ∨ field = ""
    · simp [change, add, Change.given?, hempty]
    · simp [change, add, Change.given?, hempty]
  | some code =>
    by_cases hempty : type = "" ∨ field = ""
    · have hnames : ¬ (type ≠ "" ∧ field ≠ "") := fun h => hempty.elim h.1 h.2
      simp [change, add, Change.given?, hempty, hnames]
    · obtain ⟨htype, hfield⟩ := not_or.1 hempty
      have hgiven : Change.given? type field (.override type field (some code) args) = some (code, args) := by
        simp [Change.given?, htype, hfield]
      have hadd : r.add type field (some code) args = .ok { r with
          entries := r.entries.put (type, field) (((r.entry? type field).getD {}).withOverride (code, args)) } := by
        rw [add, if_neg hempty]
        rfl
      rw [hgiven, change, hadd]

theorem given?_self_of_given? {type field t f : String} {code : Option ι} {args : Args} {p : ι × Args}
    (h : Change.given? type field (.override t f code args) = some p) :
    t = type ∧ f = field := by
  cases code with
  | none => cases h
  | some code =>
    simp only [Change.given?] at h
    split at h
    · rename_i hall
      exact ⟨hall.1, hall.2.1⟩
    · cases h

theorem entry?_override (r : Resolver ι) (t f : String) (code : Option ι) (args : Args) (type field : String) :
    Resolver.entry? (r.change (.override t f code args)) type field =
      match Change.given? type field (.override t f code args) with
      | some p => some (((r.entry? type field).getD {}).withOverride p)
      | none => r.entry? type field := by
  rw [change_override]
  by_cases hk : t = type ∧ f = field
  · obtain ⟨rfl, rfl⟩ := hk
    cases Change.given? t f (.override t f code args) with
    | none => rfl
    | some p => exact (Assoc.get?_put _ _ _ _).trans (if_pos rfl)
  · have hother : Change.given? type field (.override t f code args) = none := by
      cases hg : Change.given? type field (.override t f code args) with
      | none => rfl
      | some p => exact absurd (given?_self_of_given? hg) hk
    rw [hother]
    cases Change.given? t f (.override t f code args) with
    | none => rfl
    | some p => exact (Assoc.get?_put _ _ _ _).trans (if_neg fun he => hk (Prod.mk.inj he))

theorem nodup_setDefault {entries : Assoc (String × String) (Entry ι)} (h : entries.keys.Nodup)
    (types : Assoc String Fields) (type field table : String) (d : Default) :
    (setDefault types entries type field d table).keys.Nodup :=
  Assoc.nodup_put h _ _

theorem nodup_dropDefaults {entries : Assoc (String × String) (Entry ι)} (h : entries.keys.Nodup) :
    (dropDefaults entries).keys.Nodup := by
  have hkeys : (dropDefaults entries).keys = (entries.filter fun p => p.2.override.isSome).map Prod.fst := by
    simp [dropDefaults, Assoc.keys]
  rw [hkeys]
  exact h.sublist (List.filter_sublist.map Prod.fst)

/-- A resolver never holds two entries of one field. -/
theorem nodup_change {r : Resolver ι} (h : r.entries.keys.Nodup) (x : Change ι) : (r.change x).entries.keys.Nodup := by
  cases x with
  | hook validator rejected => exact h
  | override type field code args =>
    rw [change_override]
    split
    · exact Assoc.nodup_put h _ _
    · exact h
  | register c =>
    have hfold : ∀ (ds : List (String × String × Default × String)) (entries : Assoc (String × String) (Entry ι)),
        entries.keys.Nodup →
        (ds.foldl (fun entries d => setDefault (c.types true) entries d.1 d.2.1 d.2.2.1 d.2.2.2)
          entries).keys.Nodup := by
      intro ds
      induction ds with
      | nil => exact fun entries he => he
      | cons d rest ih => exact fun entries he => ih _ (nodup_setDefault he _ _ _ _ _)
    exact hfold _ _ (nodup_dropDefaults h)

theorem nodup_after {r : Resolver ι} (h : r.entries.keys.Nodup) (changes : List (Change ι)) :
    (r.after changes).entries.keys.Nodup := by
  induction changes generalizing r with
  | nil => exact h
  | cons x rest ih => exact ih (nodup_change h x)

end Resolver

/-! ## The entry of one field -/

/-- For a field a change is an override, a registration, or nothing. -/
theorem Change.cases_for (type field : String) (x : Change ι) :
    (∃ p, x.given? type field = some p ∧ x.catalog? = none) ∨ (∃ c, x = .register c) ∨
      x.given? type field = none ∧ x.catalog? = none := by
  cases x with
  | hook validator rejected => exact .inr (.inr ⟨rfl, rfl⟩)
  | override t f code args =>
    cases hg : Change.given? type field (.override t f code args) with
    | some p => exact .inl ⟨p, rfl, rfl⟩
    | none => exact .inr (.inr ⟨rfl, rfl⟩)
  | register c => exact .inr (.inl ⟨c, rfl⟩)

namespace Entry

/-- The entry of a field after a registration. -/
def registered (type field : String) (c : Catalog) (e : Option (Entry ι)) : Option (Entry ι) :=
  match c.defaultOf type field with
  | some d => some (((e.bind kept).getD {}).withDefault d (c.declaredFor type field))
  | none => e.bind kept

/-- The entry of a field after a change. -/
def next (type field : String) (e : Option (Entry ι)) (x : Change ι) : Option (Entry ι) :=
  match x.given? type field, x.catalog? with
  | some p, _ => some ((e.getD {}).withOverride p)
  | none, some c => registered type field c e
  | none, none => e

variable {type field : String} {x : Change ι}

theorem next_of_given {p : ι × Args} (h : x.given? type field = some p) (e : Option (Entry ι)) :
    next type field e x = some ((e.getD {}).withOverride p) := by
  simp only [next, h]

theorem next_of_idle (h : x.given? type field = none) (hc : x.catalog? = none) (e : Option (Entry ι)) :
    next type field e x = e := by
  simp only [next, h, hc]

theorem override_kept (e : Option (Entry ι)) : (e.bind kept).bind (·.override) = e.bind (·.override) := by
  cases e with
  | none => rfl
  | some e => cases h : e.override <;> simp [kept, h]

theorem default_kept (e : Option (Entry ι)) : (e.bind kept).bind (·.default) = none := by
  cases e with
  | none => rfl
  | some e => cases h : e.override <;> simp [kept, h]

theorem override_registered (type field : String) (c : Catalog) (e : Option (Entry ι)) :
    (registered type field c e).bind (·.override) = e.bind (·.override) := by
  rw [← override_kept e, registered]
  cases c.defaultOf type field with
  | none => rfl
  | some d => cases e.bind kept <;> rfl

theorem default_registered (type field : String) (c : Catalog) (e : Option (Entry ι)) :
    (registered type field c e).bind (·.default) = (c.defaultOf type field).map Prod.fst := by
  rw [registered]
  cases c.defaultOf type field with
  | none => exact default_kept e
  | some d => rfl

end Entry

/-- The entry of a field after some changes to a new resolver. -/
def entryAfter (type field : String) (changes : List (Change ι)) : Option (Entry ι) :=
  changes.foldl (Entry.next type field) none

theorem entryAfter_concat (type field : String) (changes : List (Change ι)) (x : Change ι) :
    entryAfter type field (changes ++ [x]) = Entry.next type field (entryAfter type field changes) x :=
  List.foldl_append

namespace Resolver

theorem entry?_change {r : Resolver ι} (h : r.entries.keys.Nodup) (x : Change ι) (type field : String) :
    Resolver.entry? (r.change x) type field = Entry.next type field (r.entry? type field) x := by
  cases x with
  | hook validator rejected => rfl
  | override t f code args =>
    rw [entry?_override, Entry.next]
    cases Change.given? type field (.override t f code args) <;> rfl
  | register c => exact entry?_register h c type field

/-- Every field goes its own way: its entry depends on no other field's. -/
theorem entry?_after (settings : Settings) (hook : Hook ι) (connected : Bool) (changes : List (Change ι))
    (type field : String) :
    Resolver.entry? ((fresh settings hook connected).after changes) type field = entryAfter type field changes := by
  have hfresh : (fresh settings hook connected).entries.keys.Nodup := List.nodup_nil
  induction changes using List.reverseRecOn with
  | nil => rfl
  | append_singleton changes x ih =>
    rw [after_concat, entry?_change (nodup_after hfresh changes), ih, entryAfter_concat]

end Resolver

section History
variable (type field : String) (changes : List (Change ι))

theorem givenTo_concat (x : Change ι) :
    givenTo type field (changes ++ [x]) = givenTo type field changes ++ (x.given? type field).toList := by
  cases h : x.given? type field <;> simp [givenTo, h]

theorem lastCatalog_concat (x : Change ι) : lastCatalog (changes ++ [x]) = x.catalog?.or (lastCatalog changes) := by
  cases h : x.catalog? <;> simp [lastCatalog, catalogsOf, h]

/-- The override is the code given last. -/
theorem override_entryAfter :
    (entryAfter type field changes).bind (·.override) = (givenTo type field changes).getLast?.map Prod.fst := by
  induction changes using List.reverseRecOn with
  | nil => rfl
  | append_singleton changes x ih =>
    rw [entryAfter_concat, givenTo_concat]
    obtain ⟨p, hp, -⟩ | ⟨c, rfl⟩ | ⟨hp, hc⟩ := x.cases_for type field
    · rw [Entry.next_of_given hp, hp]
      simp [Entry.withOverride]
    · have hnone : (givenTo type field changes ++ (Change.given? type field (.register c)).toList) =
          givenTo type field changes := List.append_nil _
      rw [hnone, ← ih]
      exact Entry.override_registered type field c _
    · rw [Entry.next_of_idle hp hc, hp, Option.toList_none, List.append_nil, ih]

/-- The default is that of the catalog registered last. -/
theorem default_entryAfter :
    (entryAfter type field changes).bind (·.default) =
      ((lastCatalog changes).bind fun c => c.defaultOf type field).map Prod.fst := by
  induction changes using List.reverseRecOn with
  | nil => rfl
  | append_singleton changes x ih =>
    rw [entryAfter_concat, lastCatalog_concat]
    obtain ⟨p, hp, hc⟩ | ⟨c, rfl⟩ | ⟨hp, hc⟩ := x.cases_for type field
    · rw [Entry.next_of_given hp, hc, Option.none_or, ← ih]
      cases entryAfter type field changes <;> rfl
    · exact Entry.default_registered type field c _
    · rw [Entry.next_of_idle hp hc, hc, Option.none_or, ih]

/-- No entry stays without code and without a default. -/
theorem isSome_entryAfter_iff :
    (entryAfter type field changes).isSome = true ↔
      ((entryAfter type field changes).bind (·.override)).isSome = true ∨
        ((entryAfter type field changes).bind (·.default)).isSome = true := by
  induction changes using List.reverseRecOn with
  | nil => simp [entryAfter]
  | append_singleton changes x ih =>
    rw [entryAfter_concat]
    obtain ⟨p, hp, -⟩ | ⟨c, rfl⟩ | ⟨hp, hc⟩ := x.cases_for type field
    · rw [Entry.next_of_given hp]
      simp [Entry.withOverride]
    · change (Entry.registered type field c _).isSome = true ↔
        ((Entry.registered type field c _).bind _).isSome = true ∨
          ((Entry.registered type field c _).bind _).isSome = true
      unfold Entry.registered
      cases c.defaultOf type field with
      | some d => simp [Entry.withDefault]
      | none =>
        cases entryAfter type field changes with
        | none => simp
        | some e => cases ho : e.override <;> simp [Entry.kept, ho]
    · rw [Entry.next_of_idle hp hc]
      exact ih

theorem isSome_default_entryAfter :
    ((entryAfter type field changes).bind (·.default)).isSome = true ↔
      ∃ c, lastCatalog changes = some c ∧ c.Generates type field := by
  rw [default_entryAfter, Option.isSome_map]
  cases lastCatalog changes with
  | none => simp
  | some c => simpa using c.isSome_defaultOf type field

end History

/-- After any run of changes to a new resolver, a field has an entry exactly if it was overridden or the
catalog registered last generates it. Its override is the code given last, and its default is what that
catalog makes of it. So a registration loses no override and keeps no default of a field that is gone,
and an override leaves the entries of all other fields as they are. -/
theorem entries_after (settings : Settings) (hook : Hook ι) (connected : Bool) (changes : List (Change ι))
    (type field : String) :
    let r := (Resolver.fresh settings hook connected).after changes
    ((r.entry? type field).isSome = true ↔
      givenTo type field changes ≠ [] ∨ ∃ c, lastCatalog changes = some c ∧ c.Generates type field) ∧
    (r.entry? type field).bind (·.override) = (givenTo type field changes).getLast?.map Prod.fst ∧
    (r.entry? type field).bind (·.default) =
      ((lastCatalog changes).bind fun c => c.defaultOf type field).map Prod.fst ∧
    (((r.entry? type field).bind (·.default)).isSome = true ↔
      ∃ c, lastCatalog changes = some c ∧ c.Generates type field) ∧
    (∀ c, (Resolver.entry? (r.register c) type field).bind (·.override) = (r.entry? type field).bind (·.override)) ∧
    (∀ c, ¬ c.Generates type field → (Resolver.entry? (r.register c) type field).bind (·.default) = none) ∧
    ∀ t f code args, (t, f) ≠ (type, field) →
      Resolver.entry? (r.change (.override t f code args)) type field = r.entry? type field := by
  dsimp only
  have hentry : ∀ more : List (Change ι),
      Resolver.entry? ((Resolver.fresh settings hook connected).after more) type field = entryAfter type field more :=
    fun more => Resolver.entry?_after settings hook connected more type field
  have hregister : ∀ c,
      Resolver.entry? (((Resolver.fresh settings hook connected).after changes).register c) type field =
        entryAfter type field (changes ++ [.register c]) := by
    intro c
    rw [← hentry, Resolver.after_concat]
    rfl
  refine ⟨?_, ?_, ?_, ?_, ?_, ?_, ?_⟩
  · rw [hentry, isSome_entryAfter_iff, isSome_default_entryAfter, override_entryAfter, Option.isSome_map,
      List.getLast?_isSome]
  · rw [hentry]
    exact override_entryAfter type field changes
  · rw [hentry]
    exact default_entryAfter type field changes
  · rw [hentry]
    exact isSome_default_entryAfter type field changes
  · intro c
    rw [hregister, hentry, entryAfter_concat]
    exact Entry.override_registered type field c _
  · intro c hc
    rw [hregister, default_entryAfter, lastCatalog_concat]
    change (c.defaultOf type field).map Prod.fst = none
    rw [(c.defaultOf_eq_none type field).2 hc, Option.map_none]
  · intro t f code args hne
    rw [Resolver.entry?_override]
    cases hg : Change.given? type field (.override t f code args) with
    | none => rfl
    | some p =>
      obtain ⟨rfl, rfl⟩ := Resolver.given?_self_of_given? hg
      exact absurd rfl hne

end TableGraph
