import Mathlib.Data.List.TakeWhile
import TableGraph.Proofs.Resolver.Changes
import TableGraph.Resolver.Resolve

/-! # What earlier catalogs leave to a field

Registering a catalog drops the entries that are not overridden and clears the defaults of the others,
but not their tables and arguments. So an overridden field keeps marks of the catalogs that stood since
it was first overridden (`standing`): the table of the last of them to generate it, and the arguments of
the first of them to declare any. The catalog registered last decides both exactly if none of the others
left a mark of its own (`last_catalog_decides_iff`).
-/
namespace TableGraph

variable {ι : Type}

/-- The catalog that was in force when the field was first overridden, and all that were registered
since. Of a field that was never overridden it is the last catalog alone. -/
def standing (type field : String) (changes : List (Change ι)) : List Catalog :=
  (lastCatalog (changes.takeWhile fun x => (x.given? type field).isNone)).toList ++
    catalogsOf (changes.dropWhile fun x => (x.given? type field).isNone)

/-- The last arguments given with an override that are not empty. -/
def argsGiven (type field : String) (changes : List (Change ι)) : Option Args :=
  (((givenTo type field changes).map Prod.snd).filter fun args => !args.isEmpty).getLast?

/-- The arguments that a catalog declares for a field if it generates it. -/
def declaredBy (type field : String) (c : Catalog) : Args :=
  if (c.defaultOf type field).isSome then c.declaredFor type field else []

/-- The first arguments declared that are not empty. -/
def firstDeclared (type field : String) (catalogs : List Catalog) : Args :=
  ((catalogs.map (declaredBy type field)).filter fun args => !args.isEmpty).head?.getD []

section History
variable (type field : String) (changes : List (Change ι))

theorem givenTo_eq_nil_iff :
    givenTo type field changes = [] ↔ ∀ x ∈ changes, (x.given? type field).isNone = true := by
  simp [givenTo, List.filterMap_eq_nil_iff]

/-- A field that was not overridden is given anew by every catalog. -/
theorem standing_of_ungiven (h : givenTo type field changes = []) :
    standing type field changes = (lastCatalog changes).toList := by
  have hall := (givenTo_eq_nil_iff type field changes).1 h
  have htake : (changes.takeWhile fun x => (x.given? type field).isNone) = changes :=
    List.takeWhile_eq_self_iff.2 hall
  have hdrop : (changes.dropWhile fun x => (x.given? type field).isNone) = [] := List.dropWhile_eq_nil_iff.2 hall
  rw [standing, htake, hdrop]
  exact List.append_nil _

theorem standing_concat_of_given (h : givenTo type field changes ≠ []) (x : Change ι) :
    standing type field (changes ++ [x]) = standing type field changes ++ x.catalog?.toList := by
  have hsome : ¬ ∀ y ∈ changes, (y.given? type field).isNone = true :=
    fun hall => h ((givenTo_eq_nil_iff type field changes).2 hall)
  have htake : ((changes ++ [x]).takeWhile fun x => (x.given? type field).isNone) =
      changes.takeWhile fun x => (x.given? type field).isNone := by
    rw [List.takeWhile_append]
    refine if_neg fun hlen => hsome ?_
    exact List.takeWhile_eq_self_iff.1 ((List.takeWhile_prefix _).eq_of_length hlen)
  have hdrop : ((changes ++ [x]).dropWhile fun x => (x.given? type field).isNone) =
      (changes.dropWhile fun x => (x.given? type field).isNone) ++ [x] := by
    rw [List.dropWhile_append]
    refine if_neg fun hempty => hsome ?_
    exact List.dropWhile_eq_nil_iff.1 (List.isEmpty_iff.1 hempty)
  rw [standing, htake, hdrop, standing, List.append_assoc]
  cases hx : x.catalog? <;> simp [catalogsOf, hx]

/-- Only a registration changes what stands. -/
theorem standing_concat_of_no_catalog {x : Change ι} (hx : x.catalog? = none) :
    standing type field (changes ++ [x]) = standing type field changes := by
  by_cases h : givenTo type field changes = []
  · have hall := (givenTo_eq_nil_iff type field changes).1 h
    rw [standing, List.takeWhile_append_of_pos hall, List.dropWhile_append_of_pos hall,
      standing_of_ungiven type field changes h]
    cases hg : x.given? type field with
    | some p => simp [hg, hx, catalogsOf]
    | none => simp [hg, hx, catalogsOf, lastCatalog]
  · rw [standing_concat_of_given type field changes h, hx, Option.toList_none, List.append_nil]

theorem standing_register_of_ungiven (h : givenTo type field changes = []) (c : Catalog) :
    standing type field (changes ++ [.register c]) = [c] := by
  have hnone : givenTo type field (changes ++ [.register c]) = [] := by
    rw [givenTo_concat, h]
    rfl
  rw [standing_of_ungiven type field _ hnone, lastCatalog_concat]
  rfl

theorem getLast?_standing : (standing type field changes).getLast? = lastCatalog changes := by
  induction changes using List.reverseRecOn with
  | nil => rfl
  | append_singleton changes x ih =>
    rw [lastCatalog_concat]
    cases hx : x.catalog? with
    | none => rw [standing_concat_of_no_catalog type field changes hx, ih, Option.none_or]
    | some c =>
      by_cases h : givenTo type field changes = []
      · cases x with
        | hook validator rejected => cases hx
        | override t f code args => cases hx
        | register d =>
          obtain rfl : d = c := Option.some.inj hx
          rw [standing_register_of_ungiven type field changes h]
          rfl
      · rw [standing_concat_of_given type field changes h, hx]
        simp

/-- Only an overridden entry survives a registration. -/
theorem kept_entryAfter :
    (entryAfter type field changes).bind Entry.kept =
      if givenTo type field changes = [] then none
      else (entryAfter type field changes).map fun e => { e with default := none } := by
  have hoverride := override_entryAfter type field changes
  by_cases h : givenTo type field changes = []
  · rw [h] at hoverride
    rw [if_pos h]
    cases he : entryAfter type field changes with
    | none => rfl
    | some e =>
      rw [he] at hoverride
      have hnone : e.override = none := hoverride
      simp [Entry.kept, hnone]
  · rw [if_neg h]
    cases he : entryAfter type field changes with
    | none => rfl
    | some e =>
      rw [he] at hoverride
      have hsome : e.override.isSome = true := by
        change e.override = _ at hoverride
        rw [hoverride, Option.isSome_map, List.getLast?_isSome]
        exact h
      simp [Entry.kept, hsome]

/-- An entry has the table of the last standing catalog to generate its field. -/
theorem table_entryAfter :
    (entryAfter type field changes).bind (·.table) =
      ((standing type field changes).filterMap fun c => c.defaultOf type field).getLast?.map Prod.snd := by
  induction changes using List.reverseRecOn with
  | nil => rfl
  | append_singleton changes x ih =>
    rw [entryAfter_concat]
    obtain ⟨p, hp, hc⟩ | ⟨c, rfl⟩ | ⟨hp, hc⟩ := x.cases_for type field
    · rw [Entry.next_of_given hp, standing_concat_of_no_catalog type field changes hc, ← ih]
      cases entryAfter type field changes <;> rfl
    · change (Entry.registered type field c _).bind _ = _
      rw [Entry.registered]
      by_cases h : givenTo type field changes = []
      · rw [standing_register_of_ungiven type field changes h, kept_entryAfter, if_pos h]
        cases hd : c.defaultOf type field with
        | none => simp [hd]
        | some d => simp [hd, Entry.withDefault]
      · rw [standing_concat_of_given type field changes h, kept_entryAfter, if_neg h]
        cases hd : c.defaultOf type field with
        | none =>
          -- the entry is kept, and with it the table of an earlier catalog
          refine Eq.trans ?_ (ih.trans ?_)
          · cases entryAfter type field changes <;> rfl
          · simp [Change.catalog?, hd]
        | some d => simp [Change.catalog?, hd, Entry.withDefault]
    · rw [Entry.next_of_idle hp hc, standing_concat_of_no_catalog type field changes hc, ih]

theorem argsGiven_concat {x : Change ι} {p : ι × Args} (hp : x.given? type field = some p) :
    argsGiven type field (changes ++ [x]) = if p.2.isEmpty then argsGiven type field changes else some p.2 := by
  rw [argsGiven, givenTo_concat, hp]
  cases h : p.2 with
  | nil => simp [argsGiven, h]
  | cons a rest => simp [h]

theorem argsGiven_concat_of_none {x : Change ι} (hp : x.given? type field = none) :
    argsGiven type field (changes ++ [x]) = argsGiven type field changes := by
  rw [argsGiven, givenTo_concat, hp, Option.toList_none, List.append_nil, argsGiven]

theorem argsGiven_ne_nil {args : Args} (h : argsGiven type field changes = some args) : args ≠ [] := by
  have hmem := List.mem_of_getLast? h
  simpa using (List.mem_filter.1 hmem).2

theorem firstDeclared_concat (catalogs : List Catalog) (c : Catalog) :
    firstDeclared type field (catalogs ++ [c]) =
      if (firstDeclared type field catalogs).isEmpty then declaredBy type field c
      else firstDeclared type field catalogs := by
  unfold firstDeclared
  rw [List.map_append, List.map_singleton, List.filter_append]
  cases hf : (catalogs.map (declaredBy type field)).filter fun args => !args.isEmpty with
  | nil => cases hd : declaredBy type field c <;> simp
  | cons args rest =>
    have hmem : args ∈ (catalogs.map (declaredBy type field)).filter fun args => !args.isEmpty := by simp [hf]
    have hne : args ≠ [] := by simpa using (List.mem_filter.1 hmem).2
    simp [hne]

/-- A registration declares the arguments of an entry that has none. -/
theorem args_registered (c : Catalog) (e : Option (Entry ι)) :
    ((Entry.registered type field c e).map (·.args)).getD [] =
      if (((e.bind Entry.kept).map (·.args)).getD []).isEmpty then declaredBy type field c
      else ((e.bind Entry.kept).map (·.args)).getD [] := by
  unfold Entry.registered declaredBy
  cases c.defaultOf type field with
  | some d => cases e.bind Entry.kept <;> rfl
  | none => cases hargs : ((e.bind Entry.kept).map (·.args)).getD [] <;> simp

/-- An entry has the last arguments given with an override, or else the first ones that a standing catalog
declares. -/
theorem args_entryAfter :
    ((entryAfter type field changes).map (·.args)).getD [] =
      (argsGiven type field changes).getD (firstDeclared type field (standing type field changes)) := by
  induction changes using List.reverseRecOn with
  | nil => rfl
  | append_singleton changes x ih =>
    rw [entryAfter_concat]
    obtain ⟨p, hp, hc⟩ | ⟨c, rfl⟩ | ⟨hp, hc⟩ := x.cases_for type field
    · rw [Entry.next_of_given hp, standing_concat_of_no_catalog type field changes hc,
        argsGiven_concat type field changes hp]
      cases hempty : p.2.isEmpty with
      | false => simp [Entry.withOverride, hempty]
      | true =>
        simp only [if_true, ← ih, Entry.withOverride, hempty]
        cases entryAfter type field changes <;> rfl
    · rw [argsGiven_concat_of_none type field changes rfl]
      change ((Entry.registered type field c _).map _).getD [] = _
      rw [args_registered, kept_entryAfter]
      by_cases h : givenTo type field changes = []
      · have hgiven : argsGiven type field changes = none := by simp [argsGiven, h]
        have hfirst : firstDeclared type field [c] = declaredBy type field c := firstDeclared_concat type field [] c
        rw [standing_register_of_ungiven type field changes h, if_pos h, hgiven, Option.getD_none, hfirst]
        rfl
      · have hheld : ((((entryAfter type field changes).map fun e => { e with default := none }).map
            (·.args)).getD [] : Args) =
              (argsGiven type field changes).getD (firstDeclared type field (standing type field changes)) := by
          rw [← ih, Option.map_map]
          rfl
        rw [standing_concat_of_given type field changes h, if_neg h, hheld]
        change _ = (argsGiven type field changes).getD
          (firstDeclared type field (standing type field changes ++ [c]))
        rw [firstDeclared_concat]
        cases hg : argsGiven type field changes with
        | none => rfl
        | some args =>
          have hne := argsGiven_ne_nil type field changes hg
          simp [hne]
    · rw [Entry.next_of_idle hp hc, standing_concat_of_no_catalog type field changes hc,
        argsGiven_concat_of_none type field changes hp, ih]

end History

/-- The entry of a field is as if the last catalog had been the only one: it reads the table that this
catalog generates the field for, and it has the last arguments given with an override, or else those that
this catalog declares. -/
structure LastDecides (r : Resolver ι) (changes : List (Change ι)) (type field : String) : Prop where
  table : (r.entry? type field).bind (·.table) =
    ((lastCatalog changes).bind fun c => c.defaultOf type field).map Prod.snd
  args : ((r.entry? type field).map (·.args)).getD [] =
    (argsGiven type field changes).getD (((lastCatalog changes).map (declaredBy type field)).getD [])

/-- Of some catalogs the last one to generate a field is the last one of all, or none generates it. -/
theorem last_table_iff (type field : String) (catalogs : List Catalog) :
    (catalogs.filterMap fun c => c.defaultOf type field).getLast?.map Prod.snd =
        (catalogs.getLast?.bind fun c => c.defaultOf type field).map Prod.snd ↔
      ∀ c ∈ catalogs, c.Generates type field → ∃ last, catalogs.getLast? = some last ∧ last.Generates type field := by
  rcases List.eq_nil_or_concat catalogs with rfl | ⟨others, last, rfl⟩
  · simp
  · have hlast : (others.concat last).getLast? = some last := by simp
    rw [hlast, Option.bind_some, List.concat_eq_append, List.filterMap_append]
    cases hd : last.defaultOf type field with
    | some d =>
      have hgenerates : last.Generates type field := (last.isSome_defaultOf type field).1 (by rw [hd]; rfl)
      simp [hd, hgenerates]
    | none =>
      have hnot : ¬ last.Generates type field := (last.defaultOf_eq_none type field).1 hd
      simp [hd, hnot, Catalog.defaultOf_eq_none, or_imp, forall_and]

/-- After any run of changes to a new resolver, an entry has the table of the last standing catalog to
generate its field, and the last arguments given with an override, or else the first ones that a standing
catalog declares. The catalog registered last decides both exactly if it generates the field or no
standing catalog does, and if, where no arguments were given, those declared first are its own. -/
theorem last_catalog_decides_iff (settings : Settings) (hook : Hook ι) (connected : Bool)
    (changes : List (Change ι)) (type field : String) :
    let r := (Resolver.fresh settings hook connected).after changes
    (r.entry? type field).bind (·.table) =
      ((standing type field changes).filterMap fun c => c.defaultOf type field).getLast?.map Prod.snd ∧
    ((r.entry? type field).map (·.args)).getD [] =
      (argsGiven type field changes).getD (firstDeclared type field (standing type field changes)) ∧
    (LastDecides r changes type field ↔
      (∀ c ∈ standing type field changes, c.Generates type field →
        ∃ last, lastCatalog changes = some last ∧ last.Generates type field) ∧
      (argsGiven type field changes = none → firstDeclared type field (standing type field changes) =
        ((lastCatalog changes).map (declaredBy type field)).getD [])) := by
  dsimp only
  have hentry := Resolver.entry?_after settings hook connected changes type field
  have htable := table_entryAfter type field changes
  have hargs := args_entryAfter type field changes
  rw [← hentry] at htable hargs
  refine ⟨htable, hargs, ?_⟩
  have htableIff := last_table_iff type field (standing type field changes)
  rw [getLast?_standing, ← htable] at htableIff
  have hargsIff : ((argsGiven type field changes).getD (firstDeclared type field (standing type field changes)) =
        (argsGiven type field changes).getD (((lastCatalog changes).map (declaredBy type field)).getD [])) ↔
      (argsGiven type field changes = none → firstDeclared type field (standing type field changes) =
        ((lastCatalog changes).map (declaredBy type field)).getD []) := by
    cases argsGiven type field changes <;> simp
  rw [← hargs] at hargsIff
  rw [← htableIff, ← hargsIff]
  exact ⟨fun h => ⟨h.table, h.args⟩, fun h => ⟨h.1, h.2⟩⟩

def oneTable (name : String) : Schema := ⟨[⟨name, [⟨"id", "INTEGER", false, true, .text⟩], [], true⟩]⟩

/-- The users' list is overridden, and then the schema loses the users. -/
def usersLost : List (Change Unit) :=
  [.register (({} : Catalog).adopt (oneTable "users")), .override queryType "getUsers" (some ()) [],
    .register (({} : Catalog).adopt (oneTable "posts"))]

/-- Host code that answers with the table of its context. -/
def tellTable : Host Unit Unit where
  handle _ c _ _ := .done (.ok ((c.table.map Value.text).getD .null))
  validate _ _ := .done (.ok (.bool true))
  reject _ _ := .done (.ok .null)

/-- The entry goes on with the table and the arguments of the schema that is gone, and its host code is
still told that table. -/
theorem users_table_outlived :
    let r := (Resolver.fresh {} {} true).after usersLost
    ¬ LastDecides r usersLost queryType "getUsers" ∧
      r.entry? queryType "getUsers" =
        some ⟨none, some (), some "users", [("filter", .text "String"), ("pagination", .text "String")]⟩ ∧
      ∀ answer, ((r.resolve tellTable ⟨queryType, "getUsers", .null, [], .null⟩ true).run answer ()).result =
        .ok (.text "users") := by
  have hentry : Resolver.entry? ((Resolver.fresh {} {} true).after usersLost) queryType "getUsers" =
      some ⟨none, some (), some "users", [("filter", .text "String"), ("pagination", .text "String")]⟩ := by
    rfl
  refine ⟨fun h => ?_, hentry, fun answer => rfl⟩
  have hgone : (lastCatalog usersLost).bind (fun c => c.defaultOf queryType "getUsers") = none := by rfl
  have htable := h.table
  rw [hentry, hgone] at htable
  cases htable

end TableGraph
