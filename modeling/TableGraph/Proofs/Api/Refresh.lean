import TableGraph.Proofs.Api.Connecting
import TableGraph.Proofs.Catalog.Canonical

/-! # What a refresh changes

A refresh reads the schema of the default namespace, whichever namespace the API is connected to. If that schema is the
one that is in force, up to the order and repetition of its foreign keys, then what is generated is the same, and every
entry keeps its default, its override and its table (`Api.showsSame_adopt`).
-/
namespace TableGraph
variable {ι : Type}

/-! ## Entries and the catalog that is in force -/

namespace Entry
variable {type field : String} {c : Catalog} {e : Option (Entry ι)}

/-- What an entry resolves its field by: all but the arguments. -/
def bare (e : Entry ι) : Entry ι := { e with args := [] }

/-- An entry has the default and the table that a catalog generates for its field, and an entry without a default has an
override. -/
structure Fits (d : Option (Default × String)) (e : Option (Entry ι)) : Prop where
  default : e.bind (·.default) = d.map Prod.fst
  table : ∀ p, d = some p → e.bind (·.table) = some p.2
  used : ∀ x, e = some x → x.default = none → x.override.isSome = true

theorem registered_of_some {d : Default × String} (h : c.defaultOf type field = some d) (e : Option (Entry ι)) :
    registered type field c e = some (((e.bind kept).getD {}).withDefault d (c.declaredFor type field)) := by
  rw [registered, h]

theorem registered_of_none (h : c.defaultOf type field = none) (e : Option (Entry ι)) :
    registered type field c e = e.bind kept := by
  rw [registered, h]

theorem override_of_kept {x : Entry ι} (h : e.bind kept = some x) : x.override.isSome = true := by
  obtain ⟨y, -, hy⟩ := Option.bind_eq_some_iff.1 h
  unfold kept at hy
  split at hy
  · rename_i hoverride
    obtain rfl := Option.some.inj hy
    exact hoverride
  · cases hy

theorem fits_registered (type field : String) (c : Catalog) (e : Option (Entry ι)) :
    Fits (c.defaultOf type field) (registered type field c e) where
  default := default_registered type field c e
  table := by
    intro p hp
    rw [registered_of_some hp]
    rfl
  used := by
    intro x hx hnone
    cases hd : c.defaultOf type field with
    | some d =>
      obtain rfl := Option.some.inj ((registered_of_some hd e).symm.trans hx)
      cases hnone
    | none => exact override_of_kept ((registered_of_none hd e).symm.trans hx)

theorem Fits.withOverride {d : Option (Default × String)} (h : Fits d e) (p : ι × Args) :
    Fits d (some ((e.getD {}).withOverride p)) where
  default := by
    rw [← h.default]
    cases e <;> rfl
  table := by
    intro q hq
    rw [← h.table q hq]
    cases e <;> rfl
  used := by
    intro x hx _
    obtain rfl := Option.some.inj hx
    rfl

/-- To register what an entry fits already leaves all of it but its arguments. -/
theorem Fits.bare_registered (h : Fits (c.defaultOf type field) e) :
    (registered type field c e).map bare = e.map bare := by
  have hdefault := h.default
  cases hd : c.defaultOf type field with
  | some d =>
    have htable := h.table d hd
    rw [registered_of_some hd]
    rw [hd] at hdefault
    cases e with
    | none => cases hdefault
    | some y =>
      obtain ⟨default, override, table, args⟩ := y
      obtain rfl : default = some d.1 := hdefault
      obtain rfl : table = some d.2 := htable
      cases override <;> rfl
  | none =>
    rw [registered_of_none hd]
    rw [hd] at hdefault
    cases e with
    | none => rfl
    | some y =>
      obtain ⟨default, override, table, args⟩ := y
      obtain rfl : default = none := hdefault
      have hused := h.used _ rfl rfl
      simp only [Option.bind_some, kept, hused, if_true]

end Entry

theorem Catalog.defaultOf_congr {c d : Catalog} (h : c.generated = d.generated) (type field : String) :
    c.defaultOf type field = d.defaultOf type field := by
  rw [defaultOf, h, defaultOf]

namespace Resolver

/-- What is offered depends on no arguments. -/
theorem offers_congr {r r' : Resolver ι} (h : r.entries.keys.Nodup) (h' : r'.entries.keys.Nodup)
    (hentries : ∀ type field, (r'.entry? type field).map Entry.bare = (r.entry? type field).map Entry.bare)
    (connected : Bool) (type field : String) : r'.Offers connected type field ↔ r.Offers connected type field := by
  have hhandler : ((r'.entry? type field).bind fun e => e.handler connected) =
      (r.entry? type field).bind fun e => e.handler connected := by
    have hbare (e : Option (Entry ι)) :
        (e.bind fun e => e.handler connected) = (e.map Entry.bare).bind fun e => e.handler connected := by
      cases e <;> rfl
    rw [hbare, hentries, ← hbare]
  constructor
  · intro ho
    exact offers_of_handler (hhandler ▸ handler_of_offers h' ho)
  · intro ho
    exact offers_of_handler (hhandler ▸ handler_of_offers h ho)

end Resolver

/-! ## What every history keeps -/

namespace Api

/-- Of an API after any history the kept text is that of the catalog, and every entry fits what is generated. -/
structure Consistent (a : Api ι) : Prop where
  current : a.catalog.Current
  nodup : a.resolver.entries.keys.Nodup
  fits : ∀ type field, Entry.Fits (a.catalog.defaultOf type field) (a.resolver.entry? type field)

theorem Consistent.moves {apart : Schema → Prop} {a b : Api ι} (h : Consistent a) (hm : Moves apart a b) :
    Consistent b := by
  have hsame (entries : b.resolver.entries = a.resolver.entries) (generated : b.catalog.generated = a.catalog.generated)
      (current : b.catalog.Current) : Consistent b := by
    refine ⟨current, entries ▸ h.nodup, fun type field => ?_⟩
    rw [entry?_congr entries, Catalog.defaultOf_congr generated]
    exact h.fits type field
  cases hm with
  | idle engine catalog entries => exact hsame entries (by rw [catalog]) (catalog ▸ h.current)
  | field type f code args engine catalog resolver =>
    refine ⟨catalog ▸ Catalog.current_of_stale rfl, resolver ▸ Resolver.nodup_change h.nodup _, fun t name => ?_⟩
    have hgenerated : b.catalog.generated = a.catalog.generated := by
      rw [catalog]
      rfl
    rw [Catalog.defaultOf_congr hgenerated, resolver, Resolver.entry?_override]
    split
    · exact (h.fits t name).withOverride _
    · exact h.fits t name
  | input type name ref engine catalog entries =>
    exact hsame entries (by rw [catalog]; rfl) (catalog ▸ Catalog.current_of_stale rfl)
  | adopt schema apart engine connected catalog entries =>
    refine ⟨catalog ▸ Catalog.current_of_stale rfl, ?_, fun type field => ?_⟩
    · rw [entries]
      exact Resolver.nodup_change h.nodup (.register (a.catalog.adopt schema))
    · rw [entry?_congr entries, catalog]
      have hentry := Resolver.entry?_change h.nodup (.register (a.catalog.adopt schema)) type field
      exact hentry ▸ Entry.fits_registered type field (a.catalog.adopt schema) _
  | text refresh connected engine catalog entries =>
    have hcurrent : b.catalog.Current := catalog ▸ Catalog.current_call h.current (.text refresh connected)
    have hgenerated := (a.catalog.generated_call (.text refresh connected)).1
    exact hsame entries (catalog ▸ hgenerated) hcurrent

theorem Consistent.step {a : Api ι} (h : Consistent a) (x : Step ι) : Consistent (a.step x) := by
  have hmoves : Moves (fun _ => True) a (a.step x) := moves_step_of a fun _ _ _ _ _ _ _ _ => trivial
  exact h.moves hmoves

theorem Consistent.after {a : Api ι} (h : Consistent a) (steps : List (Step ι)) : Consistent (a.after steps) := by
  induction steps generalizing a with
  | nil => exact h
  | cons x rest ih => exact ih (h.step x)

theorem consistent_create (name : String) (engine : Option Engine) (exclude : List String) (productName : Option String)
    (settings : Settings) (hook : Hook ι) : Consistent (create name engine exclude productName settings hook) := by
  have hempty (hook : Hook (Code ι)) : Consistent
      ({ engine, exclude, productName,
         catalog := { hashLength := settings.hashLength }, resolver := { settings, hook } } : Api ι) :=
    ⟨Catalog.current_of_stale rfl, List.nodup_nil,
      fun type field => ⟨rfl, fun _ h => (nomatch h), fun _ h => nomatch h⟩⟩
  unfold create
  dsimp only
  split
  · exact hempty _
  · exact (hempty _).moves (moves_add (fun _ => True) _ _ _ _ _ _)

/-! ## What stays between two connections -/

/-- What a schema is looked for by. -/
def source (a : Api ι) : Except ConfigError (Engine × Product) := a.linked.map fun p => (p.1, p.2.product)

theorem source_of_linked {a : Api ι} {e : Engine} {l : Link} (h : a.linked = .ok (e, l)) :
    a.source = .ok (e, l.product) := by
  rw [source, h]
  rfl

theorem linked_of_source {a : Api ι} {e : Engine} {p : Product} (h : a.source = .ok (e, p)) :
    ∃ l, a.linked = .ok (e, l) ∧ l.product = p := by
  obtain ⟨⟨e, l⟩, hlinked, h⟩ := Chain.map_eq_ok.1 h
  obtain ⟨rfl, rfl⟩ := Prod.mk.inj h
  exact ⟨l, hlinked, rfl⟩

/-- What stays as it is until a connection goes well. -/
structure Steady (a b : Api ι) : Prop where
  engine : b.engine = a.engine
  exclude : b.exclude = a.exclude
  source : b.source = a.source
  schema : b.schema = a.schema
  generated : b.catalog.generated = a.catalog.generated
  hashLength : b.catalog.hashLength = a.catalog.hashLength

/-- What a history leaves as it is that connects to nothing. -/
structure Rests (a b : Api ι) : Prop extends Steady a b where
  tables : b.knownTables = a.knownTables

theorem steady_refl (a : Api ι) : Steady a a := ⟨rfl, rfl, rfl, rfl, rfl, rfl⟩

theorem rests_refl (a : Api ι) : Rests a a := ⟨steady_refl a, rfl⟩

theorem Rests.trans {a b c : Api ι} (h : Rests a b) (h' : Rests b c) : Rests a c :=
  ⟨⟨h'.engine.trans h.engine, h'.exclude.trans h.exclude, h'.source.trans h.source, h'.schema.trans h.schema,
    h'.generated.trans h.generated, h'.hashLength.trans h.hashLength⟩, h'.tables.trans h.tables⟩

theorem rests_add (a : Api ι) (type field : String) (returns : Value) (code : Option (Code ι)) (args : Args) :
    Rests a (a.add type field returns code args).2 := by
  cases hf : Catalog.newField type field returns args with
  | error e =>
    rw [add_of_refused hf]
    exact rests_refl a
  | ok f =>
    rw [add_of_newField hf]
    exact ⟨⟨rfl, rfl, rfl, rfl, rfl, rfl⟩, rfl⟩

theorem linked_cases {a : Api ι} {e : Engine} {l : Link} (h : a.linked = .ok (e, l)) :
    a.engine = some e ∧ (a.link = some l ∨ a.link = none ∧ l.known = []) := by
  unfold linked at h
  cases hengine : a.engine with
  | none => simp [hengine] at h
  | some engine =>
    cases hlink : a.link with
    | some link =>
      simp only [hengine, hlink, Except.ok.injEq, Prod.mk.injEq] at h
      exact ⟨congrArg some h.1, .inl (congrArg some h.2)⟩
    | none =>
      simp only [hengine, hlink] at h
      obtain ⟨p, -, h⟩ := Chain.map_eq_ok.1 h
      obtain ⟨rfl, rfl⟩ := Prod.mk.inj h
      exact ⟨rfl, .inr ⟨rfl, rfl⟩⟩

theorem linked_of_link {a : Api ι} {e : Engine} {l : Link} (hengine : a.engine = some e) (hlink : a.link = some l) :
    a.linked = .ok (e, l) := by
  rw [linked, hengine, hlink]

theorem knownTables_of_link {a : Api ι} {l : Link} (h : a.link = some l) : a.knownTables = l.known := by
  rw [knownTables, h]
  rfl

/-- The tables that are known once the product is. -/
theorem knownTables_of_linked {a : Api ι} {e : Engine} {l : Link} (h : a.linked = .ok (e, l)) :
    a.knownTables = l.known := by
  rcases (linked_cases h).2 with hlink | ⟨hlink, hknown⟩
  · exact knownTables_of_link hlink
  · rw [knownTables, hlink, hknown]
    rfl

/-- A connection that fails changes no more than that the product is known, and perhaps the tables. -/
theorem steady_connect {a : Api ι} {look : Introspect} {space : String} {c : Connection} {e : Failure}
    (h : (a.connect look space c).1 = .error e) : Steady a (a.connect look space c).2 := by
  rcases connect_error h with ⟨-, -, -, hstate⟩ | ⟨engine, l, -, hlinked, -, hstate⟩
  · rw [hstate]
    exact steady_refl a
  · rw [hstate]
    refine ⟨rfl, rfl, ?_, rfl, rfl, rfl⟩
    rw [source_of_linked hlinked, ← l.product_told]
    exact source_of_linked (linked_of_link (linked_cases hlinked).1 rfl)

/-- No call of a history connects. It may be tried in vain, if this leaves the known tables. -/
def ConnectsNot : Api ι → List (Step ι) → Prop
  | _, [] => True
  | a, x :: rest =>
    (∀ look space c, x = .connect look space c →
      (∃ e, (a.connect look space c).1 = .error e) ∧ (a.connect look space c).2.knownTables = a.knownTables) ∧
      ConnectsNot (a.step x) rest

theorem rests_step {a : Api ι} {x : Step ι}
    (h : ∀ look space c, x = .connect look space c →
      (∃ e, (a.connect look space c).1 = .error e) ∧ (a.connect look space c).2.knownTables = a.knownTables) :
    Rests a (a.step x) := by
  cases x with
  | add type field returns code args => exact rests_add a type field returns code args
  | addField path returns code args =>
    simp only [step, addField]
    cases splitPath path.givenText with
    | none => exact rests_refl a
    | some p => exact rests_add a p.1 p.2 returns code args
  | addInput path type =>
    simp only [step, addInput]
    cases splitPath path.givenText with
    | none => exact rests_refl a
    | some p =>
      simp only [Catalog.addInput_eq]
      cases Catalog.newInput p.1 p.2 type <;> exact ⟨⟨rfl, rfl, rfl, rfl, rfl, rfl⟩, rfl⟩
  | onBefore validator rejected => exact ⟨⟨rfl, rfl, rfl, rfl, rfl, rfl⟩, rfl⟩
  | connect look space c =>
    obtain ⟨⟨e, he⟩, htables⟩ := h look space c rfl
    exact ⟨steady_connect he, htables⟩
  | text refresh =>
    obtain ⟨hgenerated, hlength⟩ := a.catalog.generated_call (.text refresh a.hasEngine)
    exact ⟨⟨rfl, rfl, rfl, rfl, hgenerated, hlength⟩, rfl⟩

theorem rests_after {a : Api ι} {steps : List (Step ι)} (h : ConnectsNot a steps) : Rests a (a.after steps) := by
  induction steps generalizing a with
  | nil => exact rests_refl a
  | cons x rest ih => exact (rests_step h.1).trans (ih h.2)

/-! ## A refresh -/

/-- A refresh reads the default namespace and takes over what it reads. -/
theorem databaseSchema_refresh {a : Api ι} {look : Introspect} {e : Engine} {l : Link} {s : Schema}
    (hlinked : a.linked = .ok (e, l)) (hlook : look (l.lookedIn e "") a.exclude = .ok s) :
    a.databaseSchema look true = (.ok (s, s.omissions), a.adopt (l.knowing s) s) := by
  have hagain : databaseSchema.again a look {} = (.ok (s, s.omissions), a.adopt (l.knowing s) s) := by
    rw [databaseSchema.again, connect_of_reads hlinked (Connection.reads_eq_some.2 ⟨rfl, hlook⟩) rfl]
    rfl
  unfold databaseSchema
  cases a.schema with
  | none => exact hagain
  | some _ => exact hagain

/-- Two APIs that show the same: the text, the names of relations, the fields that are offered, what entries resolve
them by, and the tables that are known. -/
structure ShowsSame (a b : Api ι) : Prop where
  text : ∀ refresh again, (b.text again).1 = (a.text refresh).1
  relationNames : b.catalog.relationNames = a.catalog.relationNames
  offers : ∀ connected type field, b.resolver.Offers connected type field ↔ a.resolver.Offers connected type field
  entries : ∀ type field, (b.resolver.entry? type field).map Entry.bare = (a.resolver.entry? type field).map Entry.bare
  tables : b.knownTables = a.knownTables

/-- To take over what generates the same as before leaves all that is shown. -/
theorem showsSame_adopt {a : Api ι} (h : Consistent a) {l : Link} {s : Schema}
    (hgenerated : Generated.build a.catalog.hashLength s = a.catalog.generated)
    (htables : l.known = a.knownTables) : ShowsSame a (a.adopt l s) := by
  have hcatalog : (a.catalog.adopt s).generated = a.catalog.generated := hgenerated
  have hentries (type field : String) : ((a.adopt l s).resolver.entry? type field).map Entry.bare =
      (a.resolver.entry? type field).map Entry.bare := by
    have hentry := Resolver.entry?_change h.nodup (.register (a.catalog.adopt s)) type field
    have hfits := h.fits type field
    rw [← Catalog.defaultOf_congr hcatalog] at hfits
    exact (congrArg (Option.map Entry.bare) hentry).trans hfits.bare_registered
  have hnodup := Resolver.nodup_change h.nodup (.register (a.catalog.adopt s))
  refine ⟨fun refresh again => ?_, ?_, Resolver.offers_congr h.nodup hnodup hentries, hentries, htables⟩
  · have hadded : Catalog.SameAdditions (a.catalog.adopt s) a.catalog := ⟨rfl, rfl⟩
    have hrender := Catalog.render_congr hadded hcatalog a.hasEngine
    have hnew := Catalog.text_adopt a.catalog s again a.hasEngine
    exact (hnew.trans hrender).trans (Catalog.text_eq_render h.current refresh a.hasEngine).symm
  · change Catalog.relationNames (a.catalog.adopt s) = _
    rw [Catalog.relationNames, hcatalog, Catalog.relationNames]

end Api

/-! ## Schemas with the same sets of foreign keys -/

/-- Tables that differ at most in the order and the repetition of foreign keys. -/
structure SchemaTable.SameKeys (t u : SchemaTable) : Prop where
  others : u = { t with foreignKeys := u.foreignKeys }
  keys : ∀ f, f ∈ u.foreignKeys ↔ f ∈ t.foreignKeys

theorem SchemaTable.SameKeys.canonical {t u : SchemaTable} (h : t.SameKeys u) : u.canonical = t.canonical := by
  rw [SchemaTable.canonical, SchemaTable.sortedForeignKeys_eq h.keys, h.others]
  rfl

/-- Schemas that differ at most in the order and the repetition of foreign keys. -/
def Schema.SameKeys (s r : Schema) : Prop := List.Forall₂ SchemaTable.SameKeys s.tables r.tables

namespace Schema.SameKeys
variable {s r : Schema}

theorem map_eq {β : Type} {f : SchemaTable → β} (h : s.SameKeys r) (hf : ∀ t u, t.SameKeys u → f u = f t) :
    r.tables.map f = s.tables.map f := by
  unfold SameKeys at h
  generalize s.tables = tables at h
  generalize r.tables = others at h
  induction h with
  | nil => rfl
  | cons htable _ ih => rw [List.map_cons, List.map_cons, hf _ _ htable, ih]

theorem canonical (h : s.SameKeys r) : r.canonical = s.canonical := by
  rw [Schema.canonical, h.map_eq fun _ _ htable => htable.canonical, Schema.canonical]

theorem names (h : s.SameKeys r) : r.tables.map (·.name) = s.tables.map (·.name) :=
  h.map_eq fun _ _ htable => by rw [htable.others]

theorem build (h : s.SameKeys r) (hashLength : Int) : Generated.build hashLength r = Generated.build hashLength s := by
  rw [← build_canonical, h.canonical, build_canonical]

end Schema.SameKeys

namespace Api

/-- What is read again of a database that has not changed: the same, but for the order of foreign keys. -/
def RereadBy (look look' : Introspect) : Prop :=
  ∀ space exclude s, look space exclude = .ok s → ∃ s', look' space exclude = .ok s' ∧ s.SameKeys s'

/-- After any history that ends with a connection and calls that connect to nothing, a refresh gives the schema of the
default namespace. If this is the schema of the namespace that the API is connected to, then the schema in force is the
same as before but for the order of foreign keys, and the API shows the same as before. -/
theorem refresh_keeps (name : String) (engine : Option Engine) (exclude : List String) (productName : Option String)
    (settings : Settings) (hook : Hook ι) (before later : List (Step ι)) (look look' : Introspect) (space : String)
    {omissions : List Omission}
    (hconnect : (((create name engine exclude productName settings hook).after before).connect look space).1 =
      .ok omissions)
    (hlater : ConnectsNot (((create name engine exclude productName settings hook).after before).connect look space).2
      later)
    (hreread : RereadBy look look') :
    let a := (create name engine exclude productName settings hook).after before
    let b := (a.connect look space).2.after later
    let refreshed := b.databaseSchema look' true
    ∃ e l s, a.linked = .ok (e, l) ∧ look (l.lookedIn e space) a.exclude = .ok s ∧ b.schema = some s ∧
      (∀ d, look (l.lookedIn e "") a.exclude = .ok d → ∃ s', refreshed.1 = .ok (s', s'.omissions) ∧ d.SameKeys s') ∧
      (look (l.lookedIn e "") a.exclude = look (l.lookedIn e space) a.exclude →
        ∃ s', refreshed.1 = .ok (s', s'.omissions) ∧ s.SameKeys s' ∧ refreshed.2.schema = some s' ∧
          ShowsSame b refreshed.2) := by
  intro a b refreshed
  have hconsistent : Consistent b := by
    have ha : Consistent a := (consistent_create name engine exclude productName settings hook).after before
    exact (ha.step (.connect look space)).after later
  have hrests : Rests (a.connect look space).2 b := rests_after hlater
  obtain ⟨e, l, s, hlinked, hlook, -, hadopted⟩ := connect_ok hconnect
  rw [hadopted] at hrests
  obtain ⟨hengine, -⟩ := linked_cases hlinked
  obtain ⟨l', hlinked', hproduct⟩ : ∃ l', b.linked = .ok (e, l') ∧ l'.product = l.product := by
    have hopen : (a.adopt (l.knowing s) s).linked = .ok (e, l.knowing s) := linked_of_link hengine rfl
    have hsource := hrests.source.trans (source_of_linked hopen)
    exact linked_of_source hsource
  -- the product is the same as at the connection, so the default namespace is the same too
  have hrefresh {d : Schema} (hd : look (l.lookedIn e "") a.exclude = .ok d) :
      ∃ s', refreshed = (.ok (s', s'.omissions), b.adopt (l'.knowing s') s') ∧ d.SameKeys s' := by
    obtain ⟨s', hs', hsame⟩ := hreread _ _ _ hd
    have hlook' : look' (l'.lookedIn e "") b.exclude = .ok s' := by
      rw [hrests.exclude, Link.lookedIn, hproduct]
      exact hs'
    exact ⟨s', databaseSchema_refresh hlinked' hlook', hsame⟩
  refine ⟨e, l, s, hlinked, hlook, hrests.schema, fun d hd => ?_, fun hdefault => ?_⟩
  · obtain ⟨s', hrefreshed, hsame⟩ := hrefresh hd
    exact ⟨s', congrArg Prod.fst hrefreshed, hsame⟩
  · obtain ⟨s', hrefreshed, hsame⟩ := hrefresh (hdefault.trans hlook)
    have hshows : ShowsSame b (b.adopt (l'.knowing s') s') := by
      apply showsSame_adopt hconsistent
      · rw [hsame.build, hrests.hashLength, hrests.generated]
        rfl
      · rw [hrests.tables]
        exact hsame.names
    rw [hrefreshed]
    exact ⟨s', rfl, hsame, rfl, hshows⟩

/-- Posts with some foreign keys to their authors. -/
def postsWith (keys : List ForeignKey) : Schema where
  tables := [
    { name := "authors", columns := [⟨"id", "INTEGER", false, true, .text⟩], foreignKeys := [] },
    { name := "posts"
      columns := [⟨"author_id", "INTEGER", true, false, .text⟩, ⟨"editor_id", "INTEGER", true, false, .text⟩]
      foreignKeys := keys }]

def authorKeys : List ForeignKey := [⟨"author_id", "authors", "id"⟩, ⟨"editor_id", "authors", "id"⟩]

theorem sameKeys_postsWith_reverse (keys : List ForeignKey) : (postsWith keys).SameKeys (postsWith keys.reverse) :=
  .cons ⟨rfl, fun _ => .rfl⟩ (.cons ⟨rfl, fun _ => List.mem_reverse⟩ .nil)

/-- The keys are read in another order the second time. A field is overridden in between, and another one is added. -/
theorem refresh_posts :
    let look : Introspect := fun _ _ => .ok (postsWith authorKeys)
    let turned : Introspect := fun _ _ => .ok (postsWith authorKeys.reverse)
    let a : Api Unit := (create "" (some ⟨"sqlite", none⟩) [] none {} {}).after []
    let later : List (Step Unit) :=
      [.add queryType "getPosts" (.text "String") (some (.host ())) [], .add "Posts" "score" (.text "Int") none []]
    let b := (a.connect look "main").2.after later
    (a.connect look "main").1 = .ok [] ∧ ConnectsNot (a.connect look "main").2 later ∧ RereadBy look turned ∧
      ShowsSame b (b.databaseSchema turned true).2 := by
  intro look turned a later b
  have hconnect : (a.connect look "main").1 = .ok [] := by decide +kernel
  have hlater : ConnectsNot (a.connect look "main").2 later :=
    ⟨fun _ _ _ h => (nomatch h), fun _ _ _ h => (nomatch h), trivial⟩
  have hreread : RereadBy look turned := by
    intro space exclude s hs
    obtain rfl := Except.ok.inj hs
    exact ⟨_, rfl, sameKeys_postsWith_reverse authorKeys⟩
  obtain ⟨e, l, s, -, -, -, -, hsame⟩ :=
    refresh_keeps "" (some ⟨"sqlite", none⟩) [] none {} {} [] later look turned "main" hconnect hlater hreread
  obtain ⟨s', -, -, -, hshows⟩ := hsame rfl
  exact ⟨hconnect, hlater, hreread, hshows⟩

/-- An API that is connected to the namespace of temporary tables, where there are none, shows the tables of the main
one after a refresh. -/
theorem refresh_of_temporary :
    let db : Store.Database := { tables := [stockTable] }
    let a : Api Unit := create "" (some ⟨"sqlite", none⟩) [] none {} {}
    let b := (a.connect db.introspect "temp").2
    let refreshed := b.databaseSchema db.introspect true
    (a.connect db.introspect "temp").1 = .ok [] ∧ b.schema = some ⟨[]⟩ ∧ b.knownTables = [] ∧
      refreshed.1.map (fun p => Store.Database.namesOf p.1) = .ok ["stock"] ∧ refreshed.2.knownTables = ["stock"] ∧
      (b.text false).1 = "\n" ∧ (refreshed.2.text false).1 ≠ "\n" := by
  refine ⟨?_, ?_, ?_, ?_, ?_, ?_, ?_⟩ <;> decide +kernel

end Api

end TableGraph
