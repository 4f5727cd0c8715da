import TableGraph.Document.Binding
import TableGraph.Proofs.Resolver.Gate
import TableGraph.Proofs.Resolver.Standing

/-! # Overrides that delegate

Host code that only runs what its field does by default can be told from no host code by its own runs
alone. The proof is a simulation: the two resolvers stand alike but for the code of one field (`Delegated`),
changes that leave the field its default keep them so, and then every field does the same in both
(`delegation_unseen`). But other host code is handed the resolver too. If it looks at the entries there, it can
tell (`delegation_seen`), and it cannot if it uses nothing but the rest (`Host.discreet_of_blind`).
-/
namespace TableGraph

variable {ι : Type} {code : ι} {type field : String}

namespace Work
variable {α β : Type} [DecidableEq ι]

/-- Without the runs of a piece of host code. -/
def Happening.besides (code : ι) (trace : List (Happening ι)) : List (Happening ι) :=
  trace.filter fun
    | .event (.handler c) => c ≠ code
    | _ => true

/-- Two pieces of work that no database and no caller tells apart: from every state they come to the same
result and the same state, with the same questions and reports but for the runs of one piece of host code. -/
def SameBut (code : ι) (w w' : Work ι α) : Prop :=
  ∀ (σ : Type) (answer : (c : Call) → σ → Except Failure c.Answer × σ) (s : σ),
    (w'.run answer s).result = (w.run answer s).result ∧
    (w'.run answer s).state = (w.run answer s).state ∧
    Happening.besides code (w'.run answer s).trace = Happening.besides code (w.run answer s).trace

namespace SameBut

theorem refl (w : Work ι α) : SameBut code w w := fun _ _ _ => ⟨rfl, rfl, rfl⟩

/-- A run of the code itself is not seen. -/
theorem emit_self {w w' : Work ι α} (h : SameBut code w w') : SameBut code w (.emit (.handler code) w') := by
  intro σ answer s
  obtain ⟨hresult, hstate, htrace⟩ := h σ answer s
  refine ⟨hresult, hstate, ?_⟩
  rw [← htrace]
  exact List.filter_cons_of_neg (by simp)

theorem emit (e : Event ι) {w w' : Work ι α} (h : SameBut code w w') : SameBut code (.emit e w) (.emit e w') := by
  intro σ answer s
  obtain ⟨hresult, hstate, htrace⟩ := h σ answer s
  refine ⟨hresult, hstate, ?_⟩
  change Happening.besides code ([.event e] ++ _) = Happening.besides code ([.event e] ++ _)
  unfold Happening.besides at htrace ⊢
  rw [List.filter_append, List.filter_append, htrace]

theorem bind (w : Work ι α) {k k' : α → Work ι β} (h : ∀ a, SameBut code (k a) (k' a)) :
    SameBut code (w >>= k) (w >>= k') := by
  intro σ answer s
  change ((w.bind k').run answer s).result = ((w.bind k).run answer s).result ∧ _
  rw [show w >>= k = w.bind k from rfl, show w >>= k' = w.bind k' from rfl, run_bind, run_bind, Outcome.andThen,
    Outcome.andThen]
  cases hw : (w.run answer s).result with
  | error e => exact ⟨rfl, rfl, rfl⟩
  | ok a =>
    obtain ⟨hresult, hstate, htrace⟩ := h a σ answer (w.run answer s).state
    refine ⟨hresult, hstate, ?_⟩
    unfold Outcome.precededBy Happening.besides at *
    rw [List.filter_append, List.filter_append, htrace]

end SameBut

end Work

/-- A change that leaves a field to its default: it gives it no code, and if it registers a catalog, this one
generates the field. -/
def Change.Leaves (type field : String) (x : Change ι) : Prop :=
  x.given? type field = none ∧ ∀ c, x.catalog? = some c → c.Generates type field

namespace Entry

/-- A registration that generates a field sets the table of its entry anew. -/
theorem table_registered {c : Catalog} (h : c.Generates type field) (e e' : Option (Entry ι)) :
    (registered type field c e').bind (·.table) = (registered type field c e).bind (·.table) := by
  obtain ⟨d, hd⟩ := Option.isSome_iff_exists.1 ((c.isSome_defaultOf type field).2 h)
  rw [registered, registered, hd]
  rfl

end Entry

namespace Resolver

/-- Two resolvers that stand alike but for one field. That one has a default and no code in the first, and in
the second the same default and no code but the given one. The arguments of the entry may differ, and the
order of the entries. -/
structure Delegated (code : ι) (type field : String) (r r' : Resolver ι) : Prop where
  same : r' = { r with entries := r'.entries }
  others : ∀ t f, (t, f) ≠ (type, field) → r'.entry? t f = r.entry? t f
  free : (r.entry? type field).bind (·.override) = none
  code_of : ∀ c, (r'.entry? type field).bind (·.override) = some c → c = code
  has : ((r.entry? type field).bind (·.default)).isSome = true
  default : (r'.entry? type field).bind (·.default) = (r.entry? type field).bind (·.default)
  table : (r'.entry? type field).bind (·.table) = (r.entry? type field).bind (·.table)

namespace Delegated
variable {r r' : Resolver ι}

/-- A change does to the rest of a resolver what it does, whatever the entries are. -/
theorem change_entries (r : Resolver ι) (entries : Assoc (String × String) (Entry ι)) (x : Change ι) :
    { r with entries }.change x = { r.change x with entries := ({ r with entries }.change x).entries } := by
  cases x with
  | hook validator rejected => rfl
  | override t f code args =>
    rw [change_override, change_override]
    cases Change.given? t f (.override t f code args) <;> rfl
  | register c => rfl

theorem step (h : Delegated code type field r r') (hr : r.entries.keys.Nodup) (hr' : r'.entries.keys.Nodup)
    {x : Change ι} (hx : x.Leaves type field) : Delegated code type field (r.change x) (r'.change x) := by
  have hsame : r'.change x = { r.change x with entries := (r'.change x).entries } := by
    have hchange := change_entries r r'.entries x
    rwa [← h.same] at hchange
  have hothers : ∀ t f, (t, f) ≠ (type, field) →
      Resolver.entry? (r'.change x) t f = Resolver.entry? (r.change x) t f := by
    intro t f hne
    rw [entry?_change hr, entry?_change hr', h.others t f hne]
  have hown := entry?_change hr x type field
  have hown' := entry?_change hr' x type field
  obtain ⟨p, hp, -⟩ | ⟨c, rfl⟩ | ⟨hp, hc⟩ := x.cases_for type field
  · cases hx.1.symm.trans hp
  · -- the defaults are made anew in both, and the codes stay
    change _ = Entry.registered type field c _ at hown hown'
    have hgenerates : c.Generates type field := hx.2 c rfl
    refine ⟨hsame, hothers, ?_, ?_, ?_, ?_, ?_⟩
    · rw [hown, Entry.override_registered]
      exact h.free
    · rw [hown', Entry.override_registered]
      exact h.code_of
    · rw [hown, Entry.default_registered, Option.isSome_map]
      exact (c.isSome_defaultOf type field).2 hgenerates
    · rw [hown, hown', Entry.default_registered, Entry.default_registered]
    · rw [hown, hown']
      exact Entry.table_registered hgenerates _ _
  · rw [Entry.next_of_idle hp hc] at hown hown'
    refine ⟨hsame, hothers, ?_, ?_, ?_, ?_, ?_⟩
    · rw [hown]
      exact h.free
    · rw [hown']
      exact h.code_of
    · rw [hown]
      exact h.has
    · rw [hown, hown']
      exact h.default
    · rw [hown, hown']
      exact h.table

theorem run (h : Delegated code type field r r') (hr : r.entries.keys.Nodup) (hr' : r'.entries.keys.Nodup)
    {changes : List (Change ι)} (hall : ∀ x ∈ changes, x.Leaves type field) :
    Delegated code type field (r.after changes) (r'.after changes) := by
  induction changes generalizing r r' with
  | nil => exact h
  | cons x rest ih =>
    obtain ⟨hx, hrest⟩ := List.forall_mem_cons.1 hall
    exact ih (h.step hr hr' hx) (nodup_change hr x) (nodup_change hr' x) hrest

/-- The override of a field that has a default and no code. An override that is refused changes nothing. -/
theorem start (hfree : (r.entry? type field).bind (·.override) = none)
    (hhas : ((r.entry? type field).bind (·.default)).isSome = true) (args : Args) :
    Delegated code type field r (r.change (.override type field (some code) args)) := by
  have hothers : ∀ t f, (t, f) ≠ (type, field) →
      Resolver.entry? (r.change (.override type field (some code) args)) t f = r.entry? t f := by
    intro t f hne
    rw [entry?_override]
    cases hg : Change.given? t f (.override type field (some code) args) with
    | none => rfl
    | some p =>
      obtain ⟨rfl, rfl⟩ := given?_self_of_given? hg
      exact absurd rfl hne
  have hown := entry?_override r type field (some code) args type field
  obtain ⟨d, hd⟩ := Option.isSome_iff_exists.1 hhas
  obtain ⟨e, he, -⟩ := Option.bind_eq_some_iff.1 hd
  have hrefused : Change.given? type field (.override type field (some code) args) = none ∨
      Change.given? type field (.override type field (some code) args) = some (code, args) := by
    simp only [Change.given?]
    split
    · exact .inr rfl
    · exact .inl rfl
  have hsame : r.change (.override type field (some code) args) =
      { r with entries := (r.change (.override type field (some code) args)).entries } := by
    rw [change_override]
    cases Change.given? type field (.override type field (some code) args) <;> rfl
  refine ⟨hsame, hothers, hfree, ?_, hhas, ?_, ?_⟩
  · intro c hc
    rw [hown] at hc
    rcases hrefused with hg | hg
    · rw [hg] at hc
      cases hfree.symm.trans hc
    · rw [hg] at hc
      exact (Option.some.inj hc).symm
  · rw [hown]
    rcases hrefused with hg | hg
    · rw [hg]
    · rw [hg, he]
      rfl
  · rw [hown]
    rcases hrefused with hg | hg
    · rw [hg]
    · rw [hg, he]
      rfl

/-! ## What the fields do -/

/-- A default uses the rest of the resolver, not the entries. -/
theorem runDefault_entries (c : FieldContext ι) (entries : Assoc (String × String) (Entry ι)) (d : Default)
    (parent : Value) (args : Args) :
    { c with resolver := { c.resolver with entries } }.runDefault d parent args = c.runDefault d parent args := by
  cases d <;> rfl

theorem contextOf (h : Delegated code type field r r') (q : FieldQuery) :
    r'.contextOf q = { r.contextOf q with resolver := { r with entries := r'.entries } } := by
  have hentry : (r'.entry? q.type q.field).bind (·.table) = (r.entry? q.type q.field).bind (·.table) ∧
      (r'.entry? q.type q.field).bind (·.default) = (r.entry? q.type q.field).bind (·.default) := by
    by_cases hq : (q.type, q.field) = (type, field)
    · obtain ⟨rfl, rfl⟩ := Prod.mk.inj hq
      exact ⟨h.table, h.default⟩
    · rw [h.others _ _ hq]
      exact ⟨rfl, rfl⟩
  rw [Resolver.contextOf, Resolver.contextOf, hentry.1, hentry.2, ← h.same]

theorem runDefault (h : Delegated code type field r r') (q : FieldQuery) (d : Default) :
    (r'.contextOf q).runDefault d q.parent q.args = (r.contextOf q).runDefault d q.parent q.args := by
  rw [h.contextOf q]
  exact runDefault_entries (r.contextOf q) r'.entries d q.parent q.args

/-- The handlers of the field itself: its default in the first resolver, and in the second its default or
the code. -/
theorem handler_own (h : Delegated code type field r r') :
    ∃ d, (r.entry? type field).bind (·.default) = some d ∧
      (r.entry? type field).bind (fun e => e.handler true) = some (.default d) ∧
      ((r'.entry? type field).bind (fun e => e.handler true) = some (.default d) ∨
        (r'.entry? type field).bind (fun e => e.handler true) = some (.host code)) := by
  obtain ⟨d, hd⟩ := Option.isSome_iff_exists.1 h.has
  obtain ⟨e, he, hed⟩ := Option.bind_eq_some_iff.1 hd
  obtain ⟨e', he', hed'⟩ := Option.bind_eq_some_iff.1 (h.default.trans hd)
  have hfree := h.free
  have hcode := h.code_of
  rw [he, Option.bind_some] at hfree
  rw [he', Option.bind_some] at hcode
  refine ⟨d, hd, ?_, ?_⟩
  · rw [he]
    simp only [Option.bind_some, Entry.handler, hfree, hed, if_true, Option.map_some]
  · rw [he']
    cases ho : e'.override with
    | none =>
      left
      simp only [Option.bind_some, Entry.handler, ho, hed', if_true, Option.map_some]
    | some c =>
      right
      obtain rfl := hcode c ho
      simp only [Option.bind_some, Entry.handler, ho]

theorem offers_iff (h : Delegated code type field r r') (hr : r.entries.keys.Nodup) (hr' : r'.entries.keys.Nodup)
    (t f : String) : r'.Offers true t f ↔ r.Offers true t f := by
  have hhandler : ((r'.entry? t f).bind fun e => e.handler true).isSome =
      ((r.entry? t f).bind fun e => e.handler true).isSome := by
    by_cases hq : (t, f) = (type, field)
    · obtain ⟨rfl, rfl⟩ := Prod.mk.inj hq
      obtain ⟨d, -, hhandler, hhandler' | hhandler'⟩ := h.handler_own
      · rw [hhandler, hhandler']
      · rw [hhandler, hhandler']
        rfl
    · rw [h.others _ _ hq]
  constructor
  · intro ho
    exact offers_of_handler (hhandler.symm.trans (handler_of_offers hr' ho))
  · intro ho
    exact offers_of_handler (hhandler.trans (handler_of_offers hr ho))

end Delegated

end Resolver

variable [DecidableEq ι]

/-- Host code that cannot tell from the resolver it is handed whether the field delegates. -/
def Host.Discreet (host : Host ι ι) (code : ι) (type field : String) (other : ι) : Prop :=
  ∀ (c : FieldContext ι) (r' : Resolver ι), Resolver.Delegated code type field c.resolver r' →
    ∀ parent args, Work.SameBut code (host.handle other c parent args)
      (host.handle other { c with resolver := r' } parent args)

/-- Code that does the same whatever the entries are cannot tell. -/
theorem Host.discreet_of_blind {host : Host ι ι} {other : ι}
    (h : ∀ (c : FieldContext ι) entries parent args,
      host.handle other { c with resolver := { c.resolver with entries } } parent args =
        host.handle other c parent args) : host.Discreet code type field other := by
  intro c r' hdelegated parent args
  have hsame : host.handle other { c with resolver := r' } parent args = host.handle other c parent args := by
    rw [hdelegated.same]
    exact h c r'.entries parent args
  rw [hsame]
  exact Work.SameBut.refl _

namespace Resolver.Delegated
variable {r r' : Resolver ι} {host : Host ι ι}

theorem handle (h : Delegated code type field r r')
    (hdelegates : ∀ c parent args, host.handle code c parent args = c.resolveDefault parent args) (q : FieldQuery)
    (hdiscreet : ∀ other, (r.entry? q.type q.field).bind (·.override) = some other →
      host.Discreet code type field other) :
    Work.SameBut code (r.handle host q true) (r'.handle host q true) := by
  rw [handle_eq, handle_eq]
  by_cases hq : (q.type, q.field) = (type, field)
  · obtain ⟨rfl, rfl⟩ := Prod.mk.inj hq
    obtain ⟨d, hd, hhandler, hhandler' | hhandler'⟩ := h.handler_own
    · rw [hhandler, hhandler', runHandler, runHandler, h.runDefault]
      exact .refl _
    · have hcontext : (r'.contextOf q).default = some d := h.default.trans hd
      rw [hhandler, hhandler', runHandler, runHandler, hdelegates, FieldContext.resolveDefault, hcontext]
      change Work.SameBut code _ (.emit (.handler code) ((r'.contextOf q).runDefault d q.parent q.args))
      rw [h.runDefault]
      exact .emit_self (.refl _)
  · rw [h.others _ _ hq]
    cases he : r.entry? q.type q.field with
    | none => exact .refl _
    | some e =>
      rw [Option.bind_some]
      cases hhandler : e.handler true with
      | none => exact .refl _
      | some handler =>
        cases handler with
        | default d =>
          rw [runHandler, runHandler, h.runDefault]
          exact .refl _
        | host other =>
          have hoverride : e.override = some other := by
            cases ho : e.override with
            | none =>
              simp only [Entry.handler, ho, if_true] at hhandler
              cases hd : e.default <;> simp [hd] at hhandler
            | some c =>
              simp only [Entry.handler, ho] at hhandler
              cases hhandler
              rfl
          have hother := hdiscreet other (by rw [he]; exact hoverride)
          rw [runHandler, runHandler, h.contextOf, ← h.same]
          exact .emit _ (hother (r.contextOf q) r' h q.parent q.args)

theorem resolve (h : Delegated code type field r r')
    (hdelegates : ∀ c parent args, host.handle code c parent args = c.resolveDefault parent args) (q : FieldQuery)
    (hdiscreet : ∀ other, (r.entry? q.type q.field).bind (·.override) = some other →
      host.Discreet code type field other) :
    Work.SameBut code (r.resolve host q true) (r'.resolve host q true) := by
  have hverdict : r'.verdict host q = r.verdict host q := by
    rw [h.same]
    rfl
  have hrejection : r'.rejection host q = r.rejection host q := by
    rw [h.same]
    rfl
  rw [Resolver.resolve, Resolver.resolve, hverdict, hrejection]
  refine .bind _ fun let_through => ?_
  cases let_through with
  | true => exact h.handle hdelegates q hdiscreet
  | false => exact .refl _

end Resolver.Delegated

/-- For every history in which the catalog registered last generates a field that no code was given, an
override of it that only runs the default changes nothing that is seen with a connection, whatever arguments
it declares, at once and after any later changes that leave the field to its default, any number of
registrations that generate it among them. The map has the same fields. Every call of this field and of
every other one without code, with any parent, arguments and context, and against any database, has the
same result or the same error, asks the database the same and leaves it in the same state; all that is added
is that the code was run. This is so for a field with code as well, if this cannot tell from the entries of
its resolver that the first field is overridden. -/
theorem delegation_unseen (settings : Settings) (hook : Hook ι) (driver : Bool) (before since : List (Change ι))
    (type field : String) (code : ι) (declared : Args) (host : Host ι ι)
    (hgenerated : ∃ c, lastCatalog before = some c ∧ c.Generates type field)
    (hfree : givenTo type field before = [])
    (hdelegates : ∀ c parent args, host.handle code c parent args = c.resolveDefault parent args)
    (hsince : ∀ x ∈ since, x.Leaves type field) :
    let plain := (Resolver.fresh settings hook driver).after (before ++ since)
    let overridden := (Resolver.fresh settings hook driver).after
      (before ++ .override type field (some code) declared :: since)
    (∀ t f, overridden.Offers true t f ↔ plain.Offers true t f) ∧
      (∀ q : FieldQuery, (q.type, q.field) = (type, field) ∨ givenTo q.type q.field (before ++ since) = [] →
        Work.SameBut code (plain.resolve host q true) (overridden.resolve host q true)) ∧
      ∀ q : FieldQuery, (∀ p ∈ (givenTo q.type q.field (before ++ since)).getLast?,
        host.Discreet code type field p.1) →
        Work.SameBut code (plain.resolve host q true) (overridden.resolve host q true) := by
  intro plain overridden
  have hfresh : (Resolver.fresh settings hook driver).entries.keys.Nodup := List.nodup_nil
  have hentry (changes : List (Change ι)) (t f : String) :
      Resolver.entry? ((Resolver.fresh settings hook driver).after changes) t f = entryAfter t f changes :=
    Resolver.entry?_after settings hook driver changes t f
  have hnodup := Resolver.nodup_after hfresh before
  have hstart : Resolver.Delegated code type field ((Resolver.fresh settings hook driver).after before) _ := .start
    (by rw [hentry, override_entryAfter, hfree]; rfl)
    (by rw [hentry]; exact (isSome_default_entryAfter type field before).2 hgenerated) declared
  have hrun := hstart.run hnodup (Resolver.nodup_change hnodup _) hsince
  have hplain : ((Resolver.fresh settings hook driver).after before).after since = plain :=
    (Resolver.after_append _ before since).symm
  have hoverridden : (((Resolver.fresh settings hook driver).after before).change
      (.override type field (some code) declared)).after since = overridden :=
    (Resolver.after_append _ before (.override type field (some code) declared :: since)).symm
  rw [hplain, hoverridden] at hrun
  have hoverride (t f : String) : (plain.entry? t f).bind (·.override) =
      (givenTo t f (before ++ since)).getLast?.map (·.1) := by
    rw [hentry, override_entryAfter]
  refine ⟨hrun.offers_iff (Resolver.nodup_after hfresh _) (Resolver.nodup_after hfresh _), fun q hq => ?_,
    fun q hdiscreet => ?_⟩
  · refine hrun.resolve hdelegates q fun other hother => ?_
    -- neither the field itself nor one without code has any here
    rcases hq with hq | hnone
    · obtain ⟨rfl, rfl⟩ := Prod.mk.inj hq
      cases hrun.free.symm.trans hother
    · rw [hoverride, hnone] at hother
      cases hother
  · refine hrun.resolve hdelegates q fun other hother => ?_
    rw [hoverride] at hother
    obtain ⟨p, hp, rfl⟩ := Option.map_eq_some_iff.1 hother
    exact hdiscreet p hp

/-- The code 0 delegates, and all other code answers with a page of the users. -/
def relay : Host Nat Nat where
  handle code c parent args := if code = 0 then c.resolveDefault parent args else c.resolver.page (some "users") args
  validate _ _ := .done (.ok (.bool true))
  reject _ _ := .done (.ok .null)

def usersAndPing : List (Change Nat) :=
  [.register (({} : Catalog).adopt (oneTable "users")), .override queryType "ping" (some 1) []]

def usersAgain : List (Change Nat) := [.hook 2 none, .register (({} : Catalog).adopt (oneTable "users"))]

/-- The users' list delegates across a registration, and its neighbour pages the users on its own. The call of
the list asks what it would ask, after a run of the code. -/
theorem users_delegated :
    let plain := (Resolver.fresh {} {} true).after (usersAndPing ++ usersAgain)
    let overridden := (Resolver.fresh {} {} true).after
      (usersAndPing ++ .override queryType "getUsers" (some 0) [] :: usersAgain)
    let query : FieldQuery := ⟨queryType, "getUsers", .null, [], .null⟩
    (∀ q, Work.SameBut 0 (plain.resolve relay q true) (overridden.resolve relay q true)) ∧
      ∃ w, plain.resolve relay query true = .emit (.validator (some 2) query) w ∧
        overridden.resolve relay query true = .emit (.validator (some 2) query) (.emit (.handler 0) w) := by
  intro plain overridden query
  have hgenerates : (({} : Catalog).adopt (oneTable "users")).Generates queryType "getUsers" :=
    (Catalog.isSome_defaultOf _ _ _).1 rfl
  have hsince : ∀ x ∈ usersAgain, x.Leaves queryType "getUsers" := by
    intro x hx
    rcases List.mem_cons.1 hx with rfl | hx
    · exact ⟨rfl, fun c hc => nomatch hc⟩
    · obtain rfl := List.mem_singleton.1 hx
      refine ⟨rfl, fun c hc => ?_⟩
      obtain rfl := Option.some.inj hc
      exact hgenerates
  obtain ⟨-, -, hunseen⟩ := delegation_unseen {} {} true usersAndPing usersAgain queryType "getUsers" 0 [] relay
    ⟨_, rfl, hgenerates⟩ rfl (fun _ _ _ => rfl) hsince
  refine ⟨fun q => hunseen q fun p hp => ?_, _, rfl, rfl⟩
  have hp : p = (1, []) := by
    obtain ⟨x, hx, hgiven⟩ := List.mem_filterMap.1 (List.mem_of_getLast? hp)
    simp only [usersAndPing, usersAgain, List.cons_append, List.nil_append, List.mem_cons, List.not_mem_nil,
      or_false] at hx
    rcases hx with rfl | rfl | rfl | rfl
    · cases hgiven
    · simp only [Change.given?] at hgiven
      split at hgiven
      · exact (Option.some.inj hgiven).symm
      · cases hgiven
    · cases hgiven
    · cases hgiven
  subst hp
  exact Host.discreet_of_blind fun _ _ _ _ => rfl

/-- The code 0 delegates, and all other code tells whether the users' list is overridden. -/
def peeking : Host Nat Nat where
  handle code c parent args :=
    if code = 0 then c.resolveDefault parent args
    else .done (.ok (.bool ((c.resolver.entry? queryType "getUsers").bind (·.override)).isSome))
  validate _ _ := .done (.ok (.bool true))
  reject _ _ := .done (.ok .null)

def postsAndUsers : Catalog := ({} : Catalog).adopt ⟨(oneTable "posts").tables ++ (oneTable "users").tables⟩

/-- The users' list delegates, and its neighbour sees it. After the next registration the map has the list in
front, so type definitions that have none of the fields are refused for another one than without the code. -/
theorem delegation_seen :
    let before : List (Change Nat) := [.register postsAndUsers, .override queryType "ping" (some 1) []]
    let since : List (Change Nat) := [.register postsAndUsers]
    let plain := (Resolver.fresh {} {} true).after (before ++ since)
    let overridden := (Resolver.fresh {} {} true).after (before ++ .override queryType "getUsers" (some 0) [] :: since)
    let ping : FieldQuery := ⟨queryType, "ping", .null, [], .null⟩
    let text := "type Query \x7b getTags: Int \x7d"
    (∃ c, lastCatalog before = some c ∧ c.Generates queryType "getUsers") ∧ givenTo queryType "getUsers" before = [] ∧
      (∀ c parent args, peeking.handle 0 c parent args = c.resolveDefault parent args) ∧
      (∀ x ∈ since, x.Leaves queryType "getUsers") ∧
      (∀ (σ : Type) (answer : (c : Call) → σ → Except Failure c.Answer × σ) (s : σ),
        ((plain.resolve peeking ping true).run answer s).result = .ok (.bool false) ∧
        ((overridden.resolve peeking ping true).run answer s).result = .ok (.bool true)) ∧
      ¬ (∀ q, Work.SameBut 0 (plain.resolve peeking q true) (overridden.resolve peeking q true)) ∧
      Document.bind text (plain.fieldMap true) = .error (.config (.unknownField queryType "ping")) ∧
      Document.bind text (overridden.fieldMap true) = .error (.config (.unknownField queryType "getUsers")) := by
  intro before since plain overridden ping text
  have hgenerates : postsAndUsers.Generates queryType "getUsers" := (Catalog.isSome_defaultOf _ _ _).1 rfl
  have hplain (σ : Type) (answer : (c : Call) → σ → Except Failure c.Answer × σ) (s : σ) :
      ((plain.resolve peeking ping true).run answer s).result = .ok (.bool false) := by rfl
  have hoverridden (σ : Type) (answer : (c : Call) → σ → Except Failure c.Answer × σ) (s : σ) :
      ((overridden.resolve peeking ping true).run answer s).result = .ok (.bool true) := by rfl
  refine ⟨⟨_, rfl, hgenerates⟩, rfl, fun _ _ _ => rfl, fun x hx => ?_, fun σ answer s => ⟨hplain σ answer s,
    hoverridden σ answer s⟩, fun hsame => ?_, by decide +kernel, by decide +kernel⟩
  · obtain rfl := List.mem_singleton.1 hx
    refine ⟨rfl, fun c hc => ?_⟩
    obtain rfl := Option.some.inj hc
    exact hgenerates
  · have hresult := (hsame ping Unit (fun _ s => (.error .unreadable, s)) ()).1
    cases (hoverridden _ _ _).symm.trans (hresult.trans (hplain _ _ _))

end TableGraph
