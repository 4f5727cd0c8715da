import TableGraph.Proofs.Request.Sound
import TableGraph.Proofs.Resolver.Descent
import TableGraph.Proofs.Resolver.Errands

/-! # What is asked in a session

In a session errands are done one after the other, and relations are followed from what the errands before gave.
The arguments that rows carry were read from strings and merged, so whatever the strings are, they are without a
fault at every depth (`Session.sound`). So every question names only operators that there are, passes over no
negative number of rows, and takes one row, or as many as the settings allow to a page (`session_regular`).
-/
namespace TableGraph

/-! ## Operators -/

/-- Every condition has one of the operators that there are. -/
def KnownOperators (conditions : List (Condition Value)) : Prop := ∀ c ∈ conditions, ∃ op : Operator, c.op = op.name

theorem KnownOperators.append {a b : List (Condition Value)} (ha : KnownOperators a) (hb : KnownOperators b) :
    KnownOperators (a ++ b) :=
  fun c hc => (List.mem_append.1 hc).elim (ha c) (hb c)

theorem knownOperators_toCall {a : ScopeArgs String} (h : a.Sound) : KnownOperators (a.conditions.map Condition.toCall) := by
  intro c hc
  obtain ⟨d, hd, rfl⟩ := List.mem_map.1 hc
  exact h.operators d hd

theorem unreadable_of_coerce {c : Column} {v : Value} {e : RequestError} (h : c.coerce v = .error e) :
    ∃ reading text, e = .unreadable reading text c.name := by
  unfold Column.coerce at h
  split at h
  · rename_i text
    replace h := Chain.map_eq_error.1 h
    unfold Column.coerceText at h
    split at h
    · cases h
    · rename_i reading _
      split at h
      · cases h
      · exact ⟨reading, text, (Except.error.inj h).symm⟩
  · cases h

/-- A condition with a known operator is refused for its column or its value only. -/
theorem compare_ne_unknownOperator (t : TableShape) {c : Condition Value} (h : ∃ op : Operator, c.op = op.name)
    (name : String) : t.compare c ≠ .error (.request (.unknownOperator name)) := by
  obtain ⟨op, hop⟩ := h
  intro he
  rcases Chain.bind_eq_error.1 he with he | ⟨column, -, he⟩
  · unfold TableShape.columnNamed at he
    split at he <;> cases he
  · have htest (v : Value) : ((op.testWith v).mapError Failure.database >>= fun test =>
        Except.ok (⟨column, test, v⟩ : Comparison)) ≠ .error (.request (.unknownOperator name)) := by
      intro he
      rcases Chain.bind_eq_error.1 he with he | ⟨test, -, he⟩
      · obtain ⟨e, -, hdatabase⟩ := Chain.mapError_eq_error.1 he
        cases hdatabase
      · cases he
    rw [hop, Operator.ofName?_name] at he
    dsimp only at he
    split at he
    · exact htest _ he
    · rcases Chain.bind_eq_error.1 he with he | ⟨v, -, he⟩
      · obtain ⟨e, hcoerce, hrequest⟩ := Chain.mapError_eq_error.1 he
        obtain ⟨reading, text, rfl⟩ := unreadable_of_coerce hcoerce
        cases hrequest
      · exact htest v he

/-- No table, whatever its columns are, finds an unknown operator among conditions with known ones. -/
theorem KnownOperators.compareAll {conditions : List (Condition Value)} (h : KnownOperators conditions)
    (t : TableShape) (name : String) : t.compareAll conditions ≠ .error (.request (.unknownOperator name)) := by
  intro he
  obtain ⟨c, hc, he⟩ := Chain.exists_of_error he
  exact compare_ne_unknownOperator t (h c hc) name he

/-! ## What an errand may ask -/

namespace Call

def conditions : Call → List (Condition Value)
  | .count _ conditions => conditions
  | .select _ args => args.conditions
  | _ => []

end Call

namespace Errand
open Resolver
variable {ι σ : Type}

/-- How many rows may be asked for. For a page it is the default size if the request has no limit for the table, and
otherwise its limit, but never more than the settings allow; else it is one row. -/
def Limited (settings : Settings) : Errand → Option Int → Prop
  | .page table args, limit => ∃ request n, requestArgs args = .ok request ∧ limit = some n ∧ 0 ≤ n ∧
      ((request.forRoot table).limit = none ∧ n = settings.defaultPageSize ∨
        ∃ asked, (request.forRoot table).limit = some asked ∧ 0 ≤ asked ∧ n = min asked settings.maxPageSize)
  | .put _ _, _ => False
  | _, limit => limit = some 1

/-- A question as it should be. What is written is not looked at. -/
def Regular (settings : Settings) (q : Errand) : Call → Prop
  | .count _ conditions => KnownOperators conditions
  | .select _ args => KnownOperators args.conditions ∧ 0 ≤ args.offset ∧
      (∀ o ∈ args.order, o.2 = .asc ∨ o.2 = .desc) ∧ q.Limited settings args.limit
  | _ => True

/-- The value that a relation is followed from. -/
def parent? : Errand → Option Value
  | .related _ parent _ => some parent
  | _ => none

/-- What an errand hands out: its result, and of a page also the items. -/
inductive Gives : Errand × Work.Outcome ι Value σ → Value → Prop where
  | result {q : Errand} {o : Work.Outcome ι Value σ} {v : Value} : o.result = .ok v → Gives (q, o) v
  | item {table : Option String} {args : Args} {o : Work.Outcome ι Value σ} {page v : Value} {items : List Value} :
      o.result = .ok page → page.member "items" = .list items → v ∈ items → Gives (.page table args, o) v

theorem eq_asc_or_desc (d : Direction) : d = .asc ∨ d = .desc := by
  cases d
  · exact .inl rfl
  · exact .inr rfl

variable {r : Resolver ι}

theorem sound_requestArgs {args : Args} {request : RequestArgs} (h : requestArgs args = .ok request) :
    request.Sound :=
  Request.sound_parse (Chain.mapError_eq_ok.1 h)

theorem sound_inheritedArgs {parent : Value} (hparent : parent.requestArgs.Sound) {inherited : RequestArgs}
    (h : inheritedArgs parent = .ok inherited) : inherited.Sound := by
  unfold inheritedArgs at h
  split at h
  · split at h
    · cases h
    · exact Except.ok.inj h ▸ RequestArgs.sound_empty
  · exact Except.ok.inj h ▸ hparent

theorem sound_ownScope {own : RequestArgs} (h : own.Sound) (field : String) : (ownScope field own).Sound := by
  unfold ownScope
  cases hbare : own.scopes.get? none with
  | none => exact h
  | some bare =>
    refine RequestArgs.sound_join (fun p hp => h p (List.mem_of_mem_filter hp)) _ ?_
    exact h _ (Assoc.mem_of_get? hbare)

theorem sound_passedOn {rel : Relation} {inherited own : RequestArgs} (hinherited : inherited.Sound) (hown : own.Sound) :
    (passedOn rel inherited own).Sound :=
  hinherited.overlay (sound_ownScope hown rel.field)

theorem asksOnly_requireConnection {P : Call → Prop} {w : Work ι Value} (h : Work.AsksOnly P w) :
    Work.AsksOnly P (r.requireConnection w) := by
  unfold requireConnection
  split
  · exact h
  · exact Work.asksOnly_done _

/-- One row is asked for under arguments without a fault. -/
theorem asksOnly_firstOf {P : Call → Prop} {table : Option String} {scope : ScopeArgs Value} {request : RequestArgs}
    (h : P (.select table { scope with limit := some 1 })) : Work.AsksOnly P (firstOf (ι := ι) table scope request) :=
  (Work.asksOnly_request h).bind fun _ => Work.asksOnly_done _

theorem asksOnly_page (hdefault : 0 ≤ r.settings.defaultPageSize) (hmax : 0 ≤ r.settings.maxPageSize)
    (table : Option String) (args : Args) :
    Work.AsksOnly ((Errand.page table args).Regular r.settings) (r.page table args) := by
  refine asksOnly_requireConnection (Work.AsksOnly.orNull (Work.asksOnly_ofExcept fun request hrequest => ?_) _)
  have hroot : (request.forRoot table).Sound := (sound_requestArgs hrequest).forRoot table
  refine Work.asksOnly_both (knownOperators_toCall hroot) ?_ fun _ _ => Work.asksOnly_done _
  refine ⟨knownOperators_toCall hroot, hroot.offset, fun o _ => eq_asc_or_desc o.2, request, _, hrequest, rfl, ?_⟩
  cases hlimit : (request.forRoot table).limit with
  | none => exact ⟨hdefault, .inl ⟨rfl, rfl⟩⟩
  | some n =>
    have hn : 0 ≤ n := hroot.limit n hlimit
    exact ⟨Int.le_min.2 ⟨hn, hmax⟩, .inr ⟨n, rfl, hn, rfl⟩⟩

theorem asksOnly_write {settings : Settings} {q : Errand} (table : Option String) (key : List String) (values : Row) :
    Work.AsksOnly (q.Regular settings) (write (ι := ι) table key values) := by
  unfold write
  dsimp only
  split
  · refine (Work.asksOnly_request trivial).bind fun found => ?_
    cases found with
    | some row => exact Work.asksOnly_request trivial
    | none => exact Work.asksOnly_request trivial
  · exact Work.asksOnly_request trivial

/-- Every question of an errand is as it should be, if a relation is followed from a value with sound arguments. -/
theorem asksOnly_work (hdefault : 0 ≤ r.settings.defaultPageSize) (hmax : 0 ≤ r.settings.maxPageSize) (q : Errand)
    (hparent : ∀ parent ∈ q.parent?, parent.requestArgs.Sound) : Work.AsksOnly (q.Regular r.settings) (q.work r) := by
  cases q with
  | page table args => exact asksOnly_page hdefault hmax table args
  | first table args =>
    refine asksOnly_requireConnection (Work.AsksOnly.orNull (Work.asksOnly_ofExcept fun request hrequest => asksOnly_firstOf ?_) _)
    have hroot : (request.forRoot table).Sound := (sound_requestArgs hrequest).forRoot table
    exact ⟨knownOperators_toCall hroot, hroot.offset, fun o _ => eq_asc_or_desc o.2, rfl⟩
  | put table args =>
    refine asksOnly_requireConnection (Work.asksOnly_ofExcept fun supplied _ => Work.AsksOnly.orNull ?_ _)
    exact (asksOnly_write table _ _).bind fun _ => Work.asksOnly_done _
  | related rel parent args =>
    have hparent := hparent parent rfl
    simp only [work, Resolver.related]
    split
    · exact Work.asksOnly_done _
    · refine asksOnly_requireConnection (Work.AsksOnly.orNull (Work.asksOnly_ofExcept fun own hown =>
        Work.asksOnly_ofExcept fun inherited hinherited => asksOnly_firstOf ?_) _)
      have hscope : ((passedOn rel inherited own).forScope rel.field).Sound :=
        (sound_passedOn (sound_inheritedArgs hparent hinherited) (sound_requestArgs hown)).get (some rel.field)
      have hkey : KnownOperators [⟨rel.referencedColumn, Operator.eq.name, parent.member rel.column⟩] := by
        intro c hc
        obtain rfl := List.mem_singleton.1 hc
        exact ⟨.eq, rfl⟩
      exact ⟨(knownOperators_toCall hscope).append hkey, hscope.offset, fun o _ => eq_asc_or_desc o.2, rfl⟩

/-! ## What an errand hands out -/

theorem mayGive_bind {α : Type} {w : Work ι α} {k : α → Work ι Value} {v : Value} (h : MayGive (w >>= k) v) :
    ∃ a, MayGive (k a) v := by
  obtain ⟨σ, answer, s, h⟩ := h
  change ((w.bind k).run answer s).result = _ at h
  rw [Work.run_bind, Work.Outcome.andThen] at h
  split at h
  · rename_i a _
    exact ⟨a, σ, answer, _, h⟩
  · cases h

/-- The result of an errand carries arguments without a fault, if the value that it started from does. -/
theorem sound_of_mayGive {q : Errand} (hparent : ∀ parent ∈ q.parent?, parent.requestArgs.Sound) {v : Value}
    (h : MayGive (q.work r) v) : v.requestArgs.Sound := by
  cases q with
  | page table args =>
    rcases page_of_mayGive h with rfl | ⟨request, total, rows, -, rfl⟩
    · exact RequestArgs.sound_empty
    · exact RequestArgs.sound_empty
  | first table args =>
    rcases first_of_mayGive h with rfl | ⟨request, row, hrequest, rfl⟩
    · exact RequestArgs.sound_empty
    · exact sound_requestArgs hrequest
  | put table args =>
    obtain ⟨supplied, -, h⟩ := mayGive_ofExcept (connected_of_mayGive h).2
    rcases mayGive_orNull h with rfl | h
    · exact RequestArgs.sound_empty
    · obtain ⟨row, σ, answer, s, h⟩ := mayGive_bind h
      obtain rfl := Except.ok.inj h
      cases row <;> exact RequestArgs.sound_empty
  | related rel parent args =>
    have hparent := hparent parent rfl
    rcases related_of_mayGive h with rfl | ⟨-, -, own, inherited, row, hown, hinherited, rfl⟩
    · exact RequestArgs.sound_empty
    · exact sound_passedOn (sound_inheritedArgs hparent hinherited) (sound_requestArgs hown)

/-- So does whatever an errand hands out. -/
theorem sound_of_gives {q : Errand} (hparent : ∀ parent ∈ q.parent?, parent.requestArgs.Sound)
    {answer : (c : Call) → σ → Except Failure c.Answer × σ} {s : σ} {v : Value}
    (h : Gives (q, (q.work r).run answer s) v) : v.requestArgs.Sound := by
  cases h with
  | result h => exact sound_of_mayGive hparent ⟨σ, answer, s, h⟩
  | item hpage hitems hv =>
    rcases page_of_mayGive ⟨σ, answer, s, hpage⟩ with rfl | ⟨request, total, rows, hrequest, rfl⟩
    · cases hitems
    · obtain rfl := Value.list.inj hitems
      obtain ⟨row, -, rfl⟩ := List.mem_map.1 hv
      exact sound_requestArgs hrequest

/-! ## Sessions -/

/-- Errands done one after the other, each with what became of it. Others may have been at the database in between.
A relation is followed from a value that carries no arguments, or from one that an errand before handed out. -/
inductive Session (r : Resolver ι) (answer : (c : Call) → σ → Except Failure c.Answer × σ) :
    List (Errand × Work.Outcome ι Value σ) → Prop where
  | start : Session r answer []
  | next {past : List (Errand × Work.Outcome ι Value σ)} {q : Errand} {s : σ} : Session r answer past →
      (∀ parent ∈ q.parent?, parent.requestArgs = .empty ∨ ∃ p ∈ past, Gives p parent) →
      Session r answer (past ++ [(q, (q.work r).run answer s)])

variable {answer : (c : Call) → σ → Except Failure c.Answer × σ} {log : List (Errand × Work.Outcome ι Value σ)}

/-- One more errand hands out values without a fault, if those before did. -/
theorem sound_parent {past : List (Errand × Work.Outcome ι Value σ)} {q : Errand}
    (hpast : ∀ p ∈ past, ∀ v, Gives p v → v.requestArgs.Sound)
    (hparent : ∀ parent ∈ q.parent?, parent.requestArgs = .empty ∨ ∃ p ∈ past, Gives p parent) :
    ∀ parent ∈ q.parent?, parent.requestArgs.Sound := by
  intro parent hq
  rcases hparent parent hq with hempty | ⟨p, hp, hgives⟩
  · rw [hempty]
    exact RequestArgs.sound_empty
  · exact hpast p hp parent hgives

/-- Whatever is handed out in a session carries arguments without a fault. -/
theorem Session.sound (h : Session r answer log) : ∀ p ∈ log, ∀ v, Gives p v → v.requestArgs.Sound := by
  induction h with
  | start => exact fun _ hp => nomatch hp
  | next _ hparent ih =>
    intro p hp
    rcases List.mem_append.1 hp with hp | hp
    · exact ih p hp
    · obtain rfl := List.mem_singleton.1 hp
      exact fun v hv => sound_of_gives (sound_parent ih hparent) hv

theorem Session.regular (hdefault : 0 ≤ r.settings.defaultPageSize) (hmax : 0 ≤ r.settings.maxPageSize)
    (h : Session r answer log) : ∀ p ∈ log, ∀ c ∈ p.2.calls, p.1.Regular r.settings c := by
  induction h with
  | start => exact fun _ hp => nomatch hp
  | @next past q s hpast hparent ih =>
    intro p hp
    rcases List.mem_append.1 hp with hp | hp
    · exact ih p hp
    · obtain rfl := List.mem_singleton.1 hp
      exact asksOnly_work hdefault hmax q (sound_parent hpast.sound hparent) σ answer s

theorem Regular.operators {settings : Settings} {q : Errand} {c : Call} (h : q.Regular settings c) :
    KnownOperators c.conditions := by
  cases c with
  | count table conditions => exact h
  | select table args => exact h.1
  | find table keys => exact fun _ hc => nomatch hc
  | insert table values => exact fun _ hc => nomatch hc
  | update table keys values => exact fun _ hc => nomatch hc

end Errand

open Errand

/-- In every session, with any strings as filters and paginations and any relations followed in chains of any length,
all counts and selections are as they should be: all operators are known, no offset is negative, and the number of
rows is one, or for a page the default or the limit asked for under the maximum. So no table can find an operator
that it does not know. -/
theorem session_regular {ι σ : Type} (r : Resolver ι) (hdefault : 0 ≤ r.settings.defaultPageSize)
    (hmax : 0 ≤ r.settings.maxPageSize) {answer : (c : Call) → σ → Except Failure c.Answer × σ}
    {log : List (Errand × Work.Outcome ι Value σ)} (h : Session r answer log) :
    ∀ p ∈ log, ∀ c ∈ p.2.calls, p.1.Regular r.settings c ∧
      ∀ (t : TableShape) (name : String), t.compareAll c.conditions ≠ .error (.request (.unknownOperator name)) := by
  intro p hp c hc
  have hregular := h.regular hdefault hmax p hp c hc
  exact ⟨hregular, fun t name => hregular.operators.compareAll t name⟩

/-- One folder, which is in itself. -/
def oneFolder (c : Call) (s : Unit) : Except Failure c.Answer × Unit :=
  match c with
  | .count .. => (.ok 1, s)
  | .select .. => (.ok [[("id", .int 7), ("parent_id", .int 7)]], s)
  | _ => (.error (.database .general), s)

def folderPageArgs : Args :=
  [("filter", .text "depth>=2|parent:name~a:b"), ("pagination", .text "limit=1000|folders:offset=3|parent:limit=5")]

/-- More rows are asked for than the settings allow, and the parent of the row found is followed. -/
theorem folders_regular :
    let r : Resolver Unit := { connected := true }
    let page := Errand.page (some "folders") folderPageArgs
    let listed := (page.work r).run oneFolder ()
    ∃ folder, Gives (page, listed) folder ∧
      let followed := ((Errand.related parentFolder folder []).work r).run oneFolder ()
      let log := [(page, listed), (.related parentFolder folder [], followed)]
      Session r oneFolder log ∧
      (log.flatMap fun p => p.2.calls) =
        [.count (some "folders") [⟨"depth", "gte", .text "2"⟩],
          .select (some "folders")
            { conditions := [⟨"depth", "gte", .text "2"⟩], limit := some 100, offset := 3, order := [] },
          .select (some "folders")
            { conditions := [⟨"name", "like", .text "a:b"⟩, ⟨"id", "eq", .int 7⟩], limit := some 1,
              offset := 0, order := [] }] ∧
      ∀ p ∈ log, ∀ c ∈ p.2.calls, p.1.Regular r.settings c ∧
        ∀ (t : TableShape) (name : String), t.compareAll c.conditions ≠ .error (.request (.unknownOperator name)) := by
  intro r page listed
  let root : RequestArgs := {
    scopes :=
      [(none, { conditions := [⟨"depth", "gte", "2"⟩], limit := some 1000 }),
        (some "parent", { conditions := [⟨"name", "like", "a:b"⟩], limit := some 5 }),
        (some "folders", { offset := 3 })] }
  let folder := Value.record [("id", .int 7), ("parent_id", .int 7)] root
  have hpage : listed.result = .ok (.map [("total", .int 1), ("items", .list [folder])]) := rfl
  have hgives : Gives (page, listed) folder := .item hpage rfl List.mem_cons_self
  have hlisted : Session r oneFolder [(page, listed)] := .next .start (fun _ h => nomatch h)
  have hparent : ∀ parent ∈ (Errand.related parentFolder folder []).parent?,
      parent.requestArgs = .empty ∨ ∃ p ∈ [(page, listed)], Gives p parent := by
    rintro parent ⟨⟩
    exact .inr ⟨_, List.mem_cons_self, hgives⟩
  have hsession := Session.next (s := ()) hlisted hparent
  exact ⟨folder, hgives, hsession, rfl, session_regular r (by decide) (by decide) hsession⟩

end TableGraph
