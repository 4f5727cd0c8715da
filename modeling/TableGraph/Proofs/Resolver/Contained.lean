import TableGraph.Proofs.Resolver.Errands
import TableGraph.Proofs.Resolver.Pages
import TableGraph.Proofs.Store.Failures

/-! # Failures that stay with their errand

An errand that fails because of its data leaves null, reports what was lost, and changes nothing. Only other failures
reach the caller: without a database, with arguments that are not understood at all, or from a question that is not
answered. This holds of every database that can be relied on (`Errand.work_ends`). A store does not answer for failures
of data or for one of the reasons of `Unanswerable` (`Store.Database.answer_error`).
-/
namespace TableGraph
open Store Chain

namespace Store.Database
variable {known : List String} {db : Database} {c : Call} {e : Failure}

/-- A question that fails has a table that is not known, fails because of its data, or cannot be answered. -/
theorem answer_error (h : (db.answer known c).1 = .error e) : e.isData = true ∨
    ∃ name t, db.tableNamed known c.table = .ok (name, t) ∧ t.Unanswerable db.returning name c e := by
  have hasked {α : Type} {table : Option String} {f : String × StoredTable → Except Failure α}
      (h : (db.tableNamed known table).bind f = .error e) :
      e.isData = true ∨ ∃ name t, db.tableNamed known table = .ok (name, t) ∧ f (name, t) = .error e := by
    rcases bind_eq_error.1 h with h | ⟨⟨name, t⟩, hnamed, h⟩
    · exact .inl (Resolver.isData_of_tableNamed h)
    · exact .inr ⟨name, t, hnamed, h⟩
  have hwritten {table : Option String} {f : String → StoredTable → Except Failure (Option Row × StoredTable)}
      (h : (db.write known table f).1 = .error e) :
      e.isData = true ∨ ∃ name t, db.tableNamed known table = .ok (name, t) ∧ f name t = .error e := by
    unfold write at h
    cases hnamed : db.tableNamed known table with
    | error fault =>
      rw [hnamed] at h
      cases h
      exact .inl (Resolver.isData_of_tableNamed hnamed)
    | ok p =>
      rw [hnamed] at h
      refine .inr ⟨p.1, p.2, rfl, ?_⟩
      cases hf : f p.1 p.2 with
      | error fault => simpa [hf] using h
      | ok q => simp [hf] at h
  cases c with
  | count table conditions =>
    rcases hasked h with h | ⟨name, t, hnamed, h⟩
    · exact .inl h
    · exact (StoredTable.count_error h).imp_right fun h => ⟨name, t, hnamed, h⟩
  | select table args =>
    rcases hasked h with h | ⟨name, t, hnamed, h⟩
    · exact .inl h
    · exact (StoredTable.select_unanswerable h).imp_right fun h => ⟨name, t, hnamed, h⟩
  | find table keys =>
    rcases hasked h with h | ⟨name, t, hnamed, h⟩
    · exact .inl h
    · exact (StoredTable.find_error h).imp_right fun h => ⟨name, t, hnamed, h⟩
  | insert table values =>
    rcases hwritten h with h | ⟨name, t, hnamed, h⟩
    · exact .inl h
    · exact (StoredTable.insert_error h).imp_right fun h => ⟨name, t, hnamed, h⟩
  | update table keys values =>
    rcases hwritten h with h | ⟨name, t, hnamed, h⟩
    · exact .inl h
    · exact (StoredTable.update_error h).imp_right fun h => ⟨name, t, hnamed, h⟩

end Store.Database

namespace Errand
open Resolver
variable {ι σ : Type} {r : Resolver ι} {answer : (c : Call) → σ → Except Failure c.Answer × σ} {s : σ}

/-- A question that is not answered. -/
abbrev Refuses (answer : (c : Call) → σ → Except Failure c.Answer × σ) (s : σ) (c : Call) (e : Failure) : Prop :=
  (answer c s).1 = .error e

/-- What an attempt comes to. Nothing is reported, and all questions are about the table of the errand. If there is a
result, then every question was answered, and a result that is not null was asked for. A failure has its origin in the
arguments, in a question that was not answered, or in the want of a database, and it changes nothing. -/
structure Attempted (r : Resolver ι) (answer : (c : Call) → σ → Except Failure c.Answer × σ) (s : σ) (q : Errand)
    (o : Work.Outcome ι Value σ) : Prop where
  silent : o.events = []
  about : ∀ c ∈ o.calls, c.table = q.table
  asked : ∀ v, o.result = .ok v → v = .null ∨ o.calls ≠ []
  answered : ∀ v, o.result = .ok v → (∀ e, ¬ q.Misread e) ∧ ∀ c ∈ o.calls, ∀ e, ¬ Refuses answer s c e
  failed : ∀ e, o.result = .error e → o.state = s ∧
    (r.connected = false ∧ e = .config .noConnection ∨ q.Misread e ∨ ∃ c ∈ o.calls, Refuses answer s c e)

section Attempted
variable {q : Errand}

theorem attempted_unconnected (hconnected : r.connected = false) :
    Attempted r answer s q ⟨.error (.config .noConnection), s, []⟩ where
  silent := rfl
  about := fun _ hc => nomatch hc
  asked := fun _ h => nomatch h
  answered := fun _ h => nomatch h
  failed := fun e h => by
    cases h
    exact ⟨rfl, .inl ⟨hconnected, rfl⟩⟩

theorem attempted_misread {e : Failure} (h : q.Misread e) : Attempted r answer s q ⟨.error e, s, []⟩ where
  silent := rfl
  about := fun _ hc => nomatch hc
  asked := fun _ h => nomatch h
  answered := fun _ h => nomatch h
  failed := fun fault hfault => by
    cases hfault
    exact ⟨rfl, .inr (.inl h)⟩

/-- An attempt that ends with the answer to one question. -/
theorem attempted_request (h : Reliable answer) (hread : ∀ e, ¬ q.Misread e) (c : Call) (htable : c.table = q.table) (k : c.Answer → Value) :
    Attempted r answer s q (((Work.request c : Work ι c.Answer).bind fun x => .done (.ok (k x))).run
      answer s) := by
  have hrun : ((Work.request c : Work ι c.Answer).bind fun x => .done (.ok (k x))).run answer s =
      ⟨(answer c s).1.map k, (answer c s).2, [.call c]⟩ := by
    change (Work.ask c _).run answer s = _
    rw [Work.run_ask]
    cases (answer c s).1 <;> rfl
  rw [hrun]
  refine ⟨rfl, fun d hd => List.mem_singleton.1 hd ▸ htable, fun v _ => .inr (List.cons_ne_nil _ _),
    fun v hv => ⟨hread, fun d hd e he => ?_⟩, fun e he => ?_⟩
  · obtain rfl := List.mem_singleton.1 hd
    obtain ⟨x, hx, -⟩ := map_eq_ok.1 hv
    cases hx.symm.trans he
  · have hrefuses := map_eq_error.1 he
    exact ⟨h.failed hrefuses, .inr (.inr ⟨c, List.mem_singleton_self c, hrefuses⟩)⟩

theorem bothAnswers_error {α β : Type} {x : Except Failure α} {y : Except Failure β} {e : Failure}
    (h : bothAnswers x y = .error e) : x = .error e ∨ y = .error e := by
  unfold bothAnswers at h
  split at h
  · cases h
  · exact .inl (congrArg Except.error (Except.error.inj h))
  · exact .inr (congrArg Except.error (Except.error.inj h))
  · split at h
    · exact .inr (congrArg Except.error (Except.error.inj h))
    · exact .inl (congrArg Except.error (Except.error.inj h))

theorem attempted_page (h : Reliable answer) (hread : ∀ e, ¬ q.Misread e) {table : Option String} (htable : table = q.table)
    (scope : ScopeArgs String) (request : RequestArgs) :
    Attempted r answer s q ((r.pageOf table scope request).run answer s) := by
  have hrun : (r.pageOf table scope request).run answer s =
      ⟨pageOfAnswers request (answer (pageCount table scope) s).1 (answer (r.pageSelect table scope) s).1, s,
        [.call (pageCount table scope), .call (r.pageSelect table scope)]⟩ := by
    have hcount : (answer (pageCount table scope) s).2 = s := h.reads rfl s
    have hselect : (answer (r.pageSelect table scope) s).2 = s := h.reads rfl s
    dsimp only [pageOf]
    rw [Work.run_both, hcount, hselect, pageOfAnswers]
    cases bothAnswers (answer (pageCount table scope) s).1 (answer (r.pageSelect table scope) s).1 <;> rfl
  rw [hrun]
  refine ⟨rfl, fun c hc => ?_, fun v _ => .inr (List.cons_ne_nil _ _), fun v hv => ⟨hread, fun c hc e he => ?_⟩,
    fun e he => ⟨rfl, .inr (.inr ?_)⟩⟩
  · rcases List.mem_cons.1 hc with rfl | hc
    · exact htable
    · exact List.mem_singleton.1 hc ▸ htable
  · obtain ⟨⟨total, rows⟩, hboth, -⟩ := map_eq_ok.1 hv
    obtain ⟨hcount, hselect⟩ := bothAnswers_ok.1 hboth
    rcases List.mem_cons.1 hc with rfl | hc
    · cases hcount.symm.trans he
    · obtain rfl := List.mem_singleton.1 hc
      cases hselect.symm.trans he
  · rcases bothAnswers_error (map_eq_error.1 he) with hcount | hselect
    · exact ⟨_, List.mem_cons_self, hcount⟩
    · exact ⟨_, List.mem_cons_of_mem _ (List.mem_singleton_self _), hselect⟩

/-- Two questions one after the other, the first of which changes nothing. -/
theorem Attempted.preceded {o : Work.Outcome ι Value σ} (h : Attempted r answer s q o) {c : Call}
    (htable : c.table = q.table) (hanswered : ∀ e, ¬ Refuses answer s c e) :
    Attempted r answer s q (o.precededBy [.call c]) where
  silent := h.silent
  about := fun d hd => by
    rcases List.mem_cons.1 hd with rfl | hd
    · exact htable
    · exact h.about d hd
  asked := fun _ _ => .inr (List.cons_ne_nil _ _)
  answered := fun v hv => by
    refine ⟨(h.answered v hv).1, fun d hd => ?_⟩
    rcases List.mem_cons.1 hd with rfl | hd
    · exact hanswered
    · exact (h.answered v hv).2 d hd
  failed := fun e he => by
    obtain ⟨hstate, horigin⟩ := h.failed e he
    exact ⟨hstate, horigin.imp_right fun h => h.imp_right fun ⟨d, hd, hrefuses⟩ =>
      ⟨d, List.mem_cons_of_mem _ hd, hrefuses⟩⟩

theorem attempted_write (h : Reliable answer) (hread : ∀ e, ¬ q.Misread e) {table : Option String} (htable : table = q.table)
    (key : List String) (values : Row) :
    Attempted r answer s q (((write table key values : Work ι (Option Row)).bind fun row =>
      .done (.ok (recordOr row))).run answer s) := by
  rw [write_eq]
  split
  · rw [Work.bind_assoc]
    change Attempted r answer s q ((Work.ask (.find table (keyValues key values)) _).run answer s)
    rw [Work.run_ask]
    have hstate : (answer (.find table (keyValues key values)) s).2 = s := h.reads rfl s
    rw [hstate]
    cases hfind : (answer (.find table (keyValues key values)) s).1 with
    | error e =>
      refine ⟨rfl, fun c hc => List.mem_singleton.1 hc ▸ htable, fun v _ => .inr (List.cons_ne_nil _ _),
        fun v h => ?_, fun fault hfault => ?_⟩
      · cases h
      cases hfault
      exact ⟨rfl, .inr (.inr ⟨_, List.mem_singleton_self _, hfind⟩)⟩
    | ok found =>
      have hanswered : ∀ e, ¬ Refuses answer s (.find table (keyValues key values)) e := fun e he => by
        cases hfind.symm.trans he
      refine Attempted.preceded (c := .find table (keyValues key values)) ?_ htable hanswered
      cases found with
      | none => exact attempted_request h hread (.insert table values) htable recordOr
      | some row =>
        let update : Call := .update table (keyValues key values) (otherValues key values)
        exact attempted_request h hread update htable recordOr
  · exact attempted_request h hread (.insert table values) htable recordOr

end Attempted

/-- A relation without a key leads nowhere, and nothing is asked. -/
theorem attempted_unkeyed {rel : Relation} {parent : Value} {args : Args}
    (hkey : (parent.member rel.column).isNull = true) :
    Attempted (ι := ι) r answer s (.related rel parent args) ⟨.ok .null, s, []⟩ where
  silent := rfl
  about := fun _ hc => nomatch hc
  asked := fun _ h => .inl (Except.ok.inj h).symm
  answered := fun _ _ => ⟨fun _ h => (by cases hkey.symm.trans h.1), fun _ hc => (nomatch hc)⟩
  failed := fun _ h => nomatch h

theorem attempted_follow (h : Reliable answer) {rel : Relation} {parent : Value} {args : Args}
    (hkey : (parent.member rel.column).isNull = false) :
    Attempted r answer s (.related rel parent args)
      ((follow rel parent args : Work ι Value).run answer s) := by
  cases hown : requestArgs args with
  | error e =>
    have hrun : (follow rel parent args : Work ι Value).run answer s = ⟨.error e, s, []⟩ := by
      rw [follow, hown]
      rfl
    rw [hrun]
    exact attempted_misread ⟨hkey, .inl hown⟩
  | ok own =>
    cases hinherited : inheritedArgs parent with
    | error e =>
      have hrun : (follow rel parent args : Work ι Value).run answer s = ⟨.error e, s, []⟩ := by
        rw [follow, hown, hinherited]
        rfl
      rw [hrun]
      exact attempted_misread ⟨hkey, .inr hinherited⟩
    | ok inherited =>
      have hread : ∀ e, ¬ Misread (.related rel parent args) e := by
        rintro e ⟨-, h | h⟩
        · cases hown.symm.trans h
        · cases hinherited.symm.trans h
      rw [follow, hown, hinherited]
      exact attempted_request h hread (.select (some rel.referencedTable) _) rfl fun rows => (records _ rows).headD .null

/-- Every attempt of an errand on a database that can be relied on. -/
theorem attempt_attempted (h : Reliable answer) (r : Resolver ι) (s : σ) (q : Errand) :
    Attempted r answer s q ((q.attempt r).run answer s) := by
  have hunconnected (hno : ¬ r.connected = true) (w : Work ι Value) :
      Attempted r answer s q ((r.requireConnection w).run answer s) := by
    rw [requireConnection, if_neg hno]
    exact attempted_unconnected (Bool.not_eq_true _ ▸ hno)
  by_cases hconnected : r.connected = true
  · cases q with
    | page table args =>
      rw [attempt, requireConnection, if_pos hconnected]
      cases hrequest : requestArgs args with
      | error e => exact attempted_misread hrequest
      | ok request =>
        exact attempted_page h (fun e h => by cases hrequest.symm.trans h) rfl (request.forRoot table) request
    | first table args =>
      rw [attempt, requireConnection, if_pos hconnected]
      cases hrequest : requestArgs args with
      | error e => exact attempted_misread hrequest
      | ok request =>
        exact attempted_request h (fun e h => by cases hrequest.symm.trans h) (.select table _) rfl
          fun rows => (records request rows).headD .null
    | put table args =>
      rw [attempt, requireConnection, if_pos hconnected]
      cases hsupplied : suppliedValues args with
      | error e => exact attempted_misread hsupplied
      | ok supplied => exact attempted_write h (fun e h => by cases hsupplied.symm.trans h) rfl _ _
    | related rel parent args =>
      rw [attempt]
      split
      · rename_i hkey
        exact attempted_unkeyed hkey
      · rename_i hkey
        rw [requireConnection, if_pos hconnected]
        exact attempted_follow h (Bool.not_eq_true _ ▸ hkey)
  · cases q with
    | related rel parent args =>
      rw [attempt]
      split
      · rename_i hkey
        exact attempted_unkeyed hkey
      · exact hunconnected hconnected _
    | _ => exact hunconnected hconnected _

/-- How every errand ends on a database that can be relied on: it gives a result, it is lost, or it fails. -/
theorem work_ends (h : Reliable answer) (r : Resolver ι) (s : σ) (q : Errand) :
    let o := (q.work r).run answer s
    (∃ v, o.result = .ok v ∧ o.events = [] ∧ (∀ e, ¬ q.Misread e) ∧ ∀ c ∈ o.calls, ∀ e, ¬ Refuses answer s c e) ∨
    (∃ e, e.isData = true ∧ (q.Misread e ∨ ∃ c ∈ o.calls, Refuses answer s c e) ∧ o.result = .ok .null ∧
      o.events = [.lost q.loss e] ∧ o.state = s) ∨
    (∃ e, e.isData = false ∧ (r.connected = false ∧ e = .config .noConnection ∨ q.Misread e ∨
      ∃ c ∈ o.calls, Refuses answer s c e) ∧ o.result = .error e ∧ o.events = [] ∧ o.state = s) := by
  dsimp only
  have hattempted := attempt_attempted h r s q
  rw [run_work]
  generalize (q.attempt r).run answer s = a at hattempted ⊢
  rw [Work.Outcome.calls_contained, Work.Outcome.state_contained]
  cases hresult : a.result with
  | ok v =>
    rw [Work.Outcome.contained_of_ok hresult]
    exact .inl ⟨v, hresult, hattempted.silent, hattempted.answered v hresult⟩
  | error e =>
    obtain ⟨hstate, horigin⟩ := hattempted.failed e hresult
    cases hdata : e.isData with
    | true =>
      rw [Work.Outcome.contained_of_data hresult hdata]
      refine .inr (.inl ⟨e, hdata, ?_, rfl, ?_, hstate⟩)
      · rcases horigin with ⟨-, rfl⟩ | horigin
        · cases hdata
        · exact horigin
      · have hsilent := hattempted.silent
        simp only [Work.Outcome.events] at hsilent ⊢
        rw [List.filterMap_append, hsilent]
        rfl
    | false =>
      rw [Work.Outcome.contained_of_stays hresult hdata]
      exact .inr (.inr ⟨e, hdata, horigin, hresult, hattempted.silent, hstate⟩)

/-- What an errand that goes well has behind it: arguments that are understood, and an answer to every question. -/
def Undisturbed (known : List String) (db : Database) (q : Errand) (calls : List Call) : Prop :=
  (∀ e, ¬ q.Misread e) ∧ ∀ c ∈ calls, ∀ e, ¬ Refuses (Database.answer known) db c e

/-- What an errand loses its data by: arguments that cannot be read, or a question that is not answered. -/
def LosesBy (known : List String) (db : Database) (q : Errand) (calls : List Call) (e : Failure) : Prop :=
  e.isData = true ∧ (q.Misread e ∨ ∃ c ∈ calls, Refuses (Database.answer known) db c e)

/-- What an errand fails by so that its caller sees it: there is no database, or no input or parent is understood, or a
question to a known table cannot be answered for a reason that is no failure of data. -/
def FailsBy (r : Resolver ι) (known : List String) (db : Database) (q : Errand) (calls : List Call) (e : Failure) :
    Prop :=
  e.isData = false ∧ (r.connected = false ∧ e = .config .noConnection ∨ q.Misread e ∨
    ∃ c ∈ calls, Refuses (Database.answer known) db c e ∧
      ∃ name t, db.tableNamed known c.table = .ok (name, t) ∧ t.Unanswerable db.returning name c e)

end Errand

/-- How every errand ends. It gives a result and reports nothing, and then its arguments are understood and all its
questions are answered. Or it is lost by a failure of data, and then it leaves null, reports just this loss and changes
nothing. Or it fails by one of few reasons that are no failures of data, and it changes nothing then either. -/
theorem failures_contained {ι : Type} (r : Resolver ι) (known : List String) (db : Database) (q : Errand) :
    let o := (q.work r).run (Database.answer known) db
    (∃ v, o.result = .ok v ∧ o.events = [] ∧ q.Undisturbed known db o.calls) ∨
    (∃ e, q.LosesBy known db o.calls e ∧ o.result = .ok .null ∧ o.events = [.lost q.loss e] ∧ o.state = db) ∨
    (∃ e, q.FailsBy r known db o.calls e ∧ o.result = .error e ∧ o.events = [] ∧ o.state = db) := by
  dsimp only
  rcases Errand.work_ends (Resolver.reliable_answer known) r db q with hgiven | ⟨e, hdata, horigin, hlost⟩ |
    ⟨e, hdata, horigin, hfails⟩
  · exact .inl hgiven
  · exact .inr (.inl ⟨e, ⟨hdata, horigin⟩, hlost⟩)
  · refine .inr (.inr ⟨e, ⟨hdata, horigin.imp_right fun h => h.imp_right fun ⟨c, hc, hrefuses⟩ => ?_⟩, hfails⟩)
    refine ⟨c, hc, hrefuses, (Database.answer_error hrefuses).resolve_left fun h => ?_⟩
    cases hdata.symm.trans h

/-- Goods and how many there are of them. -/
def stockTable : StoredTable where
  name := "stock"
  columns := [{ name := "id", declared := "INTEGER", primary := true }, { name := "amount", declared := "INTEGER" }]
  rows := [[.int 1, .int 5]]

def stockResolver : Resolver Unit where
  connected := true
  schema := some ⟨[⟨"stock", [⟨"id", "INTEGER", false, true, .text⟩, ⟨"amount", "INTEGER", true, false, .text⟩], [],
    true⟩]⟩

def stockOfOrder : Relation := ⟨"Orders", "stock", "orders", "stock_id", "stock", "id"⟩

/-- With an integer beyond 64 bits each of the four errands fails: as the value of a filter, as the offset, among the
columns to write, and as the key in a parent row. -/
theorem beyond_not_contained :
    let result (q : Errand) :=
      ((q.work stockResolver).run (Database.answer ["stock"]) { tables := [stockTable] }).result
    Failure.isData .outOfRange = false ∧
      result (.page (some "stock") [("filter", .text "id=99999999999999999999")]) = .error .outOfRange ∧
      result (.first (some "stock") [("pagination", .text "offset=99999999999999999999")]) = .error .outOfRange ∧
      result (.put (some "stock") [("amount", .int 99999999999999999999)]) = .error .outOfRange ∧
      result (.related stockOfOrder (.record [("stock_id", .int 99999999999999999999)] .empty) []) =
        .error .outOfRange := by
  refine ⟨rfl, ?_, ?_, ?_, ?_⟩ <;> rfl

end TableGraph
