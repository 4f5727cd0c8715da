import TableGraph.Proofs.Store.Select
import TableGraph.Proofs.Work
import TableGraph.Resolver.Retrieve

/-! # What is asked of a database

Getting a page, a first row, or the row that a relation leads to, asks a database a question or two, and what comes of
it is put together from the answers, whatever database it is (`run_page`, `run_first`, `run_related`). Little else is
relied on: reading leaves a database as it is, and so does a question that fails (`Reliable`). A store is such a
database (`reliable_answer`).
-/
namespace TableGraph

namespace Resolver
variable {ι σ : Type}

/-! ## Databases -/

/-- A database that is as before after a question that only reads, and after one that fails. -/
structure Reliable (answer : (c : Call) → σ → Except Failure c.Answer × σ) : Prop where
  reads {c : Call} (hc : c.writes = false) (s : σ) : (answer c s).2 = s
  failed {c : Call} {s : σ} {e : Failure} (h : (answer c s).1 = .error e) : (answer c s).2 = s

section Store
variable {known : List String} {db : Store.Database} {table : Option String}

theorem write_cases (f : String → Store.StoredTable → Except Failure (Option Row × Store.StoredTable)) :
    (∃ e, db.write known table f = (.error e, db)) ∨
      ∃ name t found u, db.tableNamed known table = .ok (name, t) ∧ f name t = .ok (found, u) ∧
        db.write known table f = (.ok found, db.replace u) := by
  unfold Store.Database.write
  cases ht : db.tableNamed known table with
  | error e => exact .inl ⟨e, rfl⟩
  | ok p =>
    obtain ⟨name, t⟩ := p
    cases hf : f name t with
    | error e => exact .inl ⟨e, by simp only [hf]⟩
    | ok q =>
      obtain ⟨found, u⟩ := q
      exact .inr ⟨name, t, found, u, rfl, hf, by simp only [hf]⟩

/-- A store is left as it is by a question that fails, and by one that only reads. -/
theorem reliable_answer (known : List String) : Reliable (Store.Database.answer known) where
  reads {c} hc s := by
    cases c with
    | insert table values => cases hc
    | update table keys values => cases hc
    | _ => rfl
  failed {c db e} h := by
    have hwrite {table : Option String}
        {f : String → Store.StoredTable → Except Failure (Option Row × Store.StoredTable)}
        (h : (db.write known table f).1 = .error e) : (db.write known table f).2 = db := by
      rcases @write_cases known db table f with ⟨fault, hfails⟩ | ⟨name, t, found, u, -, -, hdone⟩
      · exact congrArg Prod.snd hfails
      · cases (congrArg Prod.fst hdone).symm.trans h
    cases c with
    | insert table values => exact hwrite h
    | update table keys values => exact hwrite h
    | _ => rfl

end Store

/-! ## What is understood of the arguments -/

theorem toList_givenText (s : String) : (Value.text s).givenText.toList = s.toList := by
  by_cases hs : s = ""
  · subst hs
    rfl
  · simp [Value.givenText, Value.text, Value.isGiven, Scalar.isGiven, Value.display, Scalar.display, hs]

/-- The arguments of a request with a filter only. -/
theorem requestArgs_filter (filter : String) :
    requestArgs [("filter", .text filter)] = (Request.parse filter.toList []).mapError .request := by
  rw [← toList_givenText filter]
  rfl

/-! ## What becomes of a failure -/

/-- A failure of data leaves null. -/
def settled (x : Except Failure Value) : Except Failure Value :=
  match x with
  | .ok v => .ok v
  | .error e => if e.isData then .ok .null else .error e

theorem settled_eq_ok {x : Except Failure Value} {v : Value} (h : settled x = .ok v) : x = .ok v ∨ v = .null := by
  unfold settled at h
  split at h
  · exact .inl h
  · split at h
    · exact .inr (Except.ok.inj h).symm
    · cases h

theorem settled_eq_error {x : Except Failure Value} {e : Failure} (h : settled x = .error e) :
    x = .error e ∧ e.isData = false := by
  unfold settled at h
  split at h
  · cases h
  · split at h
    · cases h
    · rename_i hdata
      cases h
      exact ⟨rfl, Bool.not_eq_true _ ▸ hdata⟩

theorem run_orNull (answer : (c : Call) → σ → Except Failure c.Answer × σ) (loss : Loss)
    (w : Work ι Value) (s : σ) :
    ((Work.orNull loss w).run answer s).result = settled (w.run answer s).result ∧
      ((Work.orNull loss w).run answer s).state = (w.run answer s).state := by
  rw [Work.run_contained, Work.Outcome.state_contained]
  refine ⟨?_, rfl⟩
  cases hw : (w.run answer s).result with
  | ok v => rw [Work.Outcome.contained_of_ok hw, hw, settled]
  | error e =>
    cases hdata : e.isData with
    | true => simp only [Work.Outcome.contained_of_data hw hdata, settled, hdata, if_true]
    | false => simp [Work.Outcome.contained_of_stays hw hdata, hw, settled, hdata]

theorem run_request (answer : (c : Call) → σ → Except Failure c.Answer × σ) (loss : Loss) (call : Call)
    (k : call.Answer → Value) (s : σ) :
    let o := (Work.orNull loss (do let x ← .request call; return k x) : Work ι Value).run answer s
    o.result = settled (do let x ← (answer call s).1; return k x) ∧ o.state = (answer call s).2 := by
  let w : Work ι Value := do
    let x ← .request call
    return k x
  have hw : (w.run answer s).result = (do let x ← (answer call s).1; return k x) ∧
      (w.run answer s).state = (answer call s).2 := by
    change ((Work.ask call _).run answer s).result = _ ∧ ((Work.ask call _).run answer s).state = _
    rw [Work.run_ask]
    cases (answer call s).1 <;> exact ⟨rfl, rfl⟩
  obtain ⟨hresult, hstate⟩ := run_orNull answer loss w s
  exact ⟨hresult.trans (congrArg settled hw.1), hstate.trans hw.2⟩

/-! ## A page -/

/-- A page: how many rows there are in all, and some of them. -/
def pageValue (total : Int) (args : RequestArgs) (rows : List Row) : Value :=
  .map [("total", .int total), ("items", .list (records args rows))]

theorem records_inj {args args' : RequestArgs} {rows rows' : List Row} (h : records args rows = records args' rows') :
    rows = rows' := by
  induction rows generalizing rows' with
  | nil => exact (List.map_eq_nil_iff.1 h.symm).symm
  | cons row rest ih =>
    cases rows' with
    | nil => cases h
    | cons row' rest' =>
      obtain ⟨hhead, htail⟩ := List.cons.inj h
      rw [(Value.record.inj hhead).1, ih htail]

theorem pageValue_inj {total total' : Int} {args args' : RequestArgs} {rows rows' : List Row}
    (h : pageValue total args rows = pageValue total' args' rows') : total = total' ∧ rows = rows' := by
  simp only [pageValue, Value.map.injEq, List.cons.injEq, Prod.mk.injEq, Value.int, Value.scalar.injEq,
    Scalar.int.injEq, Value.list.injEq, and_true, true_and] at h
  exact ⟨h.1, records_inj h.2⟩

theorem bothAnswers_ok {α β : Type} {x : Except Failure α} {y : Except Failure β} {a : α} {b : β} :
    bothAnswers x y = .ok (a, b) ↔ x = .ok a ∧ y = .ok b := by
  cases x <;> cases y <;> simp [bothAnswers]

/-- What the two answers of a page are put together to. -/
def pageOfAnswers (args : RequestArgs) (total : Except Failure Int) (rows : Except Failure (List Row)) :
    Except Failure Value :=
  (bothAnswers total rows).map fun p => pageValue p.1 args p.2

/-- How many rows a page is taken of. -/
abbrev pageCount (table : Option String) (scope : ScopeArgs String) : Call :=
  .count table (scope.conditions.map Condition.toCall)

/-- The rows of a page. -/
abbrev pageSelect (r : Resolver ι) (table : Option String) (scope : ScopeArgs String) : Call :=
  .select table ⟨scope.conditions.map Condition.toCall, some (r.settings.clampLimit scope.limit), scope.offset,
    scope.order⟩

/-- A page is asked for by two questions at once, and put together from their answers. -/
theorem page_eq (r : Resolver ι) (table : Option String) {args : Args} (hconnected : r.connected = true)
    {request : RequestArgs} (hrequest : requestArgs args = .ok request) :
    r.page table args = .both (pageCount table (request.forRoot table)) (r.pageSelect table (request.forRoot table))
      fun total rows => .orNull (.page table) (.ofExcept (pageOfAnswers request total rows)) := by
  have hanswers (total : Except Failure Int) (rows : Except Failure (List Row)) : (do
      let (total, rows) ← bothAnswers total rows
      return .map [("total", .int total), ("items", .list (records request rows))] : Except Failure Value) =
        pageOfAnswers request total rows := by
    rw [pageOfAnswers]
    cases bothAnswers total rows <;> rfl
  rw [page, requireConnection, if_pos hconnected, hrequest]
  simp only [← hanswers]
  rfl

/-- Arguments that cannot be read leave null. -/
theorem page_unread (r : Resolver ι) (table : Option String) {args : Args} (hconnected : r.connected = true)
    {e : Failure} (hrequest : requestArgs args = .error e) :
    r.page table args = .orNull (.page table) (.fail e) := by
  rw [page, requireConnection, if_pos hconnected, hrequest]
  rfl

section Run
variable {r : Resolver ι} {answer : (c : Call) → σ → Except Failure c.Answer × σ} {s : σ}

theorem connected_of_page {table : Option String} {args : Args} {v : Value}
    (h : ((r.page table args).run answer s).result = .ok v) : r.connected = true := by
  by_contra hno
  rw [page, requireConnection, if_neg hno] at h
  cases h

theorem ne_null_pageValue (total : Int) (args : RequestArgs) (rows : List Row) : pageValue total args rows ≠ .null := by
  simp [pageValue, Value.null]

/-- What a page comes to. -/
theorem run_page (hconnected : r.connected = true) (table : Option String) (args : Args) :
    ((r.page table args).run answer s).result = settled (do
      let request ← requestArgs args
      let count := pageCount table (request.forRoot table)
      let select := r.pageSelect table (request.forRoot table)
      pageOfAnswers request (answer count s).1 (answer select (answer count s).2).1) := by
  cases hrequest : requestArgs args with
  | error e =>
    rw [page_unread r table hconnected hrequest]
    exact (run_orNull answer (.page table) (.fail e) s).1
  | ok request =>
    rw [page_eq r table hconnected hrequest, Work.run_both]
    exact (run_orNull _ _ _ _).1

end Run

/-! ## A first row -/

/-- What the select of a first row asks for. -/
def firstScope (table : Option String) (request : RequestArgs) : ScopeArgs Value :=
  { callScope (request.forRoot table) with limit := some 1 }

/-- What asking for the first row comes to. -/
theorem run_first {r : Resolver ι} {answer : (c : Call) → σ → Except Failure c.Answer × σ} {s : σ}
    (hconnected : r.connected = true) (table : Option String) (args : Args) :
    ((r.first table args).run answer s).result = settled (do
      let request ← requestArgs args
      let rows ← (answer (.select table (firstScope table request)) s).1
      return (records request rows).headD .null) := by
  rw [first, requireConnection, if_pos hconnected]
  cases requestArgs args with
  | error e => exact (run_orNull answer (.first table) (.fail e) s).1
  | ok request =>
    exact (run_request answer (.first table) (.select table (firstScope table request))
      (fun rows => (records request rows).headD .null) s).1

/-! ## The row that a relation leads to -/

/-- The value of the foreign key in the row. -/
def keyValue (rel : Relation) (row : Row) : Value := (row.get? rel.column).getD .null

/-- The request that goes on with the row found. -/
def passedOn (rel : Relation) (inherited own : RequestArgs) : RequestArgs := inherited.overlay (ownScope rel.field own)

/-- What is asked of the referenced table. -/
def asked (rel : Relation) (row : Row) (inherited own : RequestArgs) : ScopeArgs Value :=
  let scope := callScope ((passedOn rel inherited own).forScope rel.field)
  { scope with
    conditions := scope.conditions ++ [Store.StoredTable.keyed rel.referencedColumn (keyValue rel row)]
    limit := some 1 }

/-- What following a relation from a row comes to, given the answers of a database. -/
def relatedResult (r : Resolver ι) (answer : (c : Call) → σ → Except Failure c.Answer × σ) (s : σ) (rel : Relation)
    (row : Row) (inherited : RequestArgs) (args : Args) : Except Failure Value :=
  if (keyValue rel row).isNull then .ok .null
  else if r.connected then settled do
    let own ← requestArgs args
    let rows ← (answer (.select (some rel.referencedTable) (asked rel row inherited own)) s).1
    return (records (passedOn rel inherited own) rows).headD .null
  else .error (.config .noConnection)

theorem run_related {answer : (c : Call) → σ → Except Failure c.Answer × σ} (h : Reliable answer) (r : Resolver ι)
    (s : σ) (rel : Relation) (row : Row) (inherited : RequestArgs) (args : Args) :
    let o := (r.related rel (.record row inherited) args).run answer s
    o.result = relatedResult r answer s rel row inherited args ∧ o.state = s := by
  have hmember : (Value.record row inherited).member rel.column = keyValue rel row := rfl
  dsimp only
  unfold related relatedResult
  simp only [hmember]
  split
  · exact ⟨rfl, rfl⟩
  · unfold requireConnection
    split
    · cases hown : requestArgs args with
      | error e => exact run_orNull _ _ (.done (.error e)) s
      | ok own =>
        let select : Call := .select (some rel.referencedTable) (asked rel row inherited own)
        obtain ⟨hresult, hstate⟩ := run_request answer (.relation rel.type rel.field) select
          (fun rows => (records (passedOn rel inherited own) rows).headD .null) s
        exact ⟨hresult, hstate.trans (h.reads rfl s)⟩
    · exact ⟨rfl, rfl⟩

theorem headD_records {request : RequestArgs} {rows : List Row} {v : Value}
    (h : (records request rows).headD .null = v) : v = .null ∨ ∃ found ∈ rows, v = .record found request := by
  cases rows with
  | nil => exact .inl h.symm
  | cons found rest => exact .inr ⟨found, List.mem_cons_self, h.symm⟩

section Related
variable {r : Resolver ι} {answer : (c : Call) → σ → Except Failure c.Answer × σ} {s : σ} {rel : Relation} {row : Row}
  {inherited : RequestArgs} {args : Args}

/-- A result that is no failure comes from a select that was answered, or is null. -/
theorem relatedResult_ok {v : Value} (h : relatedResult r answer s rel row inherited args = .ok v) :
    v = .null ∨ r.connected = true ∧ (keyValue rel row).isNull = false ∧ ∃ own rows found,
      requestArgs args = .ok own ∧
      (answer (.select (some rel.referencedTable) (asked rel row inherited own)) s).1 = .ok rows ∧ found ∈ rows ∧
      v = .record found (passedOn rel inherited own) := by
  unfold relatedResult at h
  split at h
  · exact .inl (Except.ok.inj h).symm
  · rename_i hkey
    split at h
    · rename_i hconnected
      rcases settled_eq_ok h with h | hnull
      · obtain ⟨own, hown, h⟩ := Chain.bind_eq_ok.1 h
        obtain ⟨rows, hrows, h⟩ := Chain.bind_eq_ok.1 h
        rcases headD_records (Except.ok.inj h) with hnull | ⟨found, hfound, hv⟩
        · exact .inl hnull
        · exact .inr ⟨hconnected, Bool.not_eq_true _ ▸ hkey, own, rows, found, hown, hrows, hfound, hv⟩
      · exact .inl hnull
    · cases h

/-- A failure that stays is for want of a connection, or the select was refused. -/
theorem relatedResult_error {e : Failure} (h : relatedResult r answer s rel row inherited args = .error e) :
    r.connected = false ∧ e = .config .noConnection ∨ e.isData = false ∧ ∃ own, requestArgs args = .ok own ∧
      (answer (.select (some rel.referencedTable) (asked rel row inherited own)) s).1 = .error e := by
  unfold relatedResult at h
  split at h
  · cases h
  · split at h
    · obtain ⟨h, hstays⟩ := settled_eq_error h
      refine .inr ⟨hstays, ?_⟩
      rcases Chain.bind_eq_error.1 h with h | ⟨own, hown, h⟩
      · obtain ⟨fault, -, rfl⟩ := Chain.mapError_eq_error.1 h
        cases hstays
      · rcases Chain.bind_eq_error.1 h with h | ⟨rows, -, h⟩
        · exact ⟨own, hown, h⟩
        · cases h
    · rename_i hconnected
      cases h
      exact .inl ⟨Bool.not_eq_true _ ▸ hconnected, rfl⟩

end Related

end Resolver

end TableGraph
