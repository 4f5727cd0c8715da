import TableGraph.Proofs.Resolver.PageRows
import TableGraph.Proofs.Resolver.WrittenRow
import TableGraph.Proofs.Store.Filtering

/-! # Counting what was written

What is put as a text in a column of everyday type is read as the same value when a filter compares the column with
the text. So the row handed back is among those that the page for `=` counts, and not among those that the page for
`!=` counts (`put_counted`). A page counts all rows that satisfy its filter, but it is given only if its own rows can
be read (`Counts`).
-/
namespace TableGraph

namespace Resolver
open Chain Store
variable {ι : Type} {r : Resolver ι} {known : List String} {db : Database} {name : String} {t : StoredTable}

/-! ## Pages under a filter -/

/-- The arguments of a page under a filter. -/
def filterArgs (filter : String) : Args := [("filter", .text filter)]

/-- The page under a filter counts some rows of a table, those that satisfy a condition. It is given exactly if the
usual number of rows fits the database and the first so many of them can be read. -/
structure Counts (r : Resolver ι) (known : List String) (db : Database) (t : StoredTable) (name filter : String)
    (condition : Condition Value) (rows : List Cells) : Prop where
  among : rows.Sublist t.rows
  mem_iff : ∀ stored ∈ t.rows, stored ∈ rows ↔ t.Satisfies name stored condition
  total : ∀ v, pageResult r known db (some name) (filterArgs filter) = .ok v → v ≠ .null →
    v.member "total" = .int rows.length
  given_iff : (∃ v, pageResult r known db (some name) (filterArgs filter) = .ok v ∧ v ≠ .null) ↔
    fits r.settings.defaultPageSize = true ∧
      ∃ items, t.readRows (StoredTable.window (some r.settings.defaultPageSize) 0 (t.sorted [] rows)) = .ok items

/-- Where the count is known, a page is what its rows are put in. -/
theorem pageOfAnswers_counted (request : RequestArgs) (total : Int) (rows : Except Failure (List Row)) :
    pageOfAnswers request (.ok total) rows = rows.map (pageValue total request) := by
  cases rows <;> rfl

section Filter
variable {filter column value : String} {op : Operator} {b : BoundTest}

/-- A page under a filter of one condition. -/
theorem pageResult_filter (hconnected : r.connected = true) (hnamed : db.tableNamed known (some name) = .ok (name, t))
    (hfilter : Request.parseFilter filter.toList = .ok [(none, { conditions := [⟨column, op.name, value⟩] })])
    (hbound : t.boundOf name ⟨column, op.name, .text value⟩ = .ok b) (hpattern : b.test ≠ .like) :
    ∃ request, pageResult r known db (some name) (filterArgs filter) = settled ((do
      StoredTable.checkRange r.settings.defaultPageSize
      t.readRows (StoredTable.window (some r.settings.defaultPageSize) 0 (t.sorted [] (t.chosen [b])))).map
        (pageValue (t.chosen [b]).length request)) := by
  let condition : Condition Value := ⟨column, op.name, .text value⟩
  let request : RequestArgs := ⟨[(none, { conditions := [⟨column, op.name, value⟩] })]⟩
  have hrequest : requestArgs (filterArgs filter) = .ok request := by
    rw [filterArgs, requestArgs_filter, Request.parse, hfilter]
    rfl
  have hscope : callScope (request.forRoot (some name)) = { conditions := [condition] } :=
    congrArg callScope (Request.forRoot_root _ name)
  have hpage : pageScope r.settings (some name) request =
      { conditions := [condition], limit := some r.settings.defaultPageSize } := by
    rw [pageScope, hscope, Request.forRoot_root]
    rfl
  obtain ⟨cs, hcompared, hbound⟩ : ∃ cs, (t.shape name).compareAll [condition] = .ok cs ∧ t.bindTests cs = .ok [b] :=
    StoredTable.bindTests_text hbound
  have hpatterns : t.checkPatterns [] [b] = .ok () := by simp [StoredTable.checkPatterns, hpattern]
  have hcount : t.count name [condition] = .ok ((t.chosen [b]).length : Int) :=
    StoredTable.count_ok.2 ⟨cs, [b], hcompared, hbound, hpatterns, rfl⟩
  have hselect : t.select name { conditions := [condition], limit := some r.settings.defaultPageSize } = (do
      StoredTable.checkRange r.settings.defaultPageSize
      t.readRows (StoredTable.window (some r.settings.defaultPageSize) 0 (t.sorted [] (t.chosen [b])))) := by
    simp only [StoredTable.select, hcompared, hbound, hpatterns, Bind.bind, Except.bind]
    rfl
  refine ⟨request, ?_⟩
  rw [pageResult_eq hconnected, hrequest, hnamed]
  change settled (pageOfAnswers request (t.count name (callScope (request.forRoot (some name))).conditions)
    (t.select name (pageScope r.settings (some name) request))) = _
  rw [hscope, hpage, hcount, hselect, pageOfAnswers_counted]

theorem counts_filter (hconnected : r.connected = true) (hnamed : db.tableNamed known (some name) = .ok (name, t))
    (hfilter : Request.parseFilter filter.toList = .ok [(none, { conditions := [⟨column, op.name, value⟩] })])
    (hbound : t.boundOf name ⟨column, op.name, .text value⟩ = .ok b) (hpattern : b.test ≠ .like) :
    Counts r known db t name filter ⟨column, op.name, .text value⟩ (t.chosen [b]) := by
  obtain ⟨request, hpage⟩ := pageResult_filter (r := r) hconnected hnamed hfilter hbound hpattern
  have hgiven (v : Value) (hv : v ≠ .null) :
      pageResult r known db (some name) (filterArgs filter) = .ok v ↔ ∃ items, fits r.settings.defaultPageSize = true ∧
        t.readRows (StoredTable.window (some r.settings.defaultPageSize) 0 (t.sorted [] (t.chosen [b]))) = .ok items ∧
        pageValue (t.chosen [b]).length request items = v := by
    rw [hpage]
    constructor
    · intro h
      obtain ⟨items, hitems, hvalue⟩ := map_eq_ok.1 ((settled_eq_ok h).resolve_right hv)
      obtain ⟨⟨⟩, hrange, hread⟩ := bind_eq_ok.1 hitems
      exact ⟨items, checkRange_ok.1 hrange, hread, hvalue⟩
    · rintro ⟨items, hfits, hread, rfl⟩
      rw [checkRange_ok.2 hfits]
      change settled (Except.map _ (t.readRows _)) = _
      rw [hread]
      rfl
  refine ⟨List.filter_sublist, fun stored hstored => StoredTable.mem_chosen_iff hbound hstored, fun v hv hne => ?_, ?_, ?_⟩
  · obtain ⟨items, -, -, rfl⟩ := (hgiven v hne).1 hv
    rfl
  · rintro ⟨v, hv, hne⟩
    obtain ⟨items, hfits, hread, -⟩ := (hgiven v hne).1 hv
    exact ⟨hfits, items, hread⟩
  · rintro ⟨hfits, items, hread⟩
    have hne := ne_null_pageValue (t.chosen [b]).length request items
    exact ⟨_, (hgiven _ hne).2 ⟨items, hfits, hread, rfl⟩, hne⟩

end Filter

/-! ## The row handed back -/

/-- A write that hands a row back tells one that is stored then, and that has what was written. -/
theorem tellsOf_wrote {pk : String} {supplied row : Row} (hnamed : db.tableNamed known (some name) = .ok (name, t))
    (hnumbered : t.NumberedBy pk) (hn : (Assoc.keys supplied).Nodup) {c : StoredColumn} (hc : c ∈ t.columns) {v : Value}
    (hv : supplied.get? c.name = some v) (hnull : v.isNull = false) (hfinds : c.FindsAgain v) {s : Database}
    (h : Wrote known db (some name) [pk] (writtenValues [pk] supplied) (.ok (some row)) s) :
    ∃ u, s = db.replace u ∧ u = { t with rows := u.rows } ∧ u.Kept ∧ u.TellsOf name pk (StoredTable.keyed c.name v) row := by
  cases h with
  | @updated _ _ u _ _ named full find update =>
    obtain ⟨rfl, rfl⟩ := Prod.mk.inj (Except.ok.inj (hnamed.symm.trans named))
    have hother := get?_otherValues hn ((isFull_iff (List.nodup_singleton pk) (List.cons_ne_nil pk []) hn).1 full)
    obtain ⟨bs, cells, hu⟩ := StoredTable.update_ok hnumbered.kept.shape update
    have hapart := StoredTable.update_apart update
    have hunwritten : (otherValues [pk] (writtenValues [pk] supplied)).get? pk = none := by
      rw [hother]
      exact if_pos (List.mem_singleton_self pk)
    refine ⟨u, rfl, hu.others, hnumbered.kept.update hu hapart, hnumbered.tellsOf_update hu hapart hunwritten
      (fun p hp => ((mem_keyValues hn).1 hp).2.2) hc hnull ?_⟩
    by_cases hkey : c.name ∈ [pk]
    · exact .inl ((get?_keyValues hn).2 ⟨hkey, hv, hnull⟩)
    · refine .inr ⟨?_, hfinds⟩
      rw [hother]
      exact (if_neg hkey).trans hv
  | @inserted _ _ u _ named absent insert =>
    obtain ⟨rfl, rfl⟩ := Prod.mk.inj (Except.ok.inj (hnamed.symm.trans named))
    obtain ⟨cells, hi⟩ := StoredTable.insert_inserted insert
    have hwritten := (get?_writtenValues hn).2 ⟨hv, fun _ : c.name ∈ [pk] => hnull⟩
    exact ⟨u, rfl, by rw [hi.others], hnumbered.kept.insert hi, hnumbered.tellsOf_insert hi hc hwritten hnull hfinds⟩

end Resolver

open Resolver Store

/-- Putting an item in a table whose key is the row number, where a text that a filter can hold is supplied for a
column of integers, truth values, dates, times or texts. If a row is handed back, then just one row has its number
after that. The page for the rows whose column equals the text counts this row, and the page for those whose column
differs from it does not. -/
theorem put_counted {ι : Type} (r : Resolver ι) {known : List String} {db : Database} {name pk text : String}
    {t : StoredTable} {c : StoredColumn} {args : Args} {input row : Row} {request : RequestArgs}
    (hnamed : db.tableNamed known (some name) = .ok (name, t)) (hkey : r.keyOf (some name) = [pk])
    (hnumbered : t.NumberedBy pk) (hc : c ∈ t.columns)
    (htype : ∃ d ∈ StoredColumn.everydayTypes, declaration c.declared = declaration d) (hne : c.name ≠ "")
    (hname : ∀ x ∈ c.name.toList, Name.isPart x = true) (hline : ∀ x ∈ text.toList, x ≠ '|' ∧ x ≠ '\n')
    (hending : ∀ x ∈ text.toList.getLast?, Text.isBlank x = false) (hargs : Unambiguous args)
    (hinput : inputOf args = .ok input) (htext : suppliedFor args input c.name = some (.text text))
    (hput : ((r.put (some name) args).run (Database.answer known) db).result = .ok (.record row request)) :
    let s := ((r.put (some name) args).run (Database.answer known) db).state
    ∃ u n stored equal other, s.tableNamed known (some name) = .ok (name, u) ∧ row.get? pk = some (.int n) ∧
      u.rowsAt pk n = [stored] ∧
      Counts r known s u name (c.name ++ "=" ++ text) (StoredTable.keyed c.name (.text text)) equal ∧ stored ∈ equal ∧
      Counts r known s u name (c.name ++ "!=" ++ text) (StoredTable.differing c.name (.text text)) other ∧
      stored ∉ other := by
  intro s
  have hconnected := connected_of_put hput
  obtain ⟨supplied, input', hinput', hn, hvalues, hwrote⟩ := wrote_of_put hargs hput
  obtain rfl := Except.ok.inj (hinput.symm.trans hinput')
  rw [hkey] at hwrote
  obtain ⟨u, hstate, hothers, -, n, stored, hget, hrow, hsatisfies⟩ := tellsOf_wrote hnamed hnumbered hn hc
    (hvalues ▸ htext) rfl (StoredColumn.findsAgain_text (StoredColumn.everyday_of_declaration htype) text) hwrote
  have hnamed' : s.tableNamed known (some name) = .ok (name, u) := by
    rw [show s = db.replace u from hstate]
    exact tableNamed_replace_self hnamed hothers
  have hstored : stored ∈ u.rows := by
    have hm : stored ∈ u.rowsAt pk n := hrow ▸ List.mem_singleton_self stored
    exact (List.mem_filter.1 hm).1
  obtain ⟨b, hbound, -⟩ := id hsatisfies
  obtain ⟨htest, hdiffers⟩ := StoredTable.boundOf_differing rfl hbound
  have hequal : Request.parseFilter (c.name ++ "=" ++ text).toList =
      .ok [(none, { conditions := [⟨c.name, Operator.eq.name, text⟩] })] := by
    rw [String.toList_append, String.toList_append, List.append_assoc]
    exact Request.parseFilter_condition .eq hne hname (by simp) hline hending
  have hother : Request.parseFilter (c.name ++ "!=" ++ text).toList =
      .ok [(none, { conditions := [⟨c.name, Operator.ne.name, text⟩] })] := by
    rw [String.toList_append, String.toList_append, List.append_assoc]
    exact Request.parseFilter_condition .ne hne hname (by simp) hline hending
  refine ⟨u, n, stored, _, _, hnamed', hget, hrow, counts_filter hconnected hnamed' hequal hbound (by simp [htest]), ?_,
    counts_filter hconnected hnamed' hother hdiffers (by simp), ?_⟩
  · exact (StoredTable.mem_chosen_iff hbound hstored).2 hsatisfies
  · rw [StoredTable.mem_chosen_iff hdiffers hstored]
    exact StoredTable.not_satisfies_differing rfl hsatisfies

/-- Visits, with a note and the day on which they were. -/
def visits (rows : List Cells) : StoredTable where
  name := "visits"
  columns := [⟨"id", "INTEGER", true, false, none⟩, ⟨"note", "TEXT", false, true, none⟩,
    ⟨"day", "DATE", false, true, none⟩]
  rows

def visitsResolver : Resolver Unit where
  connected := true
  schema := some ⟨[⟨"visits", [⟨"id", "INTEGER", false, true, .text⟩, ⟨"note", "TEXT", true, false, .text⟩,
    ⟨"day", "DATE", true, false, .text⟩], [], true⟩]⟩

theorem numberedBy_visits {rows : List Cells} (hfew : rows.length ≤ 1)
    (hrows : ∀ row ∈ rows, ∃ n x y, row = [.int n, x, y] ∧ fits n = true) : (visits rows).NumberedBy "id" := by
  have hnames : ((visits []).columns.map (·.name)).Nodup := by decide
  have hnumber : (visits []).numberColumn? = some "id" := by decide +kernel
  have hapart : rows.Pairwise fun a b => (visits rows).agree a b (visits rows).keyNames = false := by
    cases rows with
    | nil => exact .nil
    | cons row rest =>
      obtain rfl : rest = [] := List.length_eq_zero_iff.1 (by simp only [List.length_cons] at hfew; omega)
      exact List.pairwise_singleton _ _
  refine ⟨⟨⟨hnames, fun row hrow => ?_⟩, fun _ => hapart⟩, hnumber, fun row hrow => ?_⟩
  · obtain ⟨n, x, y, rfl, -⟩ := hrows row hrow
    rfl
  · obtain ⟨n, x, y, rfl, hfits⟩ := hrows row hrow
    exact ⟨n, rfl, hfits⟩

theorem tableNamed_visits (rows : List Cells) :
    Database.tableNamed { tables := [visits rows] } ["visits"] (some "visits") = .ok ("visits", visits rows) := by
  have hsame : sameName (visits rows).name "visits" = true := decide_eq_true rfl
  simp only [Database.tableNamed, Database.table?, List.mem_singleton, if_true, List.find?_cons, hsame]

/-- The first visit is put with its day, written without dashes after a blank. -/
def visitArgs : Args := [("day", .text " 20240502")]

/-- The day is found again as it was written. -/
theorem visit_counted :
    let db : Database := { tables := [visits []] }
    let o := (visitsResolver.put (some "visits") visitArgs).run (Database.answer ["visits"]) db
    let total (filter : String) (n : Int) : Prop := ∃ v,
      pageResult visitsResolver ["visits"] o.state (some "visits") (filterArgs filter) = .ok v ∧
        v.member "total" = .int n
    db.tableNamed ["visits"] (some "visits") = .ok ("visits", visits []) ∧ visitsResolver.keyOf (some "visits") = ["id"] ∧
      (visits []).NumberedBy "id" ∧ (∀ x ∈ " 20240502".toList, x ≠ '|' ∧ x ≠ '\n') ∧ Unambiguous visitArgs ∧
      suppliedFor visitArgs [] "day" = some (.text " 20240502") ∧
      (∃ (row : Row) (request : RequestArgs), o.result = .ok (.record row request) ∧ row.get? "id" = some (.int 1)) ∧
      total "day= 20240502" 1 ∧ total "day!= 20240502" 0 := by
  intro db o total
  have hnamed : db.tableNamed ["visits"] (some "visits") = .ok ("visits", visits []) := tableNamed_visits []
  have hnumbered : (visits []).NumberedBy "id" := numberedBy_visits (Nat.zero_le 1) nofun
  have hname : ∀ x ∈ "day".toList, Name.isPart x = true := List.all_eq_true.1 (by decide)
  have hline : ∀ x ∈ " 20240502".toList, x ≠ '|' ∧ x ≠ '\n' := by decide
  have hargs : Unambiguous visitArgs := unambiguous_of_flat (by decide) rfl
  have hid : scalarAt o.result "id" = some (.int 1) := by decide +kernel
  obtain ⟨row, request, hput, hget⟩ := record_of_scalarAt hid
  have hstate : o.state = { tables := [visits [[.int 1, .null, .text "2024-05-02"]]] } := by decide +kernel
  have htype : ∃ d ∈ StoredColumn.everydayTypes, declaration "DATE" = declaration d := ⟨"DATE", by decide, rfl⟩
  obtain ⟨u, n, stored, equal, other, hnamed', -, hrow, hequal, hmem, hother, hnot⟩ :=
    put_counted visitsResolver hnamed (rfl : visitsResolver.keyOf (some "visits") = ["id"]) hnumbered
      (List.mem_of_getElem? (i := 2) rfl) htype (by decide) hname hline (by decide) hargs rfl rfl hput
  have hnamed' : o.state.tableNamed ["visits"] (some "visits") = .ok ("visits", u) := hnamed'
  rw [hstate, tableNamed_visits] at hnamed'
  obtain rfl := (Prod.mk.inj (Except.ok.inj hnamed')).2
  have hstored : stored ∈ [[Cell.int 1, .null, .text "2024-05-02"]] := by
    have hm : stored ∈ StoredTable.rowsAt _ _ _ := hrow ▸ List.mem_singleton_self stored
    exact (List.mem_filter.1 hm).1
  obtain rfl := List.mem_singleton.1 hstored
  refine ⟨hnamed, rfl, hnumbered, hline, hargs, rfl, ⟨row, request, hput, hget⟩, ?_, ?_⟩
  · obtain rfl : equal = [[.int 1, .null, .text "2024-05-02"]] :=
      (List.sublist_singleton.1 hequal.among).resolve_left (List.ne_nil_of_mem hmem)
    have hread : ((visits [[.int 1, .null, .text "2024-05-02"]]).readRows [[.int 1, .null, .text "2024-05-02"]]).map
        (fun _ => ()) = .ok () := by decide +kernel
    obtain ⟨items, hitems, -⟩ := Chain.map_eq_ok.1 hread
    obtain ⟨v, hv, hne⟩ := hequal.given_iff.2 ⟨by decide, items, by
      rw [StoredTable.sorted, List.mergeSort_singleton]
      exact hitems⟩
    exact ⟨v, hv, hequal.total v hv hne⟩
  · obtain rfl : other = [] := (List.sublist_singleton.1 hother.among).resolve_right fun h =>
      hnot (h ▸ List.mem_singleton_self _)
    obtain ⟨v, hv, hne⟩ := hother.given_iff.2 ⟨by decide, [], by
      rw [StoredTable.sorted, List.mergeSort_nil]
      rfl⟩
    exact ⟨v, hv, hother.total v hv hne⟩

/-- A second visit is put under the note of a first one, whose day cannot be read. The page of this note raises. -/
theorem visits_page_lost :
    let db : Database := { tables := [visits [[.int 1, .text "x", .text "soon"]]] }
    let o := (visitsResolver.put (some "visits") [("note", .text "x")]).run (Database.answer ["visits"]) db
    let page := pageResult visitsResolver ["visits"] o.state (some "visits") (filterArgs "note=x")
    (visits [[.int 1, .text "x", .text "soon"]]).NumberedBy "id" ∧
      (∃ (row : Row) (request : RequestArgs), o.result = .ok (.record row request) ∧ row.get? "id" = some (.int 2)) ∧
      page = .error .unreadable ∧ ¬ ∃ v total, page = .ok v ∧ v.member "total" = .int total := by
  intro db o page
  have hnumbered : (visits [[.int 1, .text "x", .text "soon"]]).NumberedBy "id" :=
    numberedBy_visits (Nat.le_refl 1) fun row hrow => ⟨1, _, _, List.mem_singleton.1 hrow, by decide⟩
  have hid : scalarAt o.result "id" = some (.int 2) := by decide +kernel
  obtain ⟨row, request, hput, hget⟩ := record_of_scalarAt hid
  let rows : List Cells := [[.int 1, .text "x", .text "soon"], [.int 2, .text "x", .null]]
  have hstate : o.state = { tables := [visits rows] } := by decide +kernel
  have hfilter : Request.parseFilter "note=x".toList =
      .ok [(none, { conditions := [⟨"note", Operator.eq.name, "x"⟩] })] := by rfl
  have hbound : (visits rows).boundOf "visits" ⟨"note", Operator.eq.name, .text "x"⟩ =
      .ok ⟨"note", .text, .eq, .text "x"⟩ := by rfl
  have hchosen : (visits rows).chosen [⟨"note", .text, .eq, .text "x"⟩] = rows := by decide +kernel
  have hsorted : (visits rows).sorted [] rows = rows := List.mergeSort_of_pairwise (by decide +kernel)
  have hread : ((visits rows).readRows rows).map (fun _ => ()) = .error .unreadable := by decide +kernel
  have hpage : page = .error .unreadable := by
    obtain ⟨asked, hpage⟩ := pageResult_filter (r := visitsResolver) rfl (tableNamed_visits rows) hfilter hbound nofun
    change pageResult visitsResolver ["visits"] o.state (some "visits") (filterArgs "note=x") = _
    rw [hstate, hpage, hchosen, hsorted]
    change settled (Except.map _ ((visits rows).readRows rows)) = _
    rw [Chain.map_eq_error.1 hread]
    rfl
  refine ⟨hnumbered, ⟨row, request, hput, hget⟩, hpage, ?_⟩
  rintro ⟨v, total, hv, -⟩
  cases hpage.symm.trans hv

end TableGraph
