import TableGraph.Proofs.Resolver.TablePages
import TableGraph.Proofs.Resolver.Sessions

/-! # The rows of a page

A page holds at most as many rows as are asked for, but if no number is asked for, as many as the settings say, even
where that is more than their maximum (`page_sizes`). Asking for the first row asks for the first row of the page, so
it gives that row, unless the page is lost to a later row that the store cannot read (`first_of_page`).
-/
namespace TableGraph

namespace Resolver
open Chain Store
variable {ι : Type}

/-! ## The two requests -/

/-- What the select of a page asks for. -/
def pageScope (settings : Settings) (table : Option String) (request : RequestArgs) : ScopeArgs Value :=
  { callScope (request.forRoot table) with limit := some (settings.clampLimit (request.forRoot table).limit) }

/-- What a page comes to, given a database. -/
def pageResult (r : Resolver ι) (known : List String) (db : Database) (table : Option String) (args : Args) :
    Except Failure Value :=
  ((r.page table args).run (Database.answer known) db).result

/-- What a first row comes to, given a database. -/
def firstResult (r : Resolver ι) (known : List String) (db : Database) (table : Option String) (args : Args) :
    Except Failure Value :=
  ((r.first table args).run (Database.answer known) db).result

section Results
variable {r : Resolver ι} {known : List String} {db : Database} {table : Option String} {args : Args}

theorem pageResult_eq (hconnected : r.connected = true) : pageResult r known db table args = settled (do
    let request ← requestArgs args
    let (name, t) ← db.tableNamed known table
    pageOfAnswers request (t.count name (callScope (request.forRoot table)).conditions)
      (t.select name (pageScope r.settings table request))) := by
  rw [pageResult, run_page hconnected]
  cases requestArgs args with
  | error e => rfl
  | ok request =>
    simp only [pageCount, pageSelect, Database.answer]
    cases db.tableNamed known table with
    | error e =>
      change settled (pageOfAnswers request (.error e) (.error e)) = settled (.error e)
      simp only [pageOfAnswers, bothAnswers, ite_self]
      rfl
    | ok p => rfl

theorem firstResult_eq (hconnected : r.connected = true) : firstResult r known db table args = settled (do
    let request ← requestArgs args
    let (name, t) ← db.tableNamed known table
    let rows ← t.select name (firstScope table request)
    return (records request rows).headD .null) := by
  rw [firstResult, run_first hconnected]
  cases requestArgs args with
  | error e => rfl
  | ok request =>
    simp only [Database.answer]
    cases db.tableNamed known table <;> rfl

/-- What stands behind a page that is given. -/
theorem page_given {v : Value} (h : pageResult r known db table args = .ok v) (hv : v ≠ .null) :
    ∃ request name t total rows, requestArgs args = .ok request ∧ db.tableNamed known table = .ok (name, t) ∧
      t.count name (callScope (request.forRoot table)).conditions = .ok total ∧
      t.select name (pageScope r.settings table request) = .ok rows ∧ v = pageValue total request rows := by
  rw [pageResult_eq (connected_of_page h)] at h
  rcases settled_eq_ok h with h | h
  · obtain ⟨request, hrequest, h⟩ := bind_eq_ok.1 h
    obtain ⟨⟨name, t⟩, hnamed, h⟩ := bind_eq_ok.1 h
    obtain ⟨⟨total, rows⟩, hboth, hvalue⟩ := map_eq_ok.1 h
    obtain ⟨hcount, hselect⟩ := bothAnswers_ok.1 hboth
    exact ⟨request, name, t, total, rows, hrequest, hnamed, hcount, hselect, hvalue.symm⟩
  · exact absurd h hv

end Results

/-! ## The number of rows -/

theorem length_window (rows : List Cells) {n : Int} (hn : 0 ≤ n) (offset : Int) :
    (StoredTable.window (some n) offset rows).length = min n.toNat (rows.length - offset.toNat) := by
  rw [StoredTable.window]
  simp only [if_neg (Int.not_lt.2 hn), List.length_take, List.length_drop]

/-- The items of some page that some resolver with the settings gives of some database. -/
def ItemsOf (ι : Type) (settings : Settings) (table : Option String) (args : Args) (items : List Value) : Prop :=
  ∃ (r : Resolver ι) (known : List String) (db : Database) (v : Value), r.settings = settings ∧
    pageResult r known db table args = .ok v ∧ v.member "items" = .list items

/-- A page with items is one that was read, from a window that fits the database. -/
theorem ItemsOf.read {settings : Settings} {table : Option String} {args : Args} {items : List Value}
    (h : ItemsOf ι settings table args items) :
    ∃ request cells, requestArgs args = .ok request ∧
      fits (settings.clampLimit (request.forRoot table).limit) = true ∧
      items.length = (StoredTable.window (some (settings.clampLimit (request.forRoot table).limit))
        (request.forRoot table).offset cells).length := by
  obtain ⟨r, known, db, v, rfl, hpage, hitems⟩ := h
  have hv : v ≠ .null := by
    rintro rfl
    cases hitems
  obtain ⟨request, name, t, total, rows, hrequest, -, -, hselect, rfl⟩ := page_given hpage hv
  obtain rfl : records request rows = items := Value.list.inj hitems
  obtain ⟨cs, bs, ha⟩ := StoredTable.select_ok.1 hselect
  have hfits : fits (r.settings.clampLimit (request.forRoot table).limit) = true := checkRange_ok.1 ha.limit
  refine ⟨request, t.sorted (request.forRoot table).order (t.chosen bs), hrequest, hfits, ?_⟩
  rw [records, List.length_map]
  exact length_of_mapM ha.read

/-- A page has the rows of its window, no more than it asks for. -/
theorem ItemsOf.length_le {settings : Settings} {table : Option String} {args : Args} {items : List Value}
    (h : ItemsOf ι settings table args items) {request : RequestArgs} (hrequest : requestArgs args = .ok request)
    (hlimit : 0 ≤ settings.clampLimit (request.forRoot table).limit) :
    (items.length : Int) ≤ settings.clampLimit (request.forRoot table).limit := by
  obtain ⟨request', cells, hrequest', -, hlength⟩ := h.read
  obtain rfl := Except.ok.inj (hrequest.symm.trans hrequest')
  rw [hlength, length_window _ hlimit]
  omega

/-- A table of integers from zero on. -/
def crowd (n : Nat) : StoredTable where
  name := "crowd"
  columns := [⟨"id", "INTEGER", true, false, none⟩]
  rows := (List.range n).map fun k => [.int k]

theorem readRow_crowd (n : Nat) (k : Int) : (crowd n).readRow [.int k] = .ok [("id", .int k)] := by
  have hkind : StoredColumn.kind ⟨"id", "INTEGER", true, false, none⟩ = .integer := by rfl
  refine mapM_singleton ?_
  rw [hkind]
  rfl

theorem tableNamed_crowd (n : Nat) :
    Database.tableNamed { tables := [crowd n] } ["crowd"] (some "crowd") = .ok ("crowd", crowd n) := by
  have hsame : sameName (crowd n).name "crowd" = true := decide_eq_true rfl
  simp only [Database.tableNamed, Database.table?, List.mem_singleton, if_true, List.find?_cons, hsame]

def crowdResolver (ι : Type) (settings : Settings) : Resolver ι where
  settings := settings
  connected := true

/-- A page of the crowd for which no number is asked is as large as the settings say, where the rows suffice. -/
theorem itemsOf_crowd {settings : Settings} (hdefault : 0 ≤ settings.defaultPageSize)
    (hfits : fits settings.defaultPageSize = true) (n : Nat) :
    ∃ items, ItemsOf ι settings (some "crowd") [] items ∧
      items.length = min settings.defaultPageSize.toNat n := by
  let t := crowd n
  let window := StoredTable.window (some settings.defaultPageSize) 0 (t.sorted [] (t.chosen []))
  have hread : ∀ row ∈ window, ∃ read, t.readRow row = .ok read := by
    intro row hrow
    have hstored : row ∈ t.rows := List.mem_of_mem_filter (StoredTable.mem_chosen_of_window hrow)
    obtain ⟨k, -, rfl⟩ := List.mem_map.1 hstored
    exact ⟨_, readRow_crowd n k⟩
  obtain ⟨rows, hrows⟩ := exists_mapM hread
  let asked : ScopeArgs Value := { limit := some settings.defaultPageSize }
  have hlimit : StoredTable.checkRange (asked.limit.getD 0) = .ok () := checkRange_ok.2 hfits
  have hselect : t.select "crowd" asked = .ok rows :=
    (StoredTable.select_eq rfl rfl rfl rfl hlimit rfl rfl).trans hrows
  have hlength : window.length = min settings.defaultPageSize.toNat n := by
    have hchosen : (t.chosen []).length = n := by
      have hall : t.chosen [] = t.rows := List.filter_eq_self.2 fun _ _ => rfl
      rw [hall]
      simp [t, crowd]
    rw [length_window _ hdefault, StoredTable.sorted, List.length_mergeSort, hchosen]
    rfl
  refine ⟨records .empty rows, ⟨crowdResolver ι settings, ["crowd"], { tables := [t] },
    pageValue (t.chosen []).length .empty rows, rfl, ?_, rfl⟩, ?_⟩
  · have hrequest : requestArgs [] = .ok .empty := requestArgs_unfiltered []
    rw [pageResult_eq rfl, hrequest, tableNamed_crowd]
    change settled (pageOfAnswers .empty (t.count "crowd" []) (t.select "crowd" asked)) = _
    rw [hselect]
    rfl
  · rw [records, List.length_map, length_of_mapM hrows, hlength]

end Resolver

open Resolver Store

/-- Page sizes that are not negative. A page for which a number of rows is asked has at most this number and at most
the maximum, and any other has at most the default size. So pages stay within the maximum, whatever the database
and the arguments are, exactly if the default size does, or does not fit the database at all. -/
theorem page_sizes (ι : Type) (settings : Settings) (hdefault : 0 ≤ settings.defaultPageSize)
    (hmax : 0 ≤ settings.maxPageSize) :
    (∀ table args items request, ItemsOf ι settings table args items → requestArgs args = .ok request →
      match (request.forRoot table).limit with
      | some n => (items.length : Int) ≤ n ∧ (items.length : Int) ≤ settings.maxPageSize
      | none => (items.length : Int) ≤ settings.defaultPageSize) ∧
    ((∀ table args items, ItemsOf ι settings table args items → (items.length : Int) ≤ settings.maxPageSize) ↔
      (fits settings.defaultPageSize = true → settings.defaultPageSize ≤ settings.maxPageSize)) := by
  have hasked {table : Option String} {args : Args} {items : List Value} {request : RequestArgs}
      (h : ItemsOf ι settings table args items) (hrequest : requestArgs args = .ok request) :
      match (request.forRoot table).limit with
      | some n => (items.length : Int) ≤ n ∧ (items.length : Int) ≤ settings.maxPageSize
      | none => (items.length : Int) ≤ settings.defaultPageSize := by
    have hroot : (request.forRoot table).Sound := (Errand.sound_requestArgs hrequest).forRoot table
    have hlength := h.length_le hrequest
    cases hlimit : (request.forRoot table).limit with
    | none =>
      rw [hlimit] at hlength
      exact hlength hdefault
    | some n =>
      rw [hlimit] at hlength
      exact Int.le_min.1 (hlength (Int.le_min.2 ⟨hroot.limit n hlimit, hmax⟩))
  refine ⟨fun table args items request => hasked, fun hall hfits => ?_, fun hwithin table args items h => ?_⟩
  · -- a table with one row more than the maximum
    obtain ⟨items, hitems, hlength⟩ := itemsOf_crowd (ι := ι) hdefault hfits (settings.maxPageSize.toNat + 1)
    have hbound := hall _ _ _ hitems
    omega
  · obtain ⟨request, cells, hrequest, hfits, -⟩ := h.read
    have hlength := hasked h hrequest
    cases hlimit : (request.forRoot table).limit with
    | none =>
      rw [hlimit] at hlength hfits
      exact Int.le_trans hlength (hwithin hfits)
    | some n =>
      rw [hlimit] at hlength
      exact hlength.2

/-- Three rows on a page where the maximum is one. -/
theorem crowd_past_maximum :
    ∃ items, ItemsOf Unit { defaultPageSize := 3, maxPageSize := 1 } (some "crowd") [] items ∧
      items.length = 3 ∧ ¬ (items.length : Int) ≤ 1 := by
  let settings : Settings := { defaultPageSize := 3, maxPageSize := 1 }
  have hdefault : 0 ≤ settings.defaultPageSize := by decide
  obtain ⟨items, hitems, hlength⟩ := itemsOf_crowd hdefault (by decide) 3
  refine ⟨items, hitems, hlength, ?_⟩
  rw [hlength]
  decide

/-- What the first page of two levels above ten points asks for. -/
def levelsRequest : RequestArgs :=
  (RequestArgs.mk [(none, { conditions := [⟨"points", "gt", "10"⟩] })]).overlay ⟨Request.pagingScopes 2 0⟩

theorem parseFilter_levels :
    Request.parseFilter "points>10".toList = .ok [(none, { conditions := [⟨"points", "gt", "10"⟩] })] := by rfl

theorem requestArgs_levels : requestArgs (Resolver.pageArgs "points>10" 2 0) = .ok levelsRequest :=
  requestArgs_pageArgs.2 ⟨_, parseFilter_levels, by decide, by decide, rfl⟩

theorem forRoot_levels : levelsRequest.forRoot (some "levels") =
    { conditions := [⟨"points", "gt", "10"⟩], limit := some 2, offset := 0 } :=
  (Request.forRoot_paging parseFilter_levels 2 0 "levels").trans (by decide)

def levelsRow (player : String) (level points : Int) : Row :=
  [("player", .text player), ("level", .int level), ("points", .int points)]

theorem page_levels :
    pageResult levelsResolver ["levels"] { tables := [levelsTable] } (some "levels") (Resolver.pageArgs "points>10" 2 0) =
      .ok (pageValue 3 levelsRequest [levelsRow "al" 3 40, levelsRow "al" 7 12]) := by
  have hnamed : Database.tableNamed { tables := [levelsTable] } ["levels"] (some "levels") = .ok ("levels", levelsTable) := by
    rfl
  have hbegun : Begun levelsResolver "levels" "points>10" 2 levelsTable
      [(none, { conditions := [⟨"points", "gt", "10"⟩] })] [above10] :=
    ⟨⟨rfl, parseFilter_levels, by decide⟩, ⟨_, rfl, rfl⟩, rfl⟩
  have hzero : fits (0 : Nat) = true := by decide
  have hpage := page_at hnamed (by decide) hbegun hzero
  rw [sorted_levelsTable] at hpage
  exact hpage

/-- Two levels are asked for and given. With the usual settings no page has more than a hundred rows. -/
theorem levels_within_sizes :
    let settings : Settings := {}
    let args := Resolver.pageArgs "points>10" 2 0
    0 ≤ settings.defaultPageSize ∧ 0 ≤ settings.maxPageSize ∧
      (∃ items, ItemsOf Unit settings (some "levels") args items ∧ items.length = 2) ∧
      (∀ items, ItemsOf Unit settings (some "levels") args items → (items.length : Int) ≤ 2) ∧
      ∀ table args items, ItemsOf Unit settings table args items → (items.length : Int) ≤ 100 := by
  intro settings args
  have hdefault : 0 ≤ settings.defaultPageSize := by decide
  have hmax : 0 ≤ settings.maxPageSize := by decide
  obtain ⟨hasked, hwithin⟩ := page_sizes Unit settings hdefault hmax
  refine ⟨hdefault, hmax, ?_, fun items hitems => ?_, hwithin.2 fun _ => by decide⟩
  · exact ⟨_, ⟨levelsResolver, ["levels"], { tables := [levelsTable] }, _, rfl, page_levels, rfl⟩, rfl⟩
  · have hroot := hasked _ _ _ _ hitems requestArgs_levels
    rw [forRoot_levels] at hroot
    exact hroot.1

/-! ## The first row -/

namespace Resolver
open Chain
variable {ι : Type} {r : Resolver ι} {known : List String} {db : Database} {table : Option String} {args : Args}

/-- The first row is handed out, and the page of the same arguments has a row that cannot be read for its data. -/
def LaterUnread (r : Resolver ι) (known : List String) (db : Database) (table : Option String) (args : Args) : Prop :=
  ∃ request name t cs bs row, requestArgs args = .ok request ∧ db.tableNamed known table = .ok (name, t) ∧
    t.Answered name (firstScope table request) cs bs [row] ∧
    ∃ cells ∈ StoredTable.window (some (r.settings.clampLimit (request.forRoot table).limit))
        (request.forRoot table).offset (t.sorted (request.forRoot table).order (t.chosen bs)),
      ∃ e, t.readRow cells = .error e ∧ e.isData = true

theorem window_one (rows : List Cells) {n : Int} (hn : 1 ≤ n) (offset : Int) :
    StoredTable.window (some 1) offset rows = (StoredTable.window (some n) offset rows).take 1 := by
  rw [StoredTable.window, StoredTable.window]
  simp only [if_neg (show ¬ n < 0 by omega), if_neg (show ¬ (1 : Int) < 0 by decide), List.take_take]
  congr 1
  omega

theorem mapM_take {α β ε : Type} {f : α → Except ε β} {l : List α} {m : List β} (h : l.mapM f = .ok m) (n : Nat) :
    (l.take n).mapM f = .ok (m.take n) := by
  induction l generalizing m n with
  | nil =>
    cases h
    cases n <;> rfl
  | cons a l ih =>
    obtain ⟨b, rest, hb, hrest, rfl⟩ := mapM_cons_ok.1 h
    cases n with
    | zero => rfl
    | succ n => exact mapM_cons_ok.2 ⟨b, _, hb, ih hrest n, rfl⟩

/-- Where a page is read, so is its first row. -/
theorem first_answered {t : StoredTable} {name : String} {request : RequestArgs} {cs : List Comparison}
    {bs : List BoundTest} {rows : List Row} (hlimit : 1 ≤ r.settings.clampLimit (request.forRoot table).limit)
    (h : t.Answered name (pageScope r.settings table request) cs bs rows) :
    t.Answered name (firstScope table request) cs bs (rows.take 1) where
  compared := h.compared
  columns := h.columns
  bound := h.bound
  order := h.order
  limit := rfl
  offset := h.offset
  patterns := h.patterns
  read := by
    have hread := mapM_take h.read 1
    rw [pageScope, ← window_one _ hlimit] at hread
    exact hread

/-- Where a first row is asked for with success and the page fails for data, a row of the page cannot be read. -/
theorem unread_of_first {t : StoredTable} {name : String} {request : RequestArgs} {cs : List Comparison}
    {bs : List BoundTest} {rows : List Row} (h : t.Answered name (firstScope table request) cs bs rows) {e : Failure}
    (hpage : t.select name (pageScope r.settings table request) = .error e) (hdata : e.isData = true) :
    ∃ cells ∈ StoredTable.window (some (r.settings.clampLimit (request.forRoot table).limit))
        (request.forRoot table).offset (t.sorted (request.forRoot table).order (t.chosen bs)),
      t.readRow cells = .error e := by
  obtain ⟨columns, hcolumns⟩ := h.columns
  -- all that a select checks is the same for both, but for the range of the limit
  have hselect : t.select name (pageScope r.settings table request) = (do
      StoredTable.checkRange (r.settings.clampLimit (request.forRoot table).limit)
      t.readRows (StoredTable.window (some (r.settings.clampLimit (request.forRoot table).limit))
        (request.forRoot table).offset (t.sorted (request.forRoot table).order (t.chosen bs)))) := by
    have hcompared : (t.shape name).compareAll (pageScope r.settings table request).conditions = .ok cs := h.compared
    have hordered : ((pageScope r.settings table request).order.mapM fun p => (t.shape name).columnNamed p.1) =
        .ok columns := hcolumns
    have horder : StoredTable.checkOrder (pageScope r.settings table request).order = .ok () := h.order
    have hoffset : StoredTable.checkRange (pageScope r.settings table request).offset = .ok () := h.offset
    simp only [StoredTable.select, hcompared, hordered, h.bound, horder, hoffset, h.patterns, Bind.bind, Except.bind]
    rfl
  rcases bind_eq_error.1 (hselect.symm.trans hpage) with hrange | ⟨⟨⟩, -, hread⟩
  · obtain ⟨-, rfl⟩ := StoredTable.checkRange_error hrange
    cases hdata
  · exact exists_of_error hread

theorem readJson_data {fault e : Failure} {c : Cell} (h : readJson fault c = .error e) (hdata : e.isData = true) :
    e = fault := by
  unfold readJson at h
  split at h
  · cases hread : Json.read? _ with
    | none =>
      rw [hread] at h
      exact (Except.error.inj h).symm
    | some v =>
      rw [hread] at h
      cases h
  · split at h
    · cases hread : Json.read? _ with
      | none =>
        rw [hread] at h
        exact (Except.error.inj h).symm
      | some v =>
        rw [hread] at h
        cases h
    · cases h
      cases hdata
  · cases h

/-- Only packed JSON fails to be read for its data. All else that cannot be read raises. -/
theorem readCell_data {kind : ColumnKind} {c : Cell} {e : Failure} (h : readCell kind c = .error e)
    (hdata : e.isData = true) : kind = .packedJson := by
  have htime {c : Cell} (h : readDateTime c = .error e) : False := by
    unfold readDateTime at h
    split at h
    · split at h <;> cases h
      cases hdata
    · cases h
      cases hdata
  have hdate {c : Cell} (h : readDate c = .error e) : False := by
    unfold readDate at h
    split at h
    · split at h <;> cases h
      cases hdata
    · cases h
      cases hdata
  unfold readCell at h
  split at h
  · cases h
  · split at h
    · cases h
    · unfold readDecimal at h
      split at h <;> cases h
      cases hdata
    · exact (htime h).elim
    · exact (htime h).elim
    · exact (hdate h).elim
    · exact (hdate h).elim
    · obtain rfl := readJson_data h hdata
      cases hdata
    · rfl
    · cases h

theorem LaterUnread.packed (h : LaterUnread r known db table args) :
    ∃ name t, db.tableNamed known table = .ok (name, t) ∧ ∃ c ∈ t.columns, c.kind = .packedJson := by
  obtain ⟨request, name, t, cs, bs, row, -, hnamed, -, cells, -, e, hread, hdata⟩ := h
  obtain ⟨p, hp, hcell⟩ := exists_of_error hread
  exact ⟨name, t, hnamed, p.1, (List.of_mem_zip hp).1, readCell_data (map_eq_error.1 hcell) hdata⟩

/-- The row that stands behind a first row. -/
theorem first_given {v : Value} (h : firstResult r known db table args = .ok v) (hv : v ≠ .null) :
    ∃ request name t cs bs row, requestArgs args = .ok request ∧ db.tableNamed known table = .ok (name, t) ∧
      t.Answered name (firstScope table request) cs bs [row] ∧ v = .record row request := by
  have hconnected : r.connected = true := by
    by_contra hno
    rw [firstResult, Resolver.first, requireConnection, if_neg hno] at h
    cases h
  rw [firstResult_eq hconnected] at h
  rcases settled_eq_ok h with h | h
  · obtain ⟨request, hrequest, h⟩ := bind_eq_ok.1 h
    obtain ⟨⟨name, t⟩, hnamed, h⟩ := bind_eq_ok.1 h
    obtain ⟨rows, hselect, h⟩ := bind_eq_ok.1 h
    obtain rfl := Except.ok.inj h
    obtain ⟨cs, bs, ha⟩ := StoredTable.select_ok.1 hselect
    have hlength := length_of_mapM ha.read
    rw [firstScope, length_window _ (by decide)] at hlength
    cases rows with
    | nil => exact absurd rfl hv
    | cons row rest =>
      obtain rfl : rest = [] := List.length_eq_zero_iff.1 (by simp only [List.length_cons] at hlength; omega)
      exact ⟨request, name, t, cs, bs, row, hrequest, hnamed, ha, rfl⟩
  · exact absurd h hv

theorem LaterUnread.first_ne_null (h : LaterUnread r known db table args) {v : Value}
    (hconnected : r.connected = true) (hfirst : firstResult r known db table args = .ok v) : v ≠ .null := by
  obtain ⟨request, name, t, cs, bs, row, hrequest, hnamed, ha, -⟩ := h
  rw [firstResult_eq hconnected, hrequest, hnamed] at hfirst
  change settled (do
    let rows ← t.select name (firstScope table request)
    return (records request rows).headD .null) = .ok v at hfirst
  rw [StoredTable.select_ok.2 ⟨cs, bs, ha⟩] at hfirst
  obtain rfl : Value.record row request = v := Except.ok.inj hfirst
  exact Value.noConfusion

theorem LaterUnread.page_null (h : LaterUnread r known db table args) {v : Value}
    (hpage : pageResult r known db table args = .ok v) : v = .null := by
  by_contra hv
  obtain ⟨request, name, t, cs, bs, row, hrequest, hnamed, ha, cells, hcells, e, hunread, -⟩ := h
  obtain ⟨request', name', t', total, rows, hrequest', hnamed', -, hselect, -⟩ := page_given hpage hv
  obtain rfl := Except.ok.inj (hrequest.symm.trans hrequest')
  obtain ⟨rfl, rfl⟩ := Prod.mk.inj (Except.ok.inj (hnamed.symm.trans hnamed'))
  obtain ⟨cs', bs', ha'⟩ := StoredTable.select_ok.1 hselect
  obtain rfl := Except.ok.inj (ha.compared.symm.trans ha'.compared)
  obtain rfl := Except.ok.inj (ha.bound.symm.trans ha'.bound)
  obtain ⟨read, -, hread⟩ := exists_of_mem ha'.read hcells
  cases hunread.symm.trans hread

/-- Where the page is null and the first row is not, the page is lost to a later row. -/
theorem laterUnread_of_null (hpage : pageResult r known db table args = .ok .null) {v : Value}
    (hfirst : firstResult r known db table args = .ok v) (hv : v ≠ .null) : LaterUnread r known db table args := by
  obtain ⟨request, name, t, cs, bs, row, hrequest, hnamed, ha, -⟩ := first_given hfirst hv
  have hcount : t.count name (callScope (request.forRoot table)).conditions = .ok (t.chosen bs).length :=
    StoredTable.count_ok.2 ⟨cs, bs, ha.compared, ha.bound, ha.patterns, rfl⟩
  rw [pageResult_eq (connected_of_page hpage), hrequest, hnamed] at hpage
  change settled (pageOfAnswers request (t.count name (callScope (request.forRoot table)).conditions)
    (t.select name (pageScope r.settings table request))) = .ok .null at hpage
  rw [hcount] at hpage
  cases hselect : t.select name (pageScope r.settings table request) with
  | ok rows =>
    rw [hselect] at hpage
    exact absurd (Except.ok.inj hpage) (ne_null_pageValue _ _ _)
  | error e =>
    have hdata : e.isData = true := by
      by_contra hno
      rw [hselect] at hpage
      change (if e.isData then .ok .null else .error e) = Except.ok Value.null at hpage
      rw [if_neg hno] at hpage
      cases hpage
    obtain ⟨cells, hcells, hunread⟩ := unread_of_first ha hselect hdata
    exact ⟨request, name, t, cs, bs, row, hrequest, hnamed, ha, cells, hcells, e, hunread, hdata⟩

/-- Where a page is given, so is a first row, the first of its rows. -/
theorem first_of_given
    (hlimit : ∀ request, requestArgs args = .ok request → 1 ≤ r.settings.clampLimit (request.forRoot table).limit)
    {page : Value} (hpage : pageResult r known db table args = .ok page) (hgiven : page ≠ .null) :
    ∃ total request rows, page = pageValue total request rows ∧
      firstResult r known db table args = .ok ((records request rows).headD .null) := by
  obtain ⟨request, name, t, total, rows, hrequest, hnamed, -, hselect, rfl⟩ := page_given hpage hgiven
  obtain ⟨cs, bs, ha⟩ := StoredTable.select_ok.1 hselect
  have hone := StoredTable.select_ok.2 ⟨cs, bs, first_answered (hlimit request hrequest) ha⟩
  refine ⟨total, request, rows, rfl, ?_⟩
  rw [firstResult_eq (connected_of_page hpage), hrequest, hnamed]
  change settled (do
    let rows ← t.select name (firstScope table request)
    return (records request rows).headD .null) = _
  rw [hone]
  cases rows <;> rfl

end Resolver

/-- A page and the first row of the same arguments, which ask for one row at least, where neither raises. The first
row is the first item of the page, with the same request arguments, if there is one. It is null exactly if the page is
null or has no items, unless the row is handed out and the page is lost to a later row: one that the store cannot read
since it does not hold JSON where the column says so. -/
theorem first_of_page {ι : Type} (r : Resolver ι) (known : List String) (db : Database) (table : Option String)
    (args : Args)
    (hlimit : ∀ request, requestArgs args = .ok request → 1 ≤ r.settings.clampLimit (request.forRoot table).limit)
    {page first : Value} (hpage : pageResult r known db table args = .ok page)
    (hfirst : firstResult r known db table args = .ok first) :
    (∀ item rest, page.member "items" = .list (item :: rest) → first = item) ∧
    ((first = .null ↔ page = .null ∨ page.member "items" = .list []) ↔ ¬ LaterUnread r known db table args) ∧
    (LaterUnread r known db table args → page = .null ∧ first ≠ .null ∧
      ∃ name t, db.tableNamed known table = .ok (name, t) ∧ ∃ c ∈ t.columns, c.kind = .packedJson) := by
  have hlost (h : LaterUnread r known db table args) : page = .null ∧ first ≠ .null :=
    ⟨h.page_null hpage, h.first_ne_null (connected_of_page hpage) hfirst⟩
  refine ⟨fun item rest hitems => ?_, ⟨fun hsame hunread => ?_, fun hread => ?_⟩, fun hunread => ?_⟩
  · have hgiven : page ≠ .null := by
      rintro rfl
      cases hitems
    obtain ⟨total, request, rows, rfl, hone⟩ := first_of_given hlimit hpage hgiven
    obtain rfl := Except.ok.inj (hfirst.symm.trans hone)
    obtain hrecords : records request rows = item :: rest := Value.list.inj hitems
    rw [hrecords]
    rfl
  · obtain ⟨hnull, hnot⟩ := hlost hunread
    exact hnot (hsame.2 (.inl hnull))
  · by_cases hnull : page = .null
    · subst hnull
      have hfirstNull : first = .null := by
        by_contra hv
        exact hread (laterUnread_of_null hpage hfirst hv)
      exact ⟨fun _ => .inl rfl, fun _ => hfirstNull⟩
    · obtain ⟨total, request, rows, rfl, hone⟩ := first_of_given hlimit hpage hnull
      obtain rfl := Except.ok.inj (hfirst.symm.trans hone)
      cases rows with
      | nil => exact ⟨fun _ => .inr rfl, fun _ => rfl⟩
      | cons row rest =>
        refine ⟨fun h => Value.noConfusion h, fun h => ?_⟩
        rcases h with h | h
        · exact absurd h hnull
        · cases h
  · exact ⟨(hlost hunread).1, (hlost hunread).2, hunread.packed⟩

/-- The first level above ten points, and the page of two that it begins. -/
theorem first_of_levels :
    let db : Database := { tables := [levelsTable] }
    let args := Resolver.pageArgs "points>10" 2 0
    let row (player : String) (level points : Int) : Row :=
      [("player", .text player), ("level", .int level), ("points", .int points)]
    ∃ request first, requestArgs args = .ok request ∧
      1 ≤ levelsResolver.settings.clampLimit (request.forRoot (some "levels")).limit ∧
      pageResult levelsResolver ["levels"] db (some "levels") args =
        .ok (pageValue 3 request [row "al" 3 40, row "al" 7 12]) ∧
      firstResult levelsResolver ["levels"] db (some "levels") args = .ok first ∧
      first = .record (row "al" 3 40) request := by
  intro db args row
  have hlimit : ∀ request, requestArgs args = .ok request →
      1 ≤ levelsResolver.settings.clampLimit (request.forRoot (some "levels")).limit := by
    intro request h
    obtain rfl := Except.ok.inj (requestArgs_levels.symm.trans h)
    rw [forRoot_levels]
    decide
  obtain ⟨_, _, _, -, hfirst⟩ := first_of_given hlimit page_levels (ne_null_pageValue _ _ _)
  have hsame := (first_of_page levelsResolver ["levels"] db (some "levels") args hlimit page_levels hfirst).1 _ _ rfl
  exact ⟨_, _, requestArgs_levels, hlimit _ requestArgs_levels, page_levels, hfirst, hsame⟩

/-- A note that holds JSON, and one that does not. -/
def notesTable : StoredTable where
  name := "notes"
  columns := [⟨"id", "INTEGER", true, false, none⟩, ⟨"q", "JSONB", false, true, none⟩]
  rows := [[.int 1, .text "[1]"], [.int 2, .text "\x7bbad"]]

def notesResolver : Resolver Unit where
  connected := true

/-- The second note costs the page, and the first row is handed out all the same. -/
theorem notes_page_lost :
    let db : Database := { tables := [notesTable] }
    let page := pageResult notesResolver ["notes"] db (some "notes") []
    let first := firstResult notesResolver ["notes"] db (some "notes") []
    (∀ request, requestArgs [] = .ok request →
      1 ≤ notesResolver.settings.clampLimit (request.forRoot (some "notes")).limit) ∧
    page = .ok .null ∧ first = .ok (.record [("id", .int 1), ("q", .list [.int 1])] .empty) ∧
    ¬ ∀ p v, page = .ok p → first = .ok v → (v = .null ↔ p = .null ∨ p.member "items" = .list []) := by
  intro db page first
  have hrequest : requestArgs [] = .ok .empty := requestArgs_unfiltered []
  have hnamed : db.tableNamed ["notes"] (some "notes") = .ok ("notes", notesTable) := by rfl
  have hsorted : notesTable.sorted [] (notesTable.chosen []) = notesTable.rows :=
    List.mergeSort_of_pairwise (by decide +kernel)
  have hselect (n : Int) (hn : StoredTable.checkRange n = .ok ()) : notesTable.select "notes" { limit := some n } =
      notesTable.readRows (StoredTable.window (some n) 0 notesTable.rows) := by
    rw [← hsorted]
    exact StoredTable.select_eq rfl rfl rfl rfl hn rfl rfl
  have hpage : page = .ok .null := by
    change pageResult notesResolver ["notes"] db (some "notes") [] = _
    rw [pageResult_eq rfl, hrequest, hnamed]
    change settled (pageOfAnswers .empty (notesTable.count "notes" []) (notesTable.select "notes" { limit := some 25 })) = _
    rw [hselect 25 rfl]
    rfl
  have hfirst : first = .ok (.record [("id", .int 1), ("q", .list [.int 1])] .empty) := by
    change firstResult notesResolver ["notes"] db (some "notes") [] = _
    rw [firstResult_eq rfl, hrequest, hnamed]
    change settled (do
      let rows ← notesTable.select "notes" { limit := some 1 }
      return (records .empty rows).headD .null) = _
    rw [hselect 1 rfl]
    rfl
  refine ⟨fun request h => ?_, hpage, hfirst, fun hsame => ?_⟩
  · obtain rfl := Except.ok.inj (hrequest.symm.trans h)
    decide
  · cases (hsame _ _ hpage hfirst).2 (.inl rfl)

end TableGraph
