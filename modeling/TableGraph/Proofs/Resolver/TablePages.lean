import TableGraph.Proofs.Resolver.Pages
import TableGraph.Proofs.Store.Order

/-! # The pages of a stored table

A store serves the pages of a table: once a page is given, count and select answer by the same rows, those that satisfy
the conditions, in the order of the key (`Begun.serves`). So what holds of the pages of any database holds of those of a
table (`pages_cover`).
-/
namespace TableGraph

namespace Resolver
open Chain Store
variable {ι : Type}

/-- What the pages of a table under a filter have in common, once one of them is given. -/
structure Begun (r : Resolver ι) (name filter : String) (size : Nat) (t : StoredTable) (scopes : Scopes)
    (bs : List BoundTest) : Prop extends Asked r filter size scopes where
  compared : ∃ cs, (t.shape name).compareAll (rootConditions scopes name) = .ok cs ∧ t.bindTests cs = .ok bs
  patterns : t.checkPatterns [] bs = .ok ()

section Pages
variable {r : Resolver ι} {known : List String} {db : Database} {name filter : String} {size : Nat} {t : StoredTable}
  {scopes : Scopes} {bs : List BoundTest}

theorem checkRange_ok {n : Int} : StoredTable.checkRange n = .ok () ↔ fits n = true := by
  rw [StoredTable.checkRange]
  split <;> simp_all

theorem fits_of_le {m n : Nat} (hmn : m ≤ n) (h : fits n = true) : fits m = true := by
  rw [fits_iff, minInt] at h ⊢
  omega

theorem begun_of_page (hnamed : db.tableNamed known (some name) = .ok (name, t))
    (hmax : (size : Int) ≤ r.settings.maxPageSize) {v : Value}
    (h : pageAt r (Database.answer known) db name filter size 0 = .ok v) (hv : v ≠ .null) :
    ∃ scopes bs, Begun r name filter size t scopes bs := by
  have hconnected := connected_of_page h
  cases hrequest : requestArgs (pageArgs filter size 0) with
  | error e =>
    have hnull : pageAt r (Database.answer known) db name filter size 0 = settled (.error e) := by
      rw [pageAt, page_unread r (some name) hconnected hrequest]
      exact (run_orNull _ _ _ _).1
    rw [hnull] at h
    rcases settled_eq_ok h with h | h
    · cases h
    · exact absurd h hv
  | ok request =>
    obtain ⟨scopes, hfilter, hsize, hzero, -⟩ := requestArgs_pageArgs.1 hrequest
    rw [run_pageAt hconnected hmax hfilter hsize hzero] at h
    rcases settled_eq_ok h with h | h
    · obtain ⟨⟨total, rows⟩, hboth, -⟩ := map_eq_ok.1 h
      obtain ⟨-, hselect⟩ := bothAnswers_ok.1 hboth
      simp only [Database.answer, hnamed, Except.bind, windowArgs] at hselect
      obtain ⟨cs, bs, ha⟩ := StoredTable.select_ok.1 hselect
      exact ⟨scopes, bs, ⟨hconnected, hfilter, checkRange_ok.1 ha.limit⟩, ⟨cs, ha.compared, ha.bound⟩, ha.patterns⟩
    · exact absurd h hv

/-- A store answers the questions of all pages by the rows that meet the tests, in the order of the key. -/
theorem Begun.serves (hnamed : db.tableNamed known (some name) = .ok (name, t))
    (h : Begun r name filter size t scopes bs) :
    Serves (Database.answer known) db name (rootConditions scopes name) t.readRow (t.sorted [] (t.chosen bs)) := by
  obtain ⟨cs, hcompared, hbound⟩ := h.compared
  constructor
  · have hcount : t.count name (rootConditions scopes name) = .ok (t.sorted [] (t.chosen bs)).length := by
      refine StoredTable.count_ok.2 ⟨cs, bs, hcompared, hbound, h.patterns, ?_⟩
      rw [StoredTable.sorted, List.length_mergeSort]
    simp only [Database.answer, hnamed, Except.bind, hcount]
  · intro limit offset hlimit hoffset
    have hselect :
        t.select name { conditions := rootConditions scopes name, limit := some (limit : Int), offset := offset } =
          t.readRows (StoredTable.window (some (limit : Int)) offset (t.sorted [] (t.chosen bs))) :=
      StoredTable.select_eq hcompared rfl hbound rfl (checkRange_ok.2 hlimit) (checkRange_ok.2 hoffset) h.patterns
    have hwindow : StoredTable.window (some (limit : Int)) offset (t.sorted [] (t.chosen bs)) =
        ((t.sorted [] (t.chosen bs)).drop offset).take limit := by
      simp only [StoredTable.window, Int.toNat_natCast]
      exact if_neg (by omega)
    simp only [Database.answer, hnamed, Except.bind, hselect, hwindow, StoredTable.readRows]

/-- A page holds what is read from a window of the rows that satisfy the conditions. -/
theorem page_at (hnamed : db.tableNamed known (some name) = .ok (name, t))
    (hmax : (size : Int) ≤ r.settings.maxPageSize) (h : Begun r name filter size t scopes bs) {offset : Nat}
    (hoffset : fits offset = true) :
    pageAt r (Database.answer known) db name filter size offset =
      settled ((t.readRows (((t.sorted [] (t.chosen bs)).drop offset).take size)).map
        (pageValue (t.sorted [] (t.chosen bs)).length
          ((RequestArgs.mk scopes).overlay ⟨Request.pagingScopes size offset⟩))) :=
  (h.serves hnamed).page h.toAsked hmax hoffset

end Pages

end Resolver

open Resolver Store

/-- A table whose rows are told apart by its key, of which no cell is null, and can be counted in 64 bits. -/
structure Store.StoredTable.OrderedByKey (t : StoredTable) : Prop where
  keyed : t.KeyedBy t.keyNames
  given : ∀ row ∈ t.rows, ∀ c ∈ t.keyColumns, (t.cellAt row c.name).isNull = false
  countable : fits t.rows.length = true

/-- Going through the pages of a table under a filter, if the first of them is given. There are the rows that
satisfy all conditions that the filter puts on the table, in strictly ascending order of the key. Every page tells how
many they are and holds what is read from its window of them, and if a row of the window cannot be read, it is null or
fails. So there are pages to the end exactly if all of these rows can be read. And whatever the pages are that are given
until the total is reached: the total that all of them tell is the number of these rows, together they are these
rows, and each but the last is full. -/
theorem pages_cover {ι : Type} (r : Resolver ι) {known : List String} {db : Database} {name : String} {t : StoredTable}
    (hnamed : db.tableNamed known (some name) = .ok (name, t)) (hkey : t.OrderedByKey) {filter : String} {size : Nat}
    (hsize : 1 ≤ size) (hmax : (size : Int) ≤ r.settings.maxPageSize) {first : Value}
    (hfirst : pageAt r (Database.answer known) db name filter size 0 = .ok first) (hgiven : first ≠ .null) :
    let page := pageAt r (Database.answer known) db name filter size
    ∃ scopes rows, Request.parseFilter filter.toList = .ok scopes ∧
      (∀ row, row ∈ rows ↔ row ∈ t.rows ∧ ∀ c ∈ rootConditions scopes name, t.Satisfies name row c) ∧
      rows.Pairwise (t.KeyBefore t.keyNames) ∧ Windowed page size t.readRow rows ∧
      ((∃ total pages, Paged page size total 0 pages) ↔ ∃ read, t.readRows rows = .ok read) ∧
      ∀ total pages, Paged page size total 0 pages →
        total = rows.length ∧ t.readRows rows = .ok pages.flatten ∧ ∀ page ∈ pages.dropLast, page.length = size := by
  intro page
  obtain ⟨scopes, bs, hbegun⟩ := begun_of_page hnamed hmax hfirst hgiven
  obtain ⟨cs, hcompared, hbound⟩ := hbegun.compared
  have hperm : (t.sorted [] (t.chosen bs)).Perm (t.chosen bs) := List.mergeSort_perm _ _
  have hcount : (t.sorted [] (t.chosen bs)).length ≤ t.rows.length :=
    hperm.length_eq ▸ List.length_filter_le _ _
  have hwindowed : Windowed page size t.readRow (t.sorted [] (t.chosen bs)) :=
    fun offset hoffset => ⟨_, page_at hnamed hmax hbegun (fits_of_le (Nat.le_trans hoffset hcount) hkey.countable)⟩
  refine ⟨scopes, t.sorted [] (t.chosen bs), hbegun.filter, fun row => ?_, ?_, hwindowed, hwindowed.paged_iff hsize,
    fun total pages hpages => hwindowed.read (Nat.zero_le _) hpages⟩
  · rw [hperm.mem_iff, StoredTable.chosen, List.mem_filter,
      StoredTable.meetsAll_iff_satisfies hcompared hbound row]
  · exact StoredTable.sorted_ascending (fun row hrow => hkey.given row (List.mem_of_mem_filter hrow))
      (hkey.keyed.unique.filter _)

/-! The levels of players, under a filter that leaves one of them out. -/

def levelsTable : StoredTable where
  name := "levels"
  columns := [⟨"player", "TEXT", true, false, none⟩, ⟨"level", "INTEGER", true, false, none⟩,
    ⟨"points", "INTEGER", false, true, none⟩]
  rows := [[.text "bo", .int 2, .int 30], [.text "al", .int 7, .int 12], [.text "bo", .int 1, .int 5],
    [.text "al", .int 3, .int 40]]

def levelsResolver : Resolver Unit where
  connected := true

theorem orderedByKey_levelsTable : levelsTable.OrderedByKey where
  keyed := ⟨⟨by decide, by decide⟩, by decide, by decide, by decide, by decide +kernel⟩
  given := by decide
  countable := by decide

/-- The test that the filter `points>10` comes to. -/
def above10 : BoundTest := ⟨"points", .integer, .gt, .int 10⟩

def levelsAbove10 : List Cells :=
  [[.text "al", .int 3, .int 40], [.text "al", .int 7, .int 12], [.text "bo", .int 2, .int 30]]

theorem sorted_levelsTable : levelsTable.sorted [] (levelsTable.chosen [above10]) = levelsAbove10 := by
  let before (a b : Cells) : Prop := levelsTable.comesBefore (levelsTable.orderOr []) a b = true
  have hperm : (levelsTable.sorted [] (levelsTable.chosen [above10])).Perm levelsAbove10 :=
    (List.mergeSort_perm _ _).trans (by decide +kernel)
  have hantisymm : ∀ a ∈ levelsAbove10, ∀ b ∈ levelsAbove10, before a b → before b a → a = b := by decide +kernel
  have hsorted : levelsAbove10.Pairwise before := by decide +kernel
  exact List.Perm.eq_of_pairwise (fun a b ha hb => hantisymm a (hperm.mem_iff.1 ha) b hb)
    (List.pairwise_mergeSort (StoredTable.comesBefore_trans _) (StoredTable.comesBefore_total _) _) hsorted hperm

/-- Three of the four levels are on two pages. -/
theorem pages_levels :
    let db : Database := { tables := [levelsTable] }
    let page := pageAt levelsResolver (Database.answer ["levels"]) db "levels" "points>10" 2
    let row (player : String) (level points : Int) : Row :=
      [("player", .text player), ("level", .int level), ("points", .int points)]
    db.tableNamed ["levels"] (some "levels") = .ok ("levels", levelsTable) ∧ levelsTable.OrderedByKey ∧
      ((2 : Nat) : Int) ≤ levelsResolver.settings.maxPageSize ∧ (∃ first, page 0 = .ok first ∧ first ≠ .null) ∧
      Paged page 2 3 0 [[row "al" 3 40, row "al" 7 12], [row "bo" 2 30]] ∧
      ∃ scopes rows, Request.parseFilter "points>10".toList = .ok scopes ∧
        (∀ row, row ∈ rows ↔
          row ∈ levelsTable.rows ∧ ∀ c ∈ rootConditions scopes "levels", levelsTable.Satisfies "levels" row c) ∧
        levelsTable.readRows rows = .ok [row "al" 3 40, row "al" 7 12, row "bo" 2 30] := by
  intro db page row
  have hnamed : db.tableNamed ["levels"] (some "levels") = .ok ("levels", levelsTable) := by rfl
  have hmax : ((2 : Nat) : Int) ≤ levelsResolver.settings.maxPageSize := by decide
  have hbegun : Begun levelsResolver "levels" "points>10" 2 levelsTable
      [(none, { conditions := [⟨"points", "gt", "10"⟩] })] [above10] :=
    ⟨⟨rfl, rfl, by decide⟩, ⟨_, rfl, rfl⟩, rfl⟩
  have hpage (offset : Nat) (hoffset : fits offset = true) := page_at hnamed hmax hbegun hoffset
  rw [sorted_levelsTable] at hpage
  have hfirst : page 0 = .ok (pageValue 3 _ [row "al" 3 40, row "al" 7 12]) := hpage 0 (by decide)
  have hsecond : page 2 = .ok (pageValue 3 _ [row "bo" 2 30]) := hpage 2 (by decide)
  have hpaged : Paged page 2 3 0 [[row "al" 3 40, row "al" 7 12], [row "bo" 2 30]] :=
    .more hfirst (by decide) (.last hsecond (by decide))
  obtain ⟨scopes, rows, hscopes, hrows, -, -, -, hpages⟩ :=
    pages_cover levelsResolver hnamed orderedByKey_levelsTable (by decide) hmax hfirst (ne_null_pageValue _ _ _)
  exact ⟨hnamed, orderedByKey_levelsTable, hmax, ⟨_, hfirst, ne_null_pageValue _ _ _⟩, hpaged, scopes, rows, hscopes,
    hrows, (hpages 3 _ hpaged).2.1⟩

/-- Two days, of which the second one is no date. -/
def daysTable : StoredTable where
  name := "days"
  columns := [⟨"id", "INTEGER", true, false, none⟩, ⟨"day", "DATE", false, true, none⟩]
  rows := [[.int 1, .text "2024-01-01"], [.int 2, .text "soon"]]

theorem orderedByKey_daysTable : daysTable.OrderedByKey where
  keyed := ⟨⟨by decide, by decide⟩, by decide, by decide, by decide, by decide +kernel⟩
  given := by decide
  countable := by decide

theorem readRow_day (n : Int) (day : String) : daysTable.readRow [.int n, .text day] =
    (readDate (.text day)).map fun v => [("id", .int n), ("day", v)] := by
  have hday : readCell (StoredColumn.kind ⟨"day", "DATE", false, true, none⟩) (.text day) = readDate (.text day) := by
    rfl
  simp only [StoredTable.readRow, daysTable, List.zip_cons_cons, List.zip_nil_right, List.mapM_cons, List.mapM_nil, hday]
  cases readDate (.text day) <;> rfl

theorem readRow_firstDay :
    daysTable.readRow [.int 1, .text "2024-01-01"] = .ok [("id", .int 1), ("day", .scalar (.date ⟨2024, 1, 1⟩))] := by
  have hread : Date.read? "2024-01-01".toList = some ⟨2024, 1, 1⟩ := by decide +kernel
  rw [readRow_day, readDate, hread]
  rfl

theorem readRow_secondDay : daysTable.readRow [.int 2, .text "soon"] = .error .unreadable := by
  have hread : Date.read? "soon".toList = none := by decide +kernel
  rw [readRow_day, readDate, hread]
  rfl

/-- The first of two pages is given, and it tells that there are two rows. The second one fails, so there are no pages
to the end. -/
theorem days_page_lost :
    let db : Database := { tables := [daysTable] }
    let page := pageAt levelsResolver (Database.answer ["days"]) db "days" "" 1
    db.tableNamed ["days"] (some "days") = .ok ("days", daysTable) ∧ daysTable.OrderedByKey ∧
      ((1 : Nat) : Int) ≤ levelsResolver.settings.maxPageSize ∧
      (∃ args, page 0 = .ok (pageValue 2 args [[("id", .int 1), ("day", .scalar (.date ⟨2024, 1, 1⟩))]])) ∧
      page 1 = .error .unreadable ∧ ¬ ∃ total pages, Paged page 1 total 0 pages := by
  intro db page
  have hnamed : db.tableNamed ["days"] (some "days") = .ok ("days", daysTable) := by rfl
  have hmax : ((1 : Nat) : Int) ≤ levelsResolver.settings.maxPageSize := by decide
  have hsorted : daysTable.sorted [] (daysTable.chosen []) = daysTable.rows :=
    List.mergeSort_of_pairwise (by decide +kernel)
  have hbegun : Begun levelsResolver "days" "" 1 daysTable [] [] :=
    ⟨⟨rfl, rfl, by decide⟩, ⟨_, rfl, rfl⟩, rfl⟩
  have hpage (offset : Nat) (hoffset : fits offset = true) := page_at hnamed hmax hbegun hoffset
  rw [hsorted] at hpage
  have hfirst := hpage 0 (by decide)
  have hsecond := hpage 1 (by decide)
  have hreadFirst : daysTable.readRows ((daysTable.rows.drop 0).take 1) = _ := Chain.mapM_singleton readRow_firstDay
  have hreadSecond : daysTable.readRows ((daysTable.rows.drop 1).take 1) = .error .unreadable := by
    change [[Cell.int 2, .text "soon"]].mapM daysTable.readRow = _
    rw [List.mapM_cons, readRow_secondDay]
    rfl
  rw [hreadFirst] at hfirst
  rw [hreadSecond] at hsecond
  refine ⟨hnamed, orderedByKey_daysTable, hmax, ⟨_, hfirst⟩, hsecond, ?_⟩
  rintro ⟨total, pages, hpages⟩
  cases hpages with
  | last page ends =>
    obtain ⟨htotal, -⟩ := pageValue_inj (Except.ok.inj (hfirst.symm.trans page))
    change (2 : Int) = total at htotal
    omega
  | more page goes next =>
    cases next with
    | last page => cases hsecond.symm.trans page
    | more page => cases hsecond.symm.trans page

end TableGraph
