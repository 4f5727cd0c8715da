import TableGraph.Proofs.Request.Reading
import TableGraph.Proofs.Resolver.Questions

/-! # Going through pages

A page asks a database for the number of rows that satisfy its conditions, and for a window of them. What it needs of
the database is no more than that these two answers are about the same rows (`Serves`). Then a page holds what is read
from its window and tells how many rows there are in all (`Serves.page`). So asking for one page after the other, each
as large as the one before, gives all of these rows, each of them once, up to the first page that cannot be read
(`Windowed.paged`, `Windowed.read`).
-/
namespace TableGraph

namespace Resolver
open Chain Store
variable {ι : Type}

/-! ## A page of a database -/

/-- The arguments of a page of some size under a filter, from an offset on. -/
def pageArgs (filter : String) (size offset : Nat) : Args :=
  [("filter", .text filter), ("pagination", .text (Request.paging size offset))]

theorem requestArgs_pageArgs {filter : String} {size offset : Nat} {request : RequestArgs} :
    requestArgs (pageArgs filter size offset) = .ok request ↔
      ∃ scopes, Request.parseFilter filter.toList = .ok scopes ∧
        (Number.natText size).length ≤ Number.maxDigits ∧ (Number.natText offset).length ≤ Number.maxDigits ∧
        request = (RequestArgs.mk scopes).overlay ⟨Request.pagingScopes size offset⟩ := by
  have hargs : requestArgs (pageArgs filter size offset) =
      (Request.parse filter.toList (Request.paging size offset).toList).mapError .request := by
    rw [← toList_givenText filter, ← toList_givenText (Request.paging size offset)]
    rfl
  rw [hargs, mapError_eq_ok]
  constructor
  · intro h
    obtain ⟨scopes, hscopes, h⟩ := bind_eq_ok.1 h
    obtain ⟨paging, hpaging, h⟩ := bind_eq_ok.1 h
    rw [Request.parsePagination_paging] at hpaging
    split at hpaging
    · split at hpaging
      · rename_i hsize hoffset
        obtain rfl := Except.ok.inj hpaging
        exact ⟨scopes, hscopes, hsize, hoffset, (Except.ok.inj h).symm⟩
      · cases hpaging
    · cases hpaging
  · rintro ⟨scopes, hscopes, hsize, hoffset, rfl⟩
    refine bind_eq_ok.2 ⟨scopes, hscopes, bind_eq_ok.2 ⟨Request.pagingScopes size offset, ?_, rfl⟩⟩
    rw [Request.parsePagination_paging, if_pos hsize, if_pos hoffset]

/-- The conditions that a filter puts on a table at the root. -/
def rootConditions (scopes : Scopes) (table : String) : List (Condition Value) :=
  ((RequestArgs.mk scopes).forRoot (some table)).conditions.map Condition.toCall

/-- What a page needs of a database. There are rows of a table that satisfy the conditions, in an order of their own,
and the database tells their number, and gives for a select without an order what it reads from a window of them.
Neither changes it. -/
structure Serves {σ ρ : Type} (answer : (c : Call) → σ → Except Failure c.Answer × σ) (s : σ) (table : String)
    (conditions : List (Condition Value)) (read : ρ → Except Failure Row) (rows : List ρ) : Prop where
  count : answer (.count (some table) conditions) s = (.ok (rows.length : Int), s)
  select {limit offset : Nat} (hlimit : fits limit = true) (hoffset : fits offset = true) :
    answer (.select (some table) { conditions, limit := some (limit : Int), offset }) s =
      (((rows.drop offset).take limit).mapM read, s)

/-- Pages of some size can be asked for under a filter. -/
structure Asked (r : Resolver ι) (filter : String) (size : Nat) (scopes : Scopes) : Prop where
  connected : r.connected = true
  filter : Request.parseFilter filter.toList = .ok scopes
  fits : Store.fits size = true

section Pages
variable {σ : Type} (r : Resolver ι) (answer : (c : Call) → σ → Except Failure c.Answer × σ) (s : σ)
  (name filter : String) (size : Nat)

/-- The page of a table under a filter that starts at an offset. -/
def pageAt (offset : Nat) : Except Failure Value :=
  ((r.page (some name) (pageArgs filter size offset)).run answer s).result

end Pages

section Pages
variable {σ ρ : Type} {r : Resolver ι} {answer : (c : Call) → σ → Except Failure c.Answer × σ} {s : σ}
  {name filter : String} {size : Nat} {scopes : Scopes}

/-- What the select of a page under a filter asks for. -/
def windowArgs (scopes : Scopes) (table : String) (size offset : Nat) : ScopeArgs Value :=
  { conditions := rootConditions scopes table, limit := some (size : Int), offset := offset }

/-- The questions of a page under a filter. -/
theorem run_pageAt (hconnected : r.connected = true) (hmax : (size : Int) ≤ r.settings.maxPageSize)
    (hfilter : Request.parseFilter filter.toList = .ok scopes)
    (hsize : (Number.natText size).length ≤ Number.maxDigits) {offset : Nat}
    (hoffset : (Number.natText offset).length ≤ Number.maxDigits) :
    pageAt r answer s name filter size offset = settled (pageOfAnswers
      ((RequestArgs.mk scopes).overlay ⟨Request.pagingScopes size offset⟩)
      (answer (.count (some name) (rootConditions scopes name)) s).1
      (answer (.select (some name) (windowArgs scopes name size offset))
        (answer (.count (some name) (rootConditions scopes name)) s).2).1) := by
  have hclamp : r.settings.clampLimit (some (size : Int)) = size := by
    rw [Settings.clampLimit]
    omega
  have hrequest := requestArgs_pageArgs.2 ⟨scopes, hfilter, hsize, hoffset, rfl⟩
  rw [pageAt, run_page hconnected, hrequest]
  change settled (pageOfAnswers _ (answer (pageCount (some name) (RequestArgs.forRoot _ (some name))) s).1 _) = _
  rw [Request.forRoot_paging hfilter]
  dsimp only [pageCount, pageSelect]
  rw [hclamp]
  rfl

/-- A page holds what is read from a window of the rows. -/
theorem Serves.page {read : ρ → Except Failure Row} {rows : List ρ}
    (h : Serves answer s name (rootConditions scopes name) read rows) (hasked : Asked r filter size scopes)
    (hmax : (size : Int) ≤ r.settings.maxPageSize) {offset : Nat} (hoffset : fits offset = true) :
    pageAt r answer s name filter size offset =
      settled ((((rows.drop offset).take size).mapM read).map
        (pageValue rows.length ((RequestArgs.mk scopes).overlay ⟨Request.pagingScopes size offset⟩))) := by
  have hreadable {n : Nat} (hn : fits n = true) : (Number.natText n).length ≤ Number.maxDigits :=
    Number.length_natText_of_fits hn
  rw [run_pageAt hasked.connected hmax hasked.filter (hreadable hasked.fits) (hreadable hoffset), h.count, windowArgs,
    h.select hasked.fits hoffset]
  cases ((rows.drop offset).take size).mapM read <;> rfl

end Pages

/-! ## One page after another -/

/-- Pages one after another, from an offset on and until the total is reached. Every page tells this total. -/
inductive Paged (pageAt : Nat → Except Failure Value) (size total : Nat) : (offset : Nat) → List (List Row) → Prop where
  | last {offset : Nat} {args : RequestArgs} {rows : List Row} (page : pageAt offset = .ok (pageValue total args rows))
      (ends : total ≤ offset + size) : Paged pageAt size total offset [rows]
  | more {offset : Nat} {args : RequestArgs} {rows : List Row} {later : List (List Row)}
      (page : pageAt offset = .ok (pageValue total args rows)) (goes : offset + size < total)
      (next : Paged pageAt size total (offset + size) later) : Paged pageAt size total offset (rows :: later)

section Paged
variable {ρ : Type} {pageAt : Nat → Except Failure Value} {size : Nat} {readRow : ρ → Except Failure Row} {rows : List ρ}

theorem Paged.ne_nil {total offset : Nat} {pages : List (List Row)} (h : Paged pageAt size total offset pages) :
    pages ≠ [] := by
  cases h <;> exact List.cons_ne_nil _ _

/-- Every page holds what is read from its window of the rows, and tells how many there are. If its rows cannot be
read, it is null or fails. -/
def Windowed (pageAt : Nat → Except Failure Value) (size : Nat) (readRow : ρ → Except Failure Row) (rows : List ρ) :
    Prop :=
  ∀ offset ≤ rows.length, ∃ args, pageAt offset =
    settled ((((rows.drop offset).take size).mapM readRow).map (pageValue rows.length args))

/-- Rows that can be read can be gone through page by page. -/
theorem Windowed.paged (h : Windowed pageAt size readRow rows) (hsize : 1 ≤ size) {offset : Nat}
    (hoffset : offset ≤ rows.length) {read : List Row} (hread : (rows.drop offset).mapM readRow = .ok read) :
    ∃ pages, Paged pageAt size rows.length offset pages ∧ pages.flatten = read := by
  -- the number of rows that are left becomes less with every page
  induction hleft : rows.length - offset using Nat.strongRecOn generalizing offset read with
  | ind left ih =>
    obtain ⟨args, hpage⟩ := h offset hoffset
    by_cases hends : rows.length ≤ offset + size
    · have hall : (rows.drop offset).take size = rows.drop offset := by
        apply List.take_of_length_le
        rw [List.length_drop]
        omega
      rw [hall, hread] at hpage
      exact ⟨[read], .last hpage hends, List.flatten_singleton⟩
    · rw [← List.take_append_drop size (rows.drop offset), List.drop_drop] at hread
      obtain ⟨here, later, hhere, hlater, rfl⟩ := mapM_append_ok.1 hread
      obtain ⟨pages, hpaged, rfl⟩ := ih (rows.length - (offset + size)) (by omega) (by omega) hlater rfl
      rw [hhere] at hpage
      exact ⟨here :: pages, .more hpage (by omega) hpaged, List.flatten_cons⟩

/-- What is gone through page by page are all the rows from the offset on. Every page but the last is full. -/
theorem Windowed.read (h : Windowed pageAt size readRow rows) {total offset : Nat} (hoffset : offset ≤ rows.length)
    {pages : List (List Row)} (hp : Paged pageAt size total offset pages) :
    total = rows.length ∧ (rows.drop offset).mapM readRow = .ok pages.flatten ∧
      ∀ page ∈ pages.dropLast, page.length = size := by
  have hone {offset : Nat} {args : RequestArgs} {page : List Row} (hoffset : offset ≤ rows.length)
      (hpage : pageAt offset = .ok (pageValue total args page)) :
      total = rows.length ∧ ((rows.drop offset).take size).mapM readRow = .ok page := by
    obtain ⟨args', he⟩ := h offset hoffset
    rcases settled_eq_ok (he.symm.trans hpage) with hok | hnull
    · obtain ⟨read, hread, hvalue⟩ := map_eq_ok.1 hok
      obtain ⟨htotal, rfl⟩ := pageValue_inj hvalue
      exact ⟨by omega, hread⟩
    · exact absurd hnull (ne_null_pageValue _ _ _)
  induction hp with
  | @last offset args page hpage hends =>
    obtain ⟨htotal, hread⟩ := hone hoffset hpage
    have hall : (rows.drop offset).take size = rows.drop offset := by
      apply List.take_of_length_le
      rw [List.length_drop]
      omega
    rw [hall] at hread
    refine ⟨htotal, ?_, by simp⟩
    rw [List.flatten_singleton]
    exact hread
  | @more offset args page later hpage hgoes hnext ih =>
    obtain ⟨htotal, hread⟩ := hone hoffset hpage
    obtain ⟨-, hlater, hfull⟩ := ih (by omega)
    refine ⟨htotal, ?_, ?_⟩
    · rw [← List.take_append_drop size (rows.drop offset), List.drop_drop]
      exact mapM_append_ok.2 ⟨page, later.flatten, hread, hlater, List.flatten_cons⟩
    · rw [List.dropLast_cons_of_ne_nil hnext.ne_nil]
      have hlength : page.length = size := by
        rw [length_of_mapM hread, List.length_take, List.length_drop]
        omega
      exact List.forall_mem_cons.2 ⟨hlength, hfull⟩

/-- Where pages hold what is read from their windows, there are pages to the end exactly if all rows can be read. -/
theorem Windowed.paged_iff (h : Windowed pageAt size readRow rows) (hsize : 1 ≤ size) :
    (∃ total pages, Paged pageAt size total 0 pages) ↔ ∃ read, rows.mapM readRow = .ok read := by
  constructor
  · rintro ⟨total, pages, hpages⟩
    exact ⟨_, (h.read (Nat.zero_le _) hpages).2.1⟩
  · rintro ⟨read, hread⟩
    obtain ⟨pages, hpages, -⟩ := h.paged hsize (Nat.zero_le _) hread
    exact ⟨rows.length, pages, hpages⟩

end Paged

end Resolver

end TableGraph
