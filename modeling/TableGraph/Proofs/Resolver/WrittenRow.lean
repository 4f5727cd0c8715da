import TableGraph.Proofs.Resolver.Put
import TableGraph.Proofs.Store.Numbered

/-! # Reading back what was written

Putting an item in a table with a row number, and then asking for the first row whose number is that of the row handed
back, gives the same row, and in it the supplied values (`put_first`).
-/
namespace TableGraph

namespace Resolver
open Chain Store
variable {ι : Type}

/-! ## The first row -/

/-- The arguments that ask for the row with a number. -/
def numberArgs (pk : String) (n : Int) : Args := [("filter", .text (Request.keyFilter pk n))]

def numberRequest (pk : String) (n : Int) : RequestArgs := ⟨[(none, { conditions := [Request.keyCondition pk n] })]⟩

theorem requestArgs_numberArgs {pk : String} (hne : pk ≠ "") (hpk : ∀ c ∈ pk.toList, Name.isPart c = true) (n : Int) :
    requestArgs (numberArgs pk n) = .ok (numberRequest pk n) := by
  rw [numberArgs, requestArgs_filter, Request.parse, Request.parseFilter_keyFilter hne hpk]
  rfl

theorem forRoot_numberRequest (pk : String) (n : Int) (name : String) :
    callScope ((numberRequest pk n).forRoot (some name)) =
      { conditions := [StoredTable.keyed pk (.text (toString n))] } := by
  rw [numberRequest, Request.forRoot_root]
  rfl

/-! ## The row handed back -/

section Written
variable {r : Resolver ι} {known : List String} {db : Database} {name pk : String} {t : StoredTable} {args : Args}
  {row : Row}

/-- The values that are supplied to an item are null, texts, or of the kinds of their columns. -/
def SuppliesOwn (t : StoredTable) (args : Args) : Prop :=
  ∀ input, inputOf args = .ok input → ∀ c ∈ t.columns, ∀ v, suppliedFor args input c.name = some v → Takes c.kind v

/-- A write that hands a row back tells a row that is stored then. -/
theorem tells_of_wrote {supplied : Row} (hnamed : db.tableNamed known (some name) = .ok (name, t))
    (hnumbered : t.NumberedBy pk) (hordinary : ∀ c ∈ t.columns, c.Ordinary) (hn : (Assoc.keys supplied).Nodup)
    (htakes : ∀ c ∈ t.columns, ∀ v, supplied.get? c.name = some v → Takes c.kind v) {s : Database}
    (h : Wrote known db (some name) [pk] (writtenValues [pk] supplied) (.ok (some row)) s) :
    ∃ u, s = db.replace u ∧ u = { t with rows := u.rows } ∧ u.NumberedBy pk ∧ u.Tells pk supplied.get? row := by
  cases h with
  | @updated _ _ u _ _ named full find update =>
    obtain ⟨rfl, rfl⟩ := Prod.mk.inj (Except.ok.inj (hnamed.symm.trans named))
    have hother := get?_otherValues hn ((isFull_iff (List.nodup_singleton pk) (List.cons_ne_nil pk []) hn).1 full)
    obtain ⟨bs, cells, hu⟩ := StoredTable.update_ok hnumbered.kept.shape update
    have hnone : (otherValues [pk] (writtenValues [pk] supplied)).get? pk = none := by
      rw [hother]
      exact if_pos (List.mem_singleton_self pk)
    obtain ⟨stored, hstored, hread, hrecalls⟩ := hnumbered.tells_update hordinary hu fun c hc v hv => by
      rw [hother] at hv
      exact htakes c hc v (Option.ite_none_left_eq_some.1 hv).2
    refine ⟨u, rfl, hu.others, hnumbered.update hu (StoredTable.update_apart update) hnone, stored, hstored, hread,
      fun c hc hne v hv => hrecalls c hc hne v ?_⟩
    rw [hother]
    exact Option.ite_none_left_eq_some.2 ⟨fun hm => hne (List.mem_singleton.1 hm), hv⟩
  | @inserted _ _ u _ named absent insert =>
    obtain ⟨rfl, rfl⟩ := Prod.mk.inj (Except.ok.inj (hnamed.symm.trans named))
    obtain ⟨cells, hi⟩ := StoredTable.insert_inserted insert
    have hwritten : ∀ c ∈ t.columns, ∀ v, (writtenValues [pk] supplied).get? c.name = some v → Takes c.kind v :=
      fun c hc v hv => htakes c hc v ((get?_writtenValues hn).1 hv).1
    have hnull : ∀ v, (writtenValues [pk] supplied).get? pk = some v → v.isNull = false :=
      fun v hv => ((get?_writtenValues hn).1 hv).2 (List.mem_singleton_self pk)
    obtain ⟨c, -, hc, hname, hkind, -⟩ := StoredTable.numberColumn?_eq_some hnumbered.number
    obtain ⟨stored, hstored, hread, hrecalls⟩ := hnumbered.tells_insert hordinary hi hwritten hnull
    refine ⟨u, rfl, by rw [hi.others], hnumbered.insert hi (fun v hv => ?_) hnull, stored, hstored, hread,
      fun c hc hne v hv => hrecalls c hc hne v ?_⟩
    · exact hkind ▸ hwritten c hc v (hname ▸ hv)
    · exact (get?_writtenValues hn).2 ⟨hv, fun hm => absurd (List.mem_singleton.1 hm) hne⟩

theorem connected_of_put {table : Option String} {v : Value}
    (h : ((r.put table args).run (Database.answer known) db).result = .ok v) : r.connected = true := by
  by_contra hno
  rw [put, requireConnection, if_neg hno] at h
  cases h

/-- Behind a row that is handed back stands a write of what was supplied. -/
theorem wrote_of_put (hargs : Unambiguous args) {request : RequestArgs}
    (hput : ((r.put (some name) args).run (Database.answer known) db).result = .ok (.record row request)) :
    ∃ supplied input, inputOf args = .ok input ∧ (Assoc.keys supplied).Nodup ∧ supplied.get? = suppliedFor args input ∧
      Wrote known db (some name) (r.keyOf (some name)) (writtenValues (r.keyOf (some name)) supplied) (.ok (some row))
        ((r.put (some name) args).run (Database.answer known) db).state := by
  rcases r.run_put known db (some name) args with ⟨e, hresult, -⟩ | ⟨supplied, x, hsupplied, hwrote, hresult⟩
  · cases hresult.symm.trans hput
  obtain ⟨input, hinput, hn, hvalues⟩ := suppliedValues_ok hargs hsupplied
  have hx : x = .ok (some row) := by
    rcases settled_eq_ok (hresult.symm.trans hput) with h | h
    · obtain ⟨found, rfl, hfound⟩ := Chain.map_eq_ok.1 h
      cases found with
      | none => cases hfound
      | some other => rw [(Value.record.inj hfound).1]
    · cases h
  exact ⟨supplied, input, hinput, hn, hvalues, hx ▸ hwrote⟩

/-- A table that is replaced keeps its name. -/
theorem tableNamed_replace_self {u : StoredTable} (hnamed : db.tableNamed known (some name) = .ok (name, t))
    (hothers : u = { t with rows := u.rows }) : (db.replace u).tableNamed known (some name) = .ok (name, u) := by
  rw [tableNamed_replace, hnamed, Except.map, if_pos (by rw [hothers])]

end Written

end Resolver

open Resolver Store

/-- Putting an item in a table of ordinary columns whose key is the row number. The row that is handed back has a
number, and asking for the first row of this number gives the same row. What was supplied for the other columns is the
same there as what it is read as. -/
theorem put_first {ι : Type} (r : Resolver ι) {known : List String} {db : Database} {name pk : String} {t : StoredTable}
    {args : Args} {row : Row} {request : RequestArgs} (hnamed : db.tableNamed known (some name) = .ok (name, t))
    (hkey : r.keyOf (some name) = [pk]) (hnumbered : t.NumberedBy pk) (hne : pk ≠ "")
    (hpk : ∀ c ∈ pk.toList, Name.isPart c = true) (hordinary : ∀ c ∈ t.columns, c.Ordinary) (hargs : Unambiguous args)
    (hown : SuppliesOwn t args)
    (hput : ((r.put (some name) args).run (Database.answer known) db).result = .ok (.record row request)) :
    let s := ((r.put (some name) args).run (Database.answer known) db).state
    (∃ n request', row.get? pk = some (.int n) ∧
      ((r.first (some name) (numberArgs pk n)).run (Database.answer known) s).result = .ok (.record row request')) ∧
    ∃ input, inputOf args = .ok input ∧ ∀ c ∈ t.columns, c.name ≠ pk → ∀ v, suppliedFor args input c.name = some v →
      ∃ value w, c.column.coerce v = .ok value ∧ row.get? c.name = some w ∧ w.same value = true := by
  have hconnected := connected_of_put hput
  obtain ⟨supplied, input, hinput, hn, hvalues, hwrote⟩ := wrote_of_put hargs hput
  rw [hkey] at hwrote
  have htakes : ∀ c ∈ t.columns, ∀ v, supplied.get? c.name = some v → Takes c.kind v := by
    rw [hvalues]
    exact hown input hinput
  obtain ⟨u, hstate, hothers, hnumbered', stored, hstored, hread, hrecalls⟩ :=
    tells_of_wrote hnamed hnumbered hordinary hn htakes hwrote
  have hnamed' := tableNamed_replace_self hnamed hothers
  obtain ⟨n, hget, hselect⟩ := hnumbered'.select name hstored hread
  dsimp only
  rw [hstate]
  refine ⟨⟨n, numberRequest pk n, hget, ?_⟩, input, hinput, fun c hc hother v hv => ?_⟩
  · rw [run_first hconnected, requestArgs_numberArgs hne hpk n]
    change settled (do
      let rows ← (Database.answer known (.select (some name) (firstScope (some name) (numberRequest pk n)))
        (db.replace u)).1
      return (records (numberRequest pk n) rows).headD .null) = _
    rw [firstScope, forRoot_numberRequest]
    simp only [Database.answer, hnamed', Except.bind, hselect]
    rfl
  · have hc' : c ∈ u.columns := by
      rw [hothers]
      exact hc
    obtain ⟨value, w, hvalue, hw, hsame⟩ := hrecalls c hc' hother v (hvalues ▸ hv)
    obtain ⟨w', hw', hgot⟩ := StoredTable.get?_readRow hnumbered'.kept.shape hstored hread hc'
    obtain rfl := Except.ok.inj (hw.symm.trans hw')
    exact ⟨value, w, hvalue, hgot, hsame⟩

/-- Things to pay for. -/
def billsTable : StoredTable where
  name := "bills"
  columns := [{ name := "id", declared := "INTEGER", primary := true }, { name := "title", declared := "TEXT" },
    { name := "paid", declared := "BOOLEAN" }, { name := "cost", declared := "INTEGER" }]
  rows := [[.int (-4), .text "rent", .int 1, .int 700]]

def billsResolver : Resolver Unit where
  connected := true
  schema := some ⟨[⟨"bills", [⟨"id", "INTEGER", false, true, .text⟩, ⟨"title", "TEXT", true, false, .text⟩,
    ⟨"paid", "BOOLEAN", true, false, .text⟩, ⟨"cost", "INTEGER", true, false, .text⟩], [], true⟩]⟩

/-- The rent is to be paid again. -/
def rentArgs : Args := [("id", .text " -4"), ("paid", .text "No"), ("cost", .int 750)]

theorem numberedBy_billsTable : billsTable.NumberedBy "id" where
  kept := ⟨⟨by decide, by decide⟩, fun _ => by decide⟩
  number := by decide +kernel
  numbers := fun row hrow => by
    obtain rfl := List.mem_singleton.1 hrow
    exact ⟨-4, by decide, by decide⟩

theorem suppliesOwn_rentArgs : SuppliesOwn billsTable rentArgs := by
  intro input hinput c hc v hv
  obtain rfl : [] = input := Except.ok.inj hinput
  simp only [billsTable, List.mem_cons, List.not_mem_nil, or_false] at hc
  rcases hc with rfl | rfl | rfl | rfl
  · obtain rfl : .text " -4" = v := Option.some.inj hv
    exact .text _ _
  · cases hv
  · obtain rfl : .text "No" = v := Option.some.inj hv
    exact .text _ _
  · obtain rfl : .int 750 = v := Option.some.inj hv
    have hkind : StoredColumn.kind { name := "cost", declared := "INTEGER" } = .integer := by decide +kernel
    rw [hkind]
    exact .int 750

/-- The scalar that a record has for a column. -/
def scalarAt (x : Except Failure Value) (column : String) : Option Scalar :=
  match x with
  | .ok (.record row _) => match Assoc.get? row column with
    | some (.scalar v) => some v
    | _ => none
  | _ => none

theorem record_of_scalarAt {x : Except Failure Value} {column : String} {v : Scalar} (h : scalarAt x column = some v) :
    ∃ (row : Row) (request : RequestArgs), x = .ok (.record row request) ∧ row.get? column = some (.scalar v) := by
  unfold scalarAt at h
  split at h
  · rename_i row request
    split at h
    · rename_i w hget
      exact ⟨row, request, rfl, by rw [hget, Option.some.inj h]⟩
    · cases h
  · cases h

/-- The rent is found by its number, and it is not paid. -/
theorem put_rentArgs :
    let db : Database := { tables := [billsTable] }
    let o := (billsResolver.put (some "bills") rentArgs).run (Database.answer ["bills"]) db
    db.tableNamed ["bills"] (some "bills") = .ok ("bills", billsTable) ∧ billsResolver.keyOf (some "bills") = ["id"] ∧
      billsTable.NumberedBy "id" ∧ (∀ c ∈ "id".toList, Name.isPart c = true) ∧
      (∀ c ∈ billsTable.columns, c.Ordinary) ∧ Unambiguous rentArgs ∧ SuppliesOwn billsTable rentArgs ∧
      ∃ (row : Row) (request request' : RequestArgs), o.result = .ok (.record row request) ∧
        row.get? "id" = some (.int (-4)) ∧
        ((billsResolver.first (some "bills") [("filter", .text "id=-4")]).run (Database.answer ["bills"])
          o.state).result = .ok (.record row request') ∧
        ∃ w : Value, row.get? "paid" = some w ∧ w.same (.bool false) = true := by
  intro db o
  have hnamed : db.tableNamed ["bills"] (some "bills") = .ok ("bills", billsTable) := by rfl
  have hname : ∀ c ∈ "id".toList, Name.isPart c = true := List.all_eq_true.1 (by decide)
  have hordinary : ∀ c ∈ billsTable.columns, c.Ordinary := by
    have hdeclared : ∀ c ∈ billsTable.columns, c.declared ∈ ["INTEGER", "TEXT", "BOOLEAN"] := by decide
    exact fun c hc => StoredColumn.ordinary_of_declared (hdeclared c hc)
  have hargs : Unambiguous rentArgs := unambiguous_of_flat (by decide) rfl
  have hid : scalarAt o.result "id" = some (.int (-4)) := by decide +kernel
  obtain ⟨row, request, hput, hget⟩ := record_of_scalarAt hid
  obtain ⟨⟨n, request', hnumber, hfirst⟩, input, hinput, hsupplied⟩ :=
    put_first billsResolver hnamed (rfl : billsResolver.keyOf (some "bills") = ["id"]) numberedBy_billsTable (by decide)
      hname hordinary hargs suppliesOwn_rentArgs hput
  obtain rfl : n = -4 := by
    have h := hnumber.symm.trans hget
    simpa [Value.int] using h
  obtain rfl : [] = input := Except.ok.inj hinput
  obtain ⟨value, w, hvalue, hw, hsame⟩ := hsupplied { name := "paid", declared := "BOOLEAN" } (by decide) (by decide)
    (.text "No") rfl
  have hkind : StoredColumn.kind { name := "paid", declared := "BOOLEAN" } = .boolean := by decide +kernel
  obtain rfl : value = .bool false := by
    rw [StoredColumn.column, hkind] at hvalue
    exact (Except.ok.inj hvalue).symm
  exact ⟨hnamed, rfl, numberedBy_billsTable, hname, hordinary, hargs, suppliesOwn_rentArgs, row, request, request', hput,
    hget, hfirst, w, hw, hsame⟩

end TableGraph
