import TableGraph.Proofs.Resolver.Contained

/-! # Tables that are left out

A resolver asks about the tables that it knows and no others. If none of them is left out, then errands leave the tables
that are left out as they are (`leftOut_inTurn`), and they come to the same whatever the rows of these tables are
(`inTurn_alike`). An errand for a table that is not known leaves null (`run_unknown`).
-/
namespace TableGraph
open Store Chain

namespace Store.Database
variable {known exclude : List String} {db db' : Database}

/-- No known name stands for a table that is left out. -/
def KeepsOut (db : Database) (known exclude : List String) : Prop :=
  ∀ n ∈ known, ∀ t, db.table? n = some t → t.name ∉ exclude

/-- The tables that are left out, with their rows. -/
def leftOut (db : Database) (exclude : List String) : List StoredTable := db.tables.filter fun t => t.name ∈ exclude

theorem known_of_tableNamed {table : Option String} {name : String} {t : StoredTable}
    (h : db.tableNamed known table = .ok (name, t)) : table = some name ∧ name ∈ known ∧ db.table? name = some t := by
  unfold tableNamed at h
  split at h
  · cases h
  · rename_i n
    split at h
    · rename_i u hu
      obtain ⟨rfl, rfl⟩ := Prod.mk.inj (Except.ok.inj h)
      split at hu
      · rename_i hknown
        exact ⟨rfl, hknown, hu⟩
      · cases hu
    · cases h

theorem KeepsOut.named (h : db.KeepsOut known exclude) {table : Option String} {name : String} {t : StoredTable}
    (hnamed : db.tableNamed known table = .ok (name, t)) : t.name ∉ exclude := by
  obtain ⟨-, hknown, hfound⟩ := known_of_tableNamed hnamed
  exact h name hknown t hfound

/-- What a question leaves behind: the database as it was, or with other rows in the table that it is about. -/
theorem state_cases (known : List String) (db : Database) (c : Call) : (db.answer known c).2 = db ∨
    ∃ name t u, db.tableNamed known c.table = .ok (name, t) ∧ u = { t with rows := u.rows } ∧
      (db.answer known c).2 = db.replace u := by
  cases c with
  | insert table values =>
    rcases @Resolver.write_cases known db table fun name t => t.insert db.returning name values with
      ⟨e, h⟩ | ⟨name, t, found, u, hnamed, hinsert, h⟩
    · exact .inl (congrArg Prod.snd h)
    · obtain ⟨cells, hinserted⟩ := StoredTable.insert_inserted hinsert
      exact .inr ⟨name, t, u, hnamed, by rw [hinserted.others], congrArg Prod.snd h⟩
  | update table keys values =>
    rcases @Resolver.write_cases known db table fun name t => t.update name keys values with
      ⟨e, h⟩ | ⟨name, t, found, u, hnamed, hupdate, h⟩
    · exact .inl (congrArg Prod.snd h)
    · exact .inr ⟨name, t, u, hnamed, StoredTable.update_others hupdate, congrArg Prod.snd h⟩
  | _ => exact .inl rfl

theorem tableNamed_unknown {table : Option String} (h : ∀ n ∈ known, table ≠ some n) :
    db.tableNamed known table = .error (.request (.unknownTable table)) := by
  cases table with
  | none => rfl
  | some n =>
    have hn : n ∉ known := fun hn => h n hn rfl
    rw [tableNamed, if_neg hn]

/-- A question about a table that is not known is refused. -/
theorem answer_unknown {c : Call} (h : ∀ n ∈ known, c.table ≠ some n) :
    (db.answer known c).1 = .error (.request (.unknownTable c.table)) := by
  have hnamed : db.tableNamed known c.table = .error (.request (.unknownTable c.table)) := tableNamed_unknown h
  cases c <;> simp only [Call.table] at hnamed ⊢ <;> simp only [answer, write, hnamed, Except.bind]

/-! ## What is kept -/

theorem KeepsOut.replace (h : db.KeepsOut known exclude) (u : StoredTable) : (db.replace u).KeepsOut known exclude := by
  intro n hn x hx
  rw [table?_replace] at hx
  obtain ⟨y, hy, rfl⟩ := Option.map_eq_some_iff.1 hx
  have hy' := h n hn y hy
  split
  · rename_i hsame
    rwa [← hsame]
  · exact hy'

theorem leftOut_replace {u : StoredTable} (hu : u.name ∉ exclude) :
    (db.replace u).leftOut exclude = db.leftOut exclude := by
  unfold leftOut Database.replace
  dsimp only
  induction db.tables with
  | nil => rfl
  | cons t rest ih =>
    rw [List.map_cons, List.filter_cons, List.filter_cons, ih]
    by_cases hname : t.name = u.name
    · simp [hname, hu]
    · rw [if_neg hname]

theorem keepsOut_answer (h : db.KeepsOut known exclude) (c : Call) :
    (db.answer known c).2.KeepsOut known exclude ∧ (db.answer known c).2.leftOut exclude = db.leftOut exclude := by
  rcases db.state_cases known c with hsame | ⟨name, t, u, hnamed, hothers, hstate⟩
  · rw [hsame]
    exact ⟨h, rfl⟩
  · have hname : u.name = t.name := by rw [hothers]
    rw [hstate]
    exact ⟨h.replace u, leftOut_replace (hname ▸ h.named hnamed)⟩

/-! ## Databases that differ in what is left out -/

/-- A table, or if it is left out one that may have other rows. -/
def Varies (exclude : List String) (t u : StoredTable) : Prop :=
  u = { t with rows := u.rows } ∧ (t.name ∉ exclude → u = t)

/-- A database that is the same but for the rows of the tables that are left out. -/
structure SameOutside (exclude : List String) (db db' : Database) : Prop where
  returning : db'.returning = db.returning
  tables : List.Forall₂ (Varies exclude) db.tables db'.tables

theorem table?_of_sameOutside (h : SameOutside exclude db db') {n : String}
    (hout : ∀ t, db.table? n = some t → t.name ∉ exclude) : db'.table? n = db.table? n := by
  have htables := h.tables
  unfold table? at hout ⊢
  revert hout
  generalize db.tables = tables at htables
  generalize db'.tables = tables' at htables
  intro hout
  induction htables with
  | nil => rfl
  | @cons t u rest rest' hvaries hrest ih =>
    have hname : u.name = t.name := by rw [hvaries.1]
    rw [List.find?_cons] at hout
    rw [List.find?_cons, List.find?_cons, hname]
    cases hsame : sameName t.name n with
    | true =>
      rw [hsame] at hout
      rw [hvaries.2 (hout t rfl)]
    | false =>
      rw [hsame] at hout
      exact ih hout

theorem tableNamed_of_sameOutside (h : SameOutside exclude db db') (hout : db.KeepsOut known exclude)
    (table : Option String) : db'.tableNamed known table = db.tableNamed known table := by
  cases table with
  | none => rfl
  | some n =>
    simp only [tableNamed]
    by_cases hknown : n ∈ known
    · rw [if_pos hknown, if_pos hknown, table?_of_sameOutside h (hout n hknown)]
    · rw [if_neg hknown, if_neg hknown]

theorem SameOutside.replace (h : SameOutside exclude db db') (u : StoredTable) :
    SameOutside exclude (db.replace u) (db'.replace u) where
  returning := h.returning
  tables := by
    refine List.forall₂_map_left_iff.2 (List.forall₂_map_right_iff.2 (h.tables.imp fun t x hvaries => ?_))
    have hname : x.name = t.name := by rw [hvaries.1]
    rw [hname]
    split
    · exact ⟨rfl, fun _ => rfl⟩
    · exact hvaries

theorem write_of_sameOutside (h : SameOutside exclude db db') (hout : db.KeepsOut known exclude) (table : Option String)
    (f : String → StoredTable → Except Failure (Option Row × StoredTable)) :
    (db'.write known table f).1 = (db.write known table f).1 ∧
      SameOutside exclude (db.write known table f).2 (db'.write known table f).2 := by
  unfold write
  rw [tableNamed_of_sameOutside h hout]
  split
  · exact ⟨rfl, h⟩
  · split
    · exact ⟨rfl, h⟩
    · exact ⟨rfl, h.replace _⟩

/-- The same is answered, and the databases stay the same but for what is left out. -/
theorem answer_of_sameOutside (h : SameOutside exclude db db') (hout : db.KeepsOut known exclude) (c : Call) :
    (db'.answer known c).1 = (db.answer known c).1 ∧
      SameOutside exclude (db.answer known c).2 (db'.answer known c).2 := by
  cases c with
  | insert table values =>
    simp only [answer, h.returning]
    exact write_of_sameOutside h hout table _
  | update table keys values => exact write_of_sameOutside h hout table _
  | _ =>
    refine ⟨?_, h⟩
    simp only [answer, tableNamed_of_sameOutside h hout]

end Store.Database

namespace Errand
open Resolver
variable {ι : Type} {r : Resolver ι} {known exclude : List String} {db db' : Database} {q : Errand}

/-- What errands one after another come to. -/
def inTurn (r : Resolver ι) (known : List String) : List Errand → Database → List (Work.Outcome ι Value Database)
  | [], _ => []
  | q :: rest, db =>
    let o := (q.work r).run (Database.answer known) db
    o :: inTurn r known rest o.state

/-- Errands leave the tables that are left out as they are. -/
theorem leftOut_inTurn (hout : db.KeepsOut known exclude) (qs : List Errand) :
    ∀ o ∈ inTurn r known qs db, o.state.leftOut exclude = db.leftOut exclude := by
  induction qs generalizing db with
  | nil => exact fun _ ho => nomatch ho
  | cons q rest ih =>
    obtain ⟨hlater, hsame⟩ := Work.run_keeps (Database.answer known)
      (P := fun s => s.KeepsOut known exclude ∧ s.leftOut exclude = db.leftOut exclude)
      (fun c s hs => ⟨(Database.keepsOut_answer hs.1 c).1, (Database.keepsOut_answer hs.1 c).2.trans hs.2⟩)
      (q.work r) ⟨hout, rfl⟩
    intro o ho
    rcases List.mem_cons.1 ho with rfl | ho
    · exact hsame
    · exact (ih hlater o ho).trans hsame

/-- Errands come to the same whatever the rows of the tables that are left out are. -/
theorem inTurn_alike (h : Database.SameOutside exclude db db') (hout : db.KeepsOut known exclude) (qs : List Errand) :
    List.Forall₂ (Work.Outcome.Alike (Database.SameOutside exclude))
      (inTurn r known qs db) (inTurn r known qs db') := by
  induction qs generalizing db db' with
  | nil => exact .nil
  | cons q rest ih =>
    have hrun := Work.run_congr (Database.answer known)
      (R := fun s s' => Database.SameOutside exclude s s' ∧ s.KeepsOut known exclude)
      (fun c s s' hs => ⟨(Database.answer_of_sameOutside hs.1 hs.2 c).1, (Database.answer_of_sameOutside hs.1 hs.2 c).2,
        (Database.keepsOut_answer hs.2 c).1⟩) (q.work r) ⟨h, hout⟩
    exact .cons ⟨hrun.result, hrun.trace, hrun.state.1⟩ (ih hrun.state.1 hrun.state.2)

/-- An errand for a relation of a row that has no key for it. -/
def Unkeyed : Errand → Prop
  | .related rel parent _ => (parent.member rel.column).isNull = true
  | _ => False

theorem run_unkeyed (h : q.Unkeyed) : (q.work r).run (Database.answer known) db = ⟨.ok .null, db, []⟩ := by
  cases q with
  | related rel parent args =>
    have hkey : (parent.member rel.column).isNull = true := h
    rw [work, Resolver.related, if_pos hkey]
    rfl
  | _ => cases h

/-- An errand for a table that is not known leaves null and changes nothing. It fails if its arguments are not
understood at all. -/
theorem run_unknown (db : Database) (hconnected : r.connected = true) (hunknown : ∀ n ∈ known, q.table ≠ some n) :
    let o := (q.work r).run (Database.answer known) db
    o.state = db ∧ (o.result = .ok .null ∨ ∃ e, q.Misread e ∧ e.isData = false ∧ o.result = .error e) := by
  dsimp only
  have h := attempt_attempted (Resolver.reliable_answer known) r db q
  have hrefused {c : Call} (hc : c ∈ ((q.attempt r).run (Database.answer known) db).calls) :
      (db.answer known c).1 = .error (.request (.unknownTable c.table)) :=
    Database.answer_unknown (h.about c hc ▸ hunknown)
  rw [run_work, Work.Outcome.state_contained]
  cases hresult : ((q.attempt r).run (Database.answer known) db).result with
  | ok v =>
    have hcalls : ((q.attempt r).run (Database.answer known) db).calls = [] :=
      List.eq_nil_iff_forall_not_mem.2 fun c hc => (h.answered v hresult).2 c hc _ (hrefused hc)
    obtain rfl := (h.asked v hresult).resolve_right (absurd hcalls)
    rw [Work.Outcome.contained_of_ok hresult]
    exact ⟨Work.state_of_calls_nil _ _ hcalls, .inl hresult⟩
  | error e =>
    obtain ⟨hstate, horigin⟩ := h.failed e hresult
    refine ⟨hstate, ?_⟩
    cases hdata : e.isData with
    | true =>
      rw [Work.Outcome.contained_of_data hresult hdata]
      exact .inl rfl
    | false =>
      rw [Work.Outcome.contained_of_stays hresult hdata]
      rcases horigin with ⟨hno, -⟩ | hmisread | ⟨c, hc, hrefuses⟩
      · cases hconnected.symm.trans hno
      · exact .inr ⟨e, hmisread, hdata, hresult⟩
      · obtain rfl := Except.error.inj (hrefuses.symm.trans (hrefused hc))
        cases hdata

end Errand

end TableGraph
