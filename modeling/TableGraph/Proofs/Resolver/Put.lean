import TableGraph.Proofs.Resolver.Related
import TableGraph.Proofs.Resolver.Supplied

/-! # What putting an item may change

Putting an item asks whether there is a row with the supplied key, and then updates it or inserts a new one. Of a
database that can be relied on this asks for one write at most, and nothing else changes it (`Reliable.put`). In a
store no more than one row of one table changes, whatever the arguments are, and if no row is handed back nothing does
(`put_confined`).
-/
namespace TableGraph

namespace Resolver
variable {ι : Type}

/-! ## What a write asks of a database -/

/-- What is done once it is known whether there is a row with the key. -/
def afterFind (table : Option String) (key : List String) (values : Row) : Option Row → Work ι (Option Row)
  | some _ => .request (.update table (keyValues key values) (otherValues key values))
  | none => .request (.insert table values)

theorem write_eq (table : Option String) (key : List String) (values : Row) :
    (write table key values : Work ι (Option Row)) =
      if isFull key values then (Work.request (.find table (keyValues key values))).bind (afterFind table key values)
      else .request (.insert table values) := by
  unfold write isFull
  dsimp only
  congr 1
  change Work.bind _ _ = Work.bind _ _
  congr 1
  funext found
  cases found <;> rfl

section Asks
variable {σ : Type} {answer : (c : Call) → σ → Except Failure c.Answer × σ} {s : σ} {table : Option String}
  {key : List String} {values : Row}

/-- What a write to a database may end with. It fails and leaves all as it was, or it is one update, of a row that was
found under the key, or one insert, if there is no such row. -/
inductive Writes (answer : (c : Call) → σ → Except Failure c.Answer × σ) (s : σ) (table : Option String)
    (key : List String) (values : Row) : Except Failure (Option Row) → σ → Prop where
  | failed (e : Failure) : Writes answer s table key values (.error e) s
  | updated {row : Row} {found : Option Row} {s' : σ} (full : isFull key values = true)
      (find : (answer (.find table (keyValues key values)) s).1 = .ok (some row))
      (update : answer (.update table (keyValues key values) (otherValues key values)) s = (.ok found, s')) :
      Writes answer s table key values (.ok found) s'
  | inserted {found : Option Row} {s' : σ}
      (absent : isFull key values = true → (answer (.find table (keyValues key values)) s).1 = .ok none)
      (insert : answer (.insert table values) s = (.ok found, s')) : Writes answer s table key values (.ok found) s'

theorem Reliable.writes_update (h : Reliable answer) (full : isFull key values = true) {row : Row}
    (find : (answer (.find table (keyValues key values)) s).1 = .ok (some row)) :
    let written := answer (.update table (keyValues key values) (otherValues key values)) s
    Writes answer s table key values written.1 written.2 := by
  intro written
  cases hwritten : written.1 with
  | error e =>
    rw [show written.2 = s from h.failed hwritten]
    exact .failed e
  | ok found => exact .updated full find (Prod.ext hwritten rfl)

theorem Reliable.writes_insert (h : Reliable answer)
    (absent : isFull key values = true → (answer (.find table (keyValues key values)) s).1 = .ok none) :
    let written := answer (.insert table values) s
    Writes answer s table key values written.1 written.2 := by
  intro written
  cases hwritten : written.1 with
  | error e =>
    rw [show written.2 = s from h.failed hwritten]
    exact .failed e
  | ok found => exact .inserted absent (Prod.ext hwritten rfl)

theorem Reliable.writes (h : Reliable answer) (s : σ) (table : Option String) (key : List String) (values : Row) :
    let o := (write table key values : Work ι (Option Row)).run answer s
    Writes answer s table key values o.result o.state := by
  dsimp only
  rw [write_eq]
  by_cases hfull : isFull key values = true
  · rw [if_pos hfull]
    have hrun : ((Work.request (.find table (keyValues key values))).bind (afterFind table key values) :
        Work ι (Option Row)).run answer s =
        ((Work.bind (.done (answer (.find table (keyValues key values)) s).1) (afterFind table key values)).run answer
          (answer (.find table (keyValues key values)) s).2).precededBy [.call (.find table (keyValues key values))] :=
      rfl
    rw [hrun, h.reads rfl]
    cases hfound : (answer (.find table (keyValues key values)) s).1 with
    | error e => exact .failed e
    | ok found =>
      cases found with
      | some row => exact h.writes_update hfull hfound
      | none => exact h.writes_insert fun _ => hfound
  · rw [if_neg hfull]
    exact h.writes_insert fun hf => absurd hf hfull

/-- The row of a record, or null. -/
def recordOr : Option Row → Value
  | some row => .record row .empty
  | none => .null

/-- Putting an item fails before anything is asked, or it ends as the write does. Where that fails because of the data
it leaves null. -/
theorem Reliable.put (h : Reliable answer) (r : Resolver ι) (s : σ) (table : Option String) (args : Args) :
    let o := (r.put table args).run answer s
    (∃ e, o.result = .error e ∧ o.state = s) ∨ ∃ supplied x, suppliedValues args = .ok supplied ∧
      Writes answer s table (r.keyOf table) (writtenValues (r.keyOf table) supplied) x o.state ∧
      o.result = settled (x.map recordOr) := by
  dsimp only
  unfold Resolver.put requireConnection
  split
  · cases hsupplied : suppliedValues args with
    | error e => exact .inl ⟨e, rfl, rfl⟩
    | ok supplied =>
      right
      let w : Work ι (Option Row) := write table (r.keyOf table) (writtenValues (r.keyOf table) supplied)
      have hwrites : Writes answer s table (r.keyOf table) (writtenValues (r.keyOf table) supplied)
          (w.run answer s).result (w.run answer s).state := h.writes s table _ _
      let recorded : Work ι Value := w.bind fun row => .done (.ok (recordOr row))
      have hrecorded : (recorded.run answer s).result = (w.run answer s).result.map recordOr ∧
          (recorded.run answer s).state = (w.run answer s).state := by
        rw [Work.run_bind, Work.Outcome.andThen]
        cases (w.run answer s).result <;> exact ⟨rfl, rfl⟩
      obtain ⟨hresult, hstate⟩ := run_orNull answer (.put table) recorded s
      refine ⟨supplied, (w.run answer s).result, rfl, ?_, ?_⟩
      · exact (hstate.trans hrecorded.2) ▸ hwrites
      · exact hresult.trans (congrArg settled hrecorded.1)
  · exact .inl ⟨_, rfl, rfl⟩

end Asks

/-! ## What a write to a store comes to -/

section Write
variable {known : List String} {db : Store.Database} {table : Option String} {key : List String} {values : Row}

/-- What a write to a table may end with. If it fails, the database is as it was. -/
inductive Wrote (known : List String) (db : Store.Database) (table : Option String) (key : List String) (values : Row) :
    Except Failure (Option Row) → Store.Database → Prop where
  | failed (e : Failure) : Wrote known db table key values (.error e) db
  | updated {name : String} {t u : Store.StoredTable} {row : Row} {found : Option Row}
      (named : db.tableNamed known table = .ok (name, t)) (full : isFull key values = true)
      (find : t.find name (keyValues key values) = .ok (some row))
      (update : t.update name (keyValues key values) (otherValues key values) = .ok (found, u)) :
      Wrote known db table key values (.ok found) (db.replace u)
  | inserted {name : String} {t u : Store.StoredTable} {found : Option Row}
      (named : db.tableNamed known table = .ok (name, t))
      (absent : isFull key values = true → t.find name (keyValues key values) = .ok none)
      (insert : t.insert db.returning name values = .ok (found, u)) :
      Wrote known db table key values (.ok found) (db.replace u)

/-- What is asked of a store is done to one of its tables. -/
theorem Writes.wrote {x : Except Failure (Option Row)} {s : Store.Database}
    (h : Writes (Store.Database.answer known) db table key values x s) : Wrote known db table key values x s := by
  cases h with
  | failed e => exact .failed e
  | @updated row found s full find update =>
    obtain ⟨⟨name, t⟩, hnamed, hfind⟩ := Chain.bind_eq_ok.1 find
    rcases write_cases fun name t => t.update name (keyValues key values) (otherValues key values) with
      ⟨e, hfails⟩ | ⟨other, u, w, u', hother, hupdate, hdone⟩
    · cases hfails.symm.trans update
    · obtain ⟨rfl, rfl⟩ := Prod.mk.inj (Except.ok.inj (hnamed.symm.trans hother))
      obtain ⟨hfound, rfl⟩ := Prod.mk.inj (hdone.symm.trans update)
      obtain rfl := Except.ok.inj hfound
      exact .updated hnamed full hfind hupdate
  | @inserted found s absent insert =>
    rcases write_cases fun name t => t.insert db.returning name values with
      ⟨e, hfails⟩ | ⟨name, t, w, u, hnamed, hinsert, hdone⟩
    · cases hfails.symm.trans insert
    · obtain ⟨hfound, rfl⟩ := Prod.mk.inj (hdone.symm.trans insert)
      obtain rfl := Except.ok.inj hfound
      refine .inserted hnamed (fun hfull => ?_) hinsert
      obtain ⟨⟨other, u⟩, hother, hfind⟩ := Chain.bind_eq_ok.1 (absent hfull)
      obtain ⟨rfl, rfl⟩ := Prod.mk.inj (Except.ok.inj (hnamed.symm.trans hother))
      exact hfind

theorem run_put (r : Resolver ι) (known : List String) (db : Store.Database) (table : Option String) (args : Args) :
    let o := (r.put table args).run (Store.Database.answer known) db
    (∃ e, o.result = .error e ∧ o.state = db) ∨ ∃ supplied x, suppliedValues args = .ok supplied ∧
      Wrote known db table (r.keyOf table) (writtenValues (r.keyOf table) supplied) x o.state ∧
      o.result = settled (x.map recordOr) := by
  rcases (reliable_answer known).put r db table args with hfails | ⟨supplied, x, hsupplied, hwrites, hresult⟩
  · exact .inl hfails
  · exact .inr ⟨supplied, x, hsupplied, hwrites.wrote, hresult⟩

/-! ## What a write changes -/

section Changes
variable {name : String} {t : Store.StoredTable} {supplied : Row}

theorem table?_of_tableNamed (h : db.tableNamed known (some name) = .ok (name, t)) : db.table? name = some t := by
  simp only [Store.Database.tableNamed] at h
  split at h
  · rename_i u hu
    obtain ⟨-, rfl⟩ := Prod.mk.inj (Except.ok.inj h)
    split at hu
    · exact hu
    · cases hu
  · cases h

theorem tableNamed_replace (known : List String) (db : Store.Database) (u : Store.StoredTable) (name : String) :
    (db.replace u).tableNamed known (some name) =
      (db.tableNamed known (some name)).map fun p => (p.1, if p.2.name = u.name then u else p.2) := by
  by_cases hknown : name ∈ known
  · simp only [Store.Database.tableNamed, if_pos hknown, Store.Database.table?_replace]
    cases db.table? name <;> rfl
  · simp only [Store.Database.tableNamed, if_neg hknown]
    rfl

/-- What a write that hands a row back leaves of a table: one row is changed if there is one with the supplied key, and
otherwise there is one more. -/
structure Confined (t : Store.StoredTable) (name : String) (key : List String) (supplied : String → Option Value)
    (u : Store.StoredTable) : Prop where
  others : u = { t with rows := u.rows }
  changed : (∃ stored ∈ t.rows, t.HasKey name key supplied stored) → t.OneChanged name key supplied u.rows
  added : (¬ ∃ stored ∈ t.rows, t.HasKey name key supplied stored) → t.OneAdded u.rows

theorem confined_of_update {row : Row} {found : Option Row} {u : Store.StoredTable} (hk : t.KeyedBy key)
    (hn : (Assoc.keys supplied).Nodup) (hfull : isFull key (writtenValues key supplied) = true)
    (hfind : t.find name (keyValues key (writtenValues key supplied)) = .ok (some row))
    (hupdate : t.update name (keyValues key (writtenValues key supplied))
      (otherValues key (writtenValues key supplied)) = .ok (found, u)) :
    found ≠ none ∧ Confined t name key supplied.get? u := by
  have hall := (isFull_iff hk.nodup hk.nonempty hn).1 hfull
  have hother := get?_otherValues hn hall
  rcases Store.StoredTable.find_ok hfind with ⟨hnone, -⟩ | ⟨bs, htests, hchosen⟩
  · cases hnone
  obtain ⟨cs, cells, hupdated⟩ := Store.StoredTable.update_ok hk.shape hupdate
  obtain rfl := htests.unique hupdated.tests
  have hiff := meetsAll_iff_hasKey htests hn hk hall
  have hne : t.chosen bs ≠ [] := fun h => nomatch hchosen.2 h
  obtain ⟨stored, hstored⟩ := List.exists_mem_of_ne_nil _ hne
  obtain ⟨hm, hmeets⟩ := List.mem_filter.1 hstored
  have hhas : t.HasKey name key supplied.get? stored := (hiff stored).1 hmeets
  refine ⟨?_, hupdated.others, ?_, fun hno => absurd ⟨stored, hm, hhas⟩ hno⟩
  · refine hupdated.found_ne_none (fun p hp => ((mem_keyValues hn).1 hp).2.2) (fun p hp => ?_) hne
    rw [hother]
    exact if_pos ((mem_keyValues hn).1 hp).1
  · intro _
    exact hupdated.oneChanged hk hiff hother hm hhas

theorem confined_of_insert {found : Option Row} {u : Store.StoredTable} (hk : t.KeyedBy key)
    (hn : (Assoc.keys supplied).Nodup)
    (habsent : isFull key (writtenValues key supplied) = true →
      t.find name (keyValues key (writtenValues key supplied)) = .ok none)
    (hinsert : t.insert true name (writtenValues key supplied) = .ok (found, u)) :
    found ≠ none ∧ Confined t name key supplied.get? u := by
  obtain ⟨hfound, hothers, hadded⟩ := Store.StoredTable.insert_ok hinsert
  refine ⟨hfound, hothers, ?_, fun _ => hadded⟩
  rintro ⟨stored, hm, hhas⟩
  -- a row with the key would have been found
  exfalso
  have hall : Full key supplied := by
    intro column hc
    obtain ⟨v, hv, hnull, -⟩ := hhas column hc
    exact ⟨v, hv, hnull⟩
  rcases Store.StoredTable.find_ok (habsent ((isFull_iff hk.nodup hk.nonempty hn).2 hall)) with
    ⟨-, hknown⟩ | ⟨bs, htests, hchosen⟩
  · exact absurd hknown (known_keyValues_ne_nil hn hk hall name)
  · have hchosenStored : stored ∈ t.chosen bs :=
      List.mem_filter.2 ⟨hm, (meetsAll_iff_hasKey htests hn hk hall stored).2 hhas⟩
    rw [hchosen.1 rfl] at hchosenStored
    cases hchosenStored

/-- A write leaves the database as it is, or hands a row back and is confined to it. -/
theorem Wrote.confined {x : Except Failure (Option Row)} {s : Store.Database}
    (h : Wrote known db (some name) key (writtenValues key supplied) x s) (hreturning : db.returning = true)
    (hnamed : db.tableNamed known (some name) = .ok (name, t)) (hk : t.KeyedBy key)
    (hn : (Assoc.keys supplied).Nodup) :
    (∃ e, x = .error e) ∧ s = db ∨
      ∃ row u, x = .ok (some row) ∧ s = db.replace u ∧ Confined t name key supplied.get? u := by
  cases h with
  | failed e => exact .inl ⟨⟨e, rfl⟩, rfl⟩
  | @updated _ _ u _ found named full find update =>
    obtain ⟨rfl, rfl⟩ := Prod.mk.inj (Except.ok.inj (hnamed.symm.trans named))
    obtain ⟨hfound, hconfined⟩ := confined_of_update hk hn full find update
    obtain ⟨row, rfl⟩ := Option.ne_none_iff_exists'.1 hfound
    exact .inr ⟨row, u, rfl, rfl, hconfined⟩
  | @inserted _ _ u found named absent insert =>
    obtain ⟨rfl, rfl⟩ := Prod.mk.inj (Except.ok.inj (hnamed.symm.trans named))
    rw [hreturning] at insert
    obtain ⟨hfound, hconfined⟩ := confined_of_insert hk hn absent insert
    obtain ⟨row, rfl⟩ := Option.ne_none_iff_exists'.1 hfound
    exact .inr ⟨row, u, rfl, rfl, hconfined⟩

end Changes

end Write

end Resolver

open Resolver

/-- Putting an item in a table whose rows are told apart by the key, where inserted rows are handed back. A call that
fails or leaves null has changed nothing. A call that gives a row has changed the one row with the supplied key, if
there was one, and there only the columns that are supplied and not of the key; or else it has added one row. All
other rows and all other tables are as they were. -/
theorem put_confined {ι : Type} (r : Resolver ι) {known : List String} {db : Store.Database} {name : String}
    {t : Store.StoredTable} {args : Args} (hreturning : db.returning = true)
    (hnamed : db.tableNamed known (some name) = .ok (name, t)) (hk : t.KeyedBy (r.keyOf (some name)))
    (ha : Unambiguous args) :
    let o := (r.put (some name) args).run (Store.Database.answer known) db
    (∀ e, o.result = .error e → o.state = db) ∧ (o.result = .ok .null → o.state = db) ∧
      ∀ v, o.result = .ok v → v ≠ .null → ∃ input u, inputOf args = .ok input ∧ o.state.table? name = some u ∧
        Confined t name (r.keyOf (some name)) (suppliedFor args input) u ∧
        ∀ other, Store.sameName name other = false → o.state.table? other = db.table? other := by
  dsimp only
  rcases r.run_put known db (some name) args with ⟨e, hresult, hstate⟩ | ⟨supplied, x, hsupplied, hwrote, hresult⟩
  · refine ⟨fun _ _ => hstate, fun _ => hstate, fun v hv => ?_⟩
    rw [hresult] at hv
    cases hv
  obtain ⟨input, hinput, hn, hvalues⟩ := suppliedValues_ok ha hsupplied
  rcases hwrote.confined hreturning hnamed hk hn with ⟨⟨e, rfl⟩, hstate⟩ | ⟨row, u, rfl, hstate, hconfined⟩
  · refine ⟨fun _ _ => hstate, fun _ => hstate, fun v hv hne => ?_⟩
    rw [hresult] at hv
    rcases settled_eq_ok hv with h | rfl
    · cases h
    · exact absurd rfl hne
  · have hrecord : ((r.put (some name) args).run (Store.Database.answer known) db).result =
        .ok (.record row .empty) := hresult
    have htable := table?_of_tableNamed hnamed
    have hname : u.name = t.name := by rw [hconfined.others]
    rw [hrecord, hstate]
    refine ⟨fun e he => (nomatch he), fun hnull => (nomatch hnull), fun v _ _ => ⟨input, u, hinput, ?_, ?_, ?_⟩⟩
    · exact Store.Database.table?_replace_self htable hname
    · rw [← hvalues]
      exact hconfined
    · intro other hother
      apply Store.Database.table?_replace_of_ne
      have hsame : Store.sameName t.name name = true := Store.Database.sameName_of_table? htable
      simp only [Store.sameName, decide_eq_true_eq, decide_eq_false_iff_not, hname] at hsame hother ⊢
      rwa [hsame]

def tagsTable : Store.StoredTable where
  name := "tags"
  columns := [{ name := "name", declared := "TEXT", primary := true }, { name := "uses", declared := "INTEGER" }]
  rows := [[.text "lean", .int 10], [.text "sql", .int 20]]

def tagsResolver : Resolver Unit where
  connected := true
  schema := some ⟨[⟨"tags", [⟨"name", "TEXT", false, true, .text⟩, ⟨"uses", "INTEGER", true, false, .text⟩], [],
    true⟩]⟩

/-- The uses are given twice, one time in the input, which has a column that there is not. -/
def countedTag : Args :=
  [("input", .map [("uses", .text "5"), ("color", .text "red")]), ("name", .text "sql"), ("uses", .text " 21 ")]

theorem keyedBy_tagsTable : tagsTable.KeyedBy ["name"] where
  shape := ⟨by decide, by decide⟩
  nonempty := by decide
  nodup := by decide
  columns := by decide
  unique := by decide +kernel

/-- The one row of the tag is changed, and there only the uses, to the number that the flat text reads as. -/
theorem put_countedTag :
    let db : Store.Database := { tables := [tagsTable] }
    let o := (tagsResolver.put (some "tags") countedTag).run (Store.Database.answer ["tags"]) db
    db.returning = true ∧ db.tableNamed ["tags"] (some "tags") = .ok ("tags", tagsTable) ∧
      tagsTable.KeyedBy (tagsResolver.keyOf (some "tags")) ∧ Unambiguous countedTag ∧
      o.result = .ok (.record [("name", .text "sql"), ("uses", .int 21)] .empty) ∧
      ∃ input u, inputOf countedTag = .ok input ∧ o.state.table? "tags" = some u ∧
        tagsTable.OneChanged "tags" ["name"] (suppliedFor countedTag input) u.rows := by
  intro db o
  have hnamed : db.tableNamed ["tags"] (some "tags") = .ok ("tags", tagsTable) := by rfl
  have hinput : inputOf countedTag = .ok [("uses", .text "5"), ("color", .text "red")] := by rfl
  have hargs : Unambiguous countedTag := by
    refine ⟨by decide, fun input h => ?_⟩
    obtain rfl := Except.ok.inj (hinput.symm.trans h)
    decide
  have hresult : o.result = .ok (.record [("name", .text "sql"), ("uses", .int 21)] .empty) := by rfl
  obtain ⟨-, -, hput⟩ := put_confined tagsResolver (rfl : db.returning = true) hnamed keyedBy_tagsTable hargs
  obtain ⟨input, u, hgiven, htable, hconfined, -⟩ := hput _ hresult (by simp [Value.null])
  refine ⟨rfl, hnamed, keyedBy_tagsTable, hargs, hresult, input, u, hgiven, htable, hconfined.changed ?_⟩
  obtain rfl := Except.ok.inj (hinput.symm.trans hgiven)
  refine ⟨[.text "sql", .int 20], by decide, fun column hc => ?_⟩
  obtain rfl := List.mem_singleton.1 hc
  exact ⟨.text "sql", rfl, rfl, _, rfl, rfl⟩

end TableGraph
