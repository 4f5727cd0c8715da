import TableGraph.Proofs.Concurrency.Calls

/-! # Calls at the same time and calls one after another

A write that goes well among others leaves the database as the call leaves it that has the database for itself, and
hands the same row back, if the columns of the key recognize the values that are given for them (`Commit.alone`).
So calls that go on at the same time do what those of them that hand a row back do one after another, in the order
of their writes (`puts_serialize`), and a row changes only where a later one of them writes (`Acknowledged.rows`).
-/
namespace TableGraph.Resolver
open Chain Store
variable {ι : Type}

/-! ## Calls by themselves -/

section Alone
variable {r : Resolver ι} {known : List String} {p : String × Args} {s s' : Database} {c : Call} {found : Option Row}

/-- The values for the columns of the key are ones that the columns recognize. -/
def Recognized (known : List String) (s : Database) (p : String × Args) : Prop :=
  ∀ t supplied, s.tableNamed known (some p.1) = .ok (p.1, t) → suppliedValues p.2 = .ok supplied →
    ∀ c ∈ t.keyColumns, ∀ v, supplied.get? c.name = some v → v.isNull = false → c.Recognizes v

theorem Recognized.advance {lost : Nat} (h : Recognized known s p) (hs : Advances known s s' lost) :
    Recognized known s' p := by
  intro after supplied hafter hsupplied
  obtain ⟨before, hbefore, hcases⟩ := hs.before hafter
  have hcolumns : after.keyColumns = before.keyColumns := by
    rcases hcases with rfl | hu
    · rfl
    · rw [hu.others]
      rfl
  rw [hcolumns]
  exact h before supplied hbefore hsupplied

/-- A run that asks first. -/
theorem run_after {answer : (c : Call) → Database → Except Failure c.Answer × Database} {c : Call}
    {x : Except Failure c.Answer} {s' : Database} (h : answer c s = (x, s'))
    (next : Except Failure c.Answer → Work ι Value) :
    ((Work.ask c next).run answer s).state = ((next x).run answer s').state ∧
      ((Work.ask c next).run answer s).result = ((next x).run answer s').result := by
  rw [Work.run_ask, h]
  exact ⟨rfl, rfl⟩

/-- A call that would insert a row with a key that is there already cannot go well, if the key is recognized. -/
theorem absent_of_insert {supplied : Row} {t u : StoredTable} (hn : (Assoc.keys supplied).Nodup)
    (hk : t.KeyedBy (keyFor r p)) (hkey : keyFor r p = t.keyNames) (hfull : Full (keyFor r p) supplied)
    (hrecognizes : ∀ c ∈ t.keyColumns, ∀ v, supplied.get? c.name = some v → v.isNull = false → c.Recognizes v)
    {returning : Bool} (h : t.insert returning p.1 (valuesFor r p supplied) = .ok (found, u)) :
    ∀ stored ∈ t.rows, ¬ t.HasKey p.1 (keyFor r p) supplied.get? stored := by
  intro stored hstored hhas
  obtain ⟨cells, hi⟩ := StoredTable.insert_inserted h
  have hwritten : ∀ column ∈ keyFor r p, (valuesFor r p supplied).get? column = supplied.get? column := by
    intro column hc
    obtain ⟨v, hv, hnull⟩ := hfull column hc
    rw [hv]
    exact (get?_writtenValues hn).2 ⟨hv, fun _ => hnull⟩
  have hfilled : t.HasKey p.1 (keyFor r p) (valuesFor r p supplied).get? (t.fill cells) := by
    refine StoredTable.hasKey_fill hk.shape.names hi.given fun column hc => ?_
    obtain ⟨v, hv, hnull⟩ := hfull column hc
    rw [hkey] at hc
    obtain ⟨c, hkc, rfl⟩ := List.mem_map.1 hc
    exact ⟨c, (List.mem_filter.1 hkc).1, rfl, v, (hwritten c.name (hkey ▸ hc)).trans hv, hnull,
      hrecognizes c hkc v hv hnull⟩
  have hfilled' : t.HasKey p.1 (keyFor r p) supplied.get? (t.fill cells) := by
    intro column hc
    rw [← hwritten column hc]
    exact hfilled column hc
  have hne : t.keyColumns ≠ [] := fun hnil => hk.nonempty (hkey.trans (by rw [StoredTable.keyNames, hnil]; rfl))
  have hagree := StoredTable.agree_of_hasKey hfilled' hhas
  rw [hkey, StoredTable.agree_of_conflict (hi.apart stored hstored) (StoredTable.keyNames_mem_uniqueSets hne)] at hagree
  cases hagree

theorem answer_find {t : StoredTable} {name : String} (hnamed : s.tableNamed known (some name) = .ok (name, t))
    {keys : Row} {x : Except Failure (Option Row)} (h : t.find name keys = x) :
    Database.answer known (.find (some name) keys) s = (x, s) := by
  simp only [Database.answer, hnamed]
  exact congrArg (·, s) h

/-- A write that goes well among others leaves the database as the call leaves it that has the database for itself,
and hands the same row back. -/
theorem Commit.alone {s' : Database} (h : Commit r known p s c found s') (hstands : Stands r known s p.1)
    (ha : Unambiguous p.2) (hrecognized : Recognized known s p) {row : Row} (hrow : found = some row) :
    let o := (r.put (some p.1) p.2).run (Database.answer known) s
    o.state = s' ∧ o.result = .ok (.record row .empty) := by
  subst hrow
  dsimp only
  cases h with
  | @insert supplied t u _ supplies named testable insert =>
    have hinsert : Database.answer known (.insert (some p.1) (valuesFor r p supplied)) s =
        (.ok (some row), s.replace u) := by
      simp only [Database.answer, Database.write, named, insert]
    rw [put_eq r (some p.1) supplies.connected supplies.values]
    split
    · rename_i full
      obtain ⟨input, -, hn, -⟩ := suppliedValues_ok ha supplies.values
      obtain ⟨hkept, (hkey : keyFor r p = t.keyNames)⟩ := hstands t named
      obtain ⟨hk, hfull⟩ := full_of_isFull hn hkept hkey full
      obtain ⟨bs, htests⟩ := testable full
      have hfind := find_of_absent hn hk hfull htests
        (absent_of_insert hn hk hkey hfull (hrecognized t supplied named supplies.values) insert)
      obtain ⟨hstate, hresult⟩ := run_after (answer_find named hfind)
        (putFound (some p.1) (keyFor r p) (valuesFor r p supplied) : _ → Work ι Value)
      obtain ⟨hstate', hresult'⟩ := run_after hinsert (putEnd (some p.1) : _ → Work ι Value)
      exact ⟨hstate.trans hstate', hresult.trans hresult'⟩
    · exact run_after hinsert _
  | @update supplied t u _ supplies named full testable holds update =>
    obtain ⟨input, -, hn, -⟩ := suppliedValues_ok ha supplies.values
    obtain ⟨hkept, (hkey : keyFor r p = t.keyNames)⟩ := hstands t named
    obtain ⟨hk, hfull⟩ := full_of_isFull hn hkept hkey full
    obtain ⟨bs, htests⟩ := testable
    obtain ⟨read, hfind⟩ := find_of_holds hn hk hfull htests holds
    have hupdate : Database.answer known (.update (some p.1) (keyValues (keyFor r p) (valuesFor r p supplied))
        (otherValues (keyFor r p) (valuesFor r p supplied))) s = (.ok (some row), s.replace u) := by
      simp only [Database.answer, Database.write, named, update]
    rw [put_eq r (some p.1) supplies.connected supplies.values, if_pos full]
    obtain ⟨hstate, hresult⟩ := run_after (answer_find named hfind)
      (putFound (some p.1) (keyFor r p) (valuesFor r p supplied) : _ → Work ι Value)
    obtain ⟨hstate', hresult'⟩ := run_after hupdate (putEnd (some p.1) : _ → Work ι Value)
    exact ⟨hstate.trans hstate', hresult.trans hresult'⟩

end Alone

/-! ## Rows that stay -/

/-- A call supplies a value for a column of a table. -/
def Overwrites (p : String × Args) (name column : String) : Prop :=
  sameName p.1 name = true ∧ ∃ supplied, suppliedValues p.2 = .ok supplied ∧ supplied.get? column ≠ none

/-- The rows of a table are still there, with the cells that they had but in some columns. -/
def RowsStay (t u : StoredTable) (except : String → Prop) : Prop :=
  u = { t with rows := u.rows } ∧
    ∀ stored ∈ t.rows, ∃ row ∈ u.rows, ∀ column, ¬ except column → t.cellAt row column = t.cellAt stored column

section Rows
variable {r : Resolver ι} {known : List String} {p : String × Args} {s s' : Database} {c : Call} {found : Option Row}
  {t u v : StoredTable} {name : String}

theorem RowsStay.trans {a b : String → Prop} (h : RowsStay t u a) (h' : RowsStay u v b) :
    RowsStay t v fun column => a column ∨ b column := by
  obtain ⟨hu, hrows⟩ := h
  obtain ⟨hv, hrows'⟩ := h'
  have hat : u.cellAt = t.cellAt := by rw [hu]; rfl
  rw [hat] at hrows'
  refine ⟨by rw [hv, hu], fun stored hstored => ?_⟩
  obtain ⟨row, hrow, hcells⟩ := hrows stored hstored
  obtain ⟨row', hrow', hcells'⟩ := hrows' row hrow
  refine ⟨row', hrow', fun column hno => ?_⟩
  rw [hcells' column fun hb => hno (.inr hb), hcells column fun ha => hno (.inl ha)]

theorem RowsStay.mono {a b : String → Prop} (h : RowsStay t u a) (hab : ∀ column, a column → b column) :
    RowsStay t u b :=
  ⟨h.1, fun stored hstored =>
    let ⟨row, hrow, hcells⟩ := h.2 stored hstored
    ⟨row, hrow, fun column hno => hcells column fun ha => hno (hab column ha)⟩⟩

theorem rowsStay_refl (t : StoredTable) (except : String → Prop) : RowsStay t t except :=
  ⟨rfl, fun stored hstored => ⟨stored, hstored, fun _ _ => rfl⟩⟩

/-- What a write that goes well does to the rows of its own table. -/
theorem Commit.rowsStay (h : Commit r known p s c found s') (hstands : Stands r known s p.1) (ha : Unambiguous p.2) :
    ∃ t u supplied, s.tableNamed known (some p.1) = .ok (p.1, t) ∧ s' = s.replace u ∧
      suppliedValues p.2 = .ok supplied ∧ RowsStay t u fun column => supplied.get? column ≠ none := by
  cases h with
  | @insert supplied t u found supplies named testable insert =>
    obtain ⟨cells, hi⟩ := StoredTable.insert_inserted insert
    refine ⟨t, u, supplied, named, rfl, supplies.values, by rw [hi.others], fun stored hstored => ?_⟩
    exact ⟨stored, hi.perm.mem_iff.2 (List.mem_cons_of_mem _ hstored), fun _ _ => rfl⟩
  | @update supplied t u found supplies named full testable holds update =>
    obtain ⟨hkept, (hkey : keyFor r p = t.keyNames)⟩ := hstands t named
    obtain ⟨input, -, hn, -⟩ := suppliedValues_ok ha supplies.values
    obtain ⟨hk, hfull, bs, cells, hu, -⟩ := updatedByKey hn hkept hkey full update
    refine ⟨t, u, supplied, named, rfl, supplies.values, hu.others, fun stored hstored => ?_⟩
    refine ⟨_, hu.rows.mem_iff.2 (List.mem_map_of_mem hstored), fun column hno => ?_⟩
    have hother : (otherValues (keyFor r p) (valuesFor r p supplied)).get? column = none := by
      rw [get?_otherValues hn hfull]
      exact ite_eq_left_iff.2 fun _ => not_not.1 hno
    split
    · exact StoredTable.cellAt_overwrite_of_none (hu.given.get?_of_none hother) stored
    · rfl

theorem Commit.tableStays (h : Commit r known p s c found s') (hstands : Stands r known s p.1) (ha : Unambiguous p.2)
    (hnamed : s.tableNamed known (some name) = .ok (name, t)) :
    ∃ u, s'.tableNamed known (some name) = .ok (name, u) ∧ RowsStay t u (Overwrites p name) := by
  obtain ⟨before, after, supplied, hbefore, rfl, hsupplied, hstay⟩ := h.rowsStay hstands ha
  have hname : after.name = before.name := by rw [hstay.1]
  rcases tableNamed_after hbefore hname hnamed with hsame | ⟨rfl, hnames, hafter⟩
  · exact ⟨t, hsame, rowsStay_refl t _⟩
  · exact ⟨after, hafter, hstay.mono fun column hc => ⟨hnames, supplied, hsupplied, hc⟩⟩

end Rows

/-! ## Calls one after another -/

/-- Calls on one database, each of them with the database for itself. -/
def serial (r : Resolver ι) (known : List String) (calls : List (String × Args)) (order : List Nat) (s : Database) :
    Database :=
  (order.filterMap (calls[·]?)).foldl
    (fun s p => ((r.put (some p.1) p.2).run (Database.answer known) s).state) s

/-- Writes that go well, one after another: whose they are, and the row that each of them handed back. -/
inductive Acknowledged (r : Resolver ι) (known : List String) (calls : List (String × Args)) :
    Database → List (Nat × Row) → Database → Prop where
  | none (s : Database) : Acknowledged r known calls s [] s
  | next {s s' s'' : Database} {i : Nat} {p : String × Args} {c : Call} {row : Row} {rest : List (Nat × Row)}
      (call : calls[i]? = some p) (commit : Commit r known p s c (some row) s')
      (later : Acknowledged r known calls s' rest s'') : Acknowledged r known calls s ((i, row) :: rest) s''

/-- Calls that can be told from what they do alone. -/
structure Ready (r : Resolver ι) (known : List String) (calls : List (String × Args)) (s : Database) : Prop where
  returning : s.returning = true
  stands : ∀ p ∈ calls, Stands r known s p.1
  args : ∀ p ∈ calls, Unambiguous p.2
  recognized : ∀ p ∈ calls, Recognized known s p

section Serial
variable {r : Resolver ι} {known : List String} {calls : List (String × Args)} {s s' : Database} {i : Nat}
  {p : String × Args}

theorem serial_cons (hp : calls[i]? = some p) (order : List Nat) (s : Database) :
    serial r known calls (i :: order) s =
      serial r known calls order ((r.put (some p.1) p.2).run (Database.answer known) s).state := by
  simp [serial, hp]

theorem Ready.advance {lost : Nat} (h : Ready r known calls s) (hs : Advances known s s' lost) :
    Ready r known calls s' where
  returning := hs.returning.trans h.returning
  stands := fun p hp => (h.stands p hp).advance hs
  args := h.args
  recognized := fun p hp => (h.recognized p hp).advance hs

theorem Ready.commit (h : Ready r known calls s) (hp : calls[i]? = some p) {c : Call} {found : Option Row}
    (hc : Commit r known p s c found s') : Ready r known calls s' :=
  have hmem := List.mem_of_getElem? hp
  h.advance (hc.advances (h.stands p hmem) (h.args p hmem))

variable {order : List (Nat × Row)}

theorem Acknowledged.ready (h : Acknowledged r known calls s order s') (hready : Ready r known calls s) :
    Ready r known calls s' := by
  induction h with
  | none => exact hready
  | next call commit _ ih => exact ih (hready.commit call commit)

theorem Acknowledged.split {before after : List (Nat × Row)} (h : Acknowledged r known calls s (before ++ after) s') :
    ∃ mid, Acknowledged r known calls s before mid ∧ Acknowledged r known calls mid after s' := by
  induction before generalizing s with
  | nil => exact ⟨s, .none s, h⟩
  | cons q before ih =>
    cases h with
    | next call commit later =>
      obtain ⟨mid, hbefore, hafter⟩ := ih later
      exact ⟨mid, .next call commit hbefore, hafter⟩

/-- Writes that go well leave the database as the calls do one after another. -/
theorem Acknowledged.eq_serial (h : Acknowledged r known calls s order s') (hready : Ready r known calls s) :
    s' = serial r known calls (order.map (·.1)) s := by
  induction h with
  | none => rfl
  | @next s s₁ s' i p c row rest call commit later ih =>
    have hmem := List.mem_of_getElem? call
    rw [List.map_cons, serial_cons call,
      (commit.alone (hready.stands p hmem) (hready.args p hmem) (hready.recognized p hmem) rfl).1]
    exact ih (hready.commit call commit)

/-- Every row that stands in a table stands there later, with the cells that it had where no call has written. -/
theorem Acknowledged.rows (h : Acknowledged r known calls s order s') (hready : Ready r known calls s) {name : String}
    {t : StoredTable} (hnamed : s.tableNamed known (some name) = .ok (name, t)) :
    ∃ u, s'.tableNamed known (some name) = .ok (name, u) ∧ RowsStay t u fun column =>
      ∃ j ∈ order.map (·.1), ∃ p, calls[j]? = some p ∧ Overwrites p name column := by
  induction h generalizing t with
  | none => exact ⟨t, hnamed, rowsStay_refl t _⟩
  | @next s s₁ s' i p c row rest call commit later ih =>
    have hmem := List.mem_of_getElem? call
    obtain ⟨u, hu, hstay⟩ := commit.tableStays (hready.stands p hmem) (hready.args p hmem) hnamed
    obtain ⟨v, hv, hlater⟩ := ih (hready.commit call commit) hu
    refine ⟨v, hv, (hstay.trans hlater).mono fun column hc => ?_⟩
    rcases hc with hc | ⟨j, hj, hwrites⟩
    · exact ⟨i, List.mem_cons_self, p, call, hc⟩
    · exact ⟨j, List.mem_cons_of_mem _ hj, hwrites⟩

end Serial

/-! ## Calls at the same time -/

/-- The clients whose writes went well, in the order of their writes. -/
def committed (turns : List Work.Turn) : List Nat := (turns.filter Work.Turn.commits).map (·.client)

section Run
variable {r : Resolver ι} {known : List String} {calls : List (String × Args)} {pool left : List (Work ι Value)}
  {s s' : Database} {turns : List Work.Turn}

theorem committed_of_passes {i : Nat} {c : Call} {answered : Bool} (h : (c.writes && answered) = false) :
    committed (⟨i, c, answered⟩ :: turns) = committed turns := by
  rw [committed, List.filter_cons_of_neg (by simpa [Work.Turn.commits] using h)]
  rfl

theorem committed_of_commits {i : Nat} {c : Call} {answered : Bool} (h : (c.writes && answered) = true) :
    committed (⟨i, c, answered⟩ :: turns) = i :: committed turns := by
  rw [committed, List.filter_cons_of_pos (by simpa [Work.Turn.commits] using h)]
  rfl

/-- What a run of calls comes to: writes that went well in their order, whose clients are the ones that have a row
in the end and had none before. -/
structure Comes (r : Resolver ι) (known : List String) (calls : List (String × Args)) (pool left : List (Work ι Value))
    (s s' : Database) (order : List (Nat × Row)) : Prop where
  acknowledged : Acknowledged r known calls s order s'
  nodup : (order.map (·.1)).Nodup
  rows : ∀ q ∈ order, left[q.1]? = some (.done (.ok (.record q.2 .empty)))
  others : ∀ (i : Nat) (row : Row) (args : RequestArgs), left[i]? = some (.done (.ok (.record row args))) →
    i ∈ order.map (·.1) ∨ pool[i]? = some (.done (.ok (.record row args)))

/-- A client that goes on to what is no row comes to a row by a write only. -/
theorem Comes.others_set {order : List (Nat × Row)} {i : Nat} {w : Work ι Value}
    (h : Comes r known calls (pool.set i w) left s s' order)
    (hw : ∀ row args, w ≠ .done (.ok (.record row args))) (j : Nat) (row : Row) (args : RequestArgs)
    (hj : left[j]? = some (.done (.ok (.record row args)))) :
    j ∈ order.map (·.1) ∨ pool[j]? = some (.done (.ok (.record row args))) := by
  rcases h.others j row args hj with hm | hpool
  · exact .inl hm
  · by_cases hij : j = i
    · subst hij
      obtain ⟨hlt, -⟩ := List.getElem?_eq_some_iff.1 hpool
      rw [List.getElem?_set_self (by simpa using hlt)] at hpool
      exact absurd (Option.some.inj hpool) (hw row args)
    · rw [Work.Interleaving.getElem?_set_other hij] at hpool
      exact .inr hpool

theorem comes_of_run (hrun : Work.Interleaving (Database.answer known) pool s turns left s')
    (h : Underway r known calls pool s) (hreturning : s.returning = true) (hclients : pool.length = calls.length) :
    ∃ order, order.map (·.1) = committed turns ∧ Comes r known calls pool left s s' order := by
  induction hrun with
  | rest pool s =>
    exact ⟨[], rfl, .none s, List.nodup_nil, fun q hq => (nomatch hq), fun i row args hi => .inr hi⟩
  | @report pool left s s' turns i e next here later ih =>
    obtain ⟨order, hturns, hcomes⟩ := ih (h.report here) hreturning (by rw [List.length_set, hclients])
    refine ⟨order, hturns, hcomes.acknowledged, hcomes.nodup, hcomes.rows, hcomes.others_set fun row args => ?_⟩
    obtain ⟨p, hp⟩ : ∃ p, calls[i]? = some p := by
      have hi := (List.getElem?_eq_some_iff.1 here).1
      exact ⟨_, List.getElem?_eq_getElem (hclients ▸ hi)⟩
    obtain ⟨w, hw, hphase⟩ := h.phases i p hp
    obtain rfl := Option.some.inj (here.symm.trans hw)
    exact hphase.report.ne_record row args
  | @turn pool left s s' turns i w c next here asks later ih =>
    obtain ⟨p, hp⟩ : ∃ p, calls[i]? = some p := by
      have hi := (List.getElem?_eq_some_iff.1 here).1
      exact ⟨_, List.getElem?_eq_getElem (hclients ▸ hi)⟩
    have hmem := List.mem_of_getElem? hp
    obtain ⟨hnext, hpasses | ⟨found, hcommit, hend, hcommits⟩⟩ := h.turn here hp asks
    · obtain ⟨hstate, -, hne, hno⟩ := hpasses
      rw [hstate] at hnext later ih
      obtain ⟨order, hturns, hcomes⟩ := ih hnext hreturning (by rw [List.length_set, hclients])
      exact ⟨order, hturns.trans (committed_of_passes hno).symm, hcomes.acknowledged, hcomes.nodup, hcomes.rows,
        hcomes.others_set hne⟩
    · obtain ⟨row, rfl⟩ := hcommit.row hreturning (h.stands p hmem) (h.args p hmem)
      have hadvances := hcommit.advances (h.stands p hmem) (h.args p hmem)
      obtain ⟨order, hturns, hcomes⟩ :=
        ih hnext (hadvances.returning.trans hreturning) (by rw [List.length_set, hclients])
      have hdone : (pool.set i (next (Database.answer known c s).1))[i]? =
          some (.done (.ok (.record row .empty))) := by
        rw [Work.Interleaving.getElem?_set_self here, hend]
        rfl
      refine ⟨(i, row) :: order, ?_, .next hp hcommit hcomes.acknowledged, ?_, ?_, ?_⟩
      · rw [committed_of_commits hcommits, ← hturns]
        rfl
      · refine List.nodup_cons.2 ⟨fun hm => ?_, hcomes.nodup⟩
        rw [hturns] at hm
        obtain ⟨turn, hturn, he⟩ := List.mem_map.1 hm
        exact later.idle hdone turn (List.mem_filter.1 hturn).1 he
      · exact List.forall_mem_cons.2 ⟨later.stays hdone, hcomes.rows⟩
      · intro j row' args hj
        by_cases hij : j = i
        · exact .inl (hij ▸ List.mem_cons_self)
        · rcases hcomes.others j row' args hj with hm | hpool
          · exact .inl (List.mem_cons_of_mem _ hm)
          · rw [Work.Interleaving.getElem?_set_other hij] at hpool
            exact .inr hpool

end Run

/-- Calls that put items at the same time, on tables with keys, where rows are handed back and the columns of the
keys recognize what is given for them: the database is left as by the calls that hand a row back, one after another
in the order of their writes, and each of them hands back the row that it hands back then. No cell of a row changes
but by a later one of these calls that writes to its column. -/
theorem puts_serialize (r : Resolver ι) {known : List String} {calls : List (String × Args)} {s s' : Database}
    {turns : List Work.Turn} {left : List (Work ι Value)} (hreturning : s.returning = true)
    (hstands : ∀ p ∈ calls, Stands r known s p.1) (hargs : ∀ p ∈ calls, Unambiguous p.2)
    (hrecognized : ∀ p ∈ calls, Recognized known s p)
    (hrun : Work.Interleaving (Database.answer known) (calls.map fun p => r.put (some p.1) p.2) s turns left s') :
    (committed turns).Nodup ∧
    (∀ i, i ∈ committed turns ↔ ∃ row args, left[i]? = some (.done (.ok (.record row args)))) ∧
    s' = serial r known calls (committed turns) s ∧
    (∀ before i after, committed turns = before ++ i :: after → ∃ p row, calls[i]? = some p ∧
      left[i]? = some (.done (.ok (.record row .empty))) ∧
      ((r.put (some p.1) p.2).run (Database.answer known) (serial r known calls before s)).result =
        .ok (.record row .empty)) ∧
    ∀ before after, committed turns = before ++ after → ∀ name t,
      (serial r known calls before s).tableNamed known (some name) = .ok (name, t) →
      ∃ u, s'.tableNamed known (some name) = .ok (name, u) ∧ ∀ stored ∈ t.rows, ∃ row ∈ u.rows, ∀ column,
        t.cellAt row column = t.cellAt stored column ∨
          ∃ j ∈ after, ∃ p, calls[j]? = some p ∧ Overwrites p name column := by
  have hready : Ready r known calls s := ⟨hreturning, hstands, hargs, hrecognized⟩
  have hunderway : Underway r known calls (calls.map fun p => r.put (some p.1) p.2) s := by
    simpa using Underway.start hstands hargs []
  obtain ⟨order, hturns, hcomes⟩ := comes_of_run hrun hunderway hreturning (by simp)
  rw [← hturns]
  have hsplit {before after : List Nat} (h : order.map (·.1) = before ++ after) :
      ∃ mid later, before = mid.map (·.1) ∧ after = later.map (·.1) ∧ order = mid ++ later := by
    obtain ⟨mid, later, rfl, rfl, rfl⟩ := List.map_eq_append_iff.1 h
    exact ⟨mid, later, rfl, rfl, rfl⟩
  refine ⟨hcomes.nodup, fun i => ⟨fun hi => ?_, fun ⟨row, args, hi⟩ => ?_⟩,
    hcomes.acknowledged.eq_serial hready, fun before i after h => ?_, fun before after h name t hnamed => ?_⟩
  · obtain ⟨q, hq, rfl⟩ := List.mem_map.1 hi
    exact ⟨q.2, .empty, hcomes.rows q hq⟩
  · rcases hcomes.others i row args hi with hm | hpool
    · exact hm
    · rw [List.getElem?_map] at hpool
      obtain ⟨p, -, hput⟩ := Option.map_eq_some_iff.1 hpool
      rcases put_cases r p with ⟨e, he⟩ | ⟨c, next, he⟩
      · cases he.symm.trans hput
      · cases he.symm.trans hput
  · obtain ⟨mid, later, rfl, hlater, rfl⟩ := hsplit h
    obtain ⟨⟨j, row⟩, rest, rfl, rfl, -⟩ := List.map_eq_cons_iff.1 hlater.symm
    obtain ⟨s₁, hbefore, hafter⟩ := hcomes.acknowledged.split
    have hs₁ := hbefore.ready hready
    cases hafter with
    | @next _ _ _ _ p c _ _ call commit _ =>
      have hmem := List.mem_of_getElem? call
      refine ⟨p, row, call, hcomes.rows (j, row) (by simp), ?_⟩
      rw [← hbefore.eq_serial hready]
      exact (commit.alone (hs₁.stands p hmem) (hs₁.args p hmem) (hs₁.recognized p hmem) rfl).2
  · obtain ⟨mid, later, rfl, rfl, rfl⟩ := hsplit h
    obtain ⟨s₁, hbefore, hafter⟩ := hcomes.acknowledged.split
    rw [← hbefore.eq_serial hready] at hnamed
    obtain ⟨u, hu, -, hrows⟩ := hafter.rows (hbefore.ready hready) hnamed
    refine ⟨u, hu, fun stored hstored => ?_⟩
    obtain ⟨row, hrow, hcells⟩ := hrows stored hstored
    exact ⟨row, hrow, fun column => or_iff_not_imp_right.2 (hcells column)⟩

/-- Visits of pages: how often, and who was last. -/
def visitsTable : StoredTable where
  name := "visits"
  columns := [{ name := "page", declared := "TEXT", primary := true }, { name := "times", declared := "INTEGER" },
    { name := "visitor", declared := "TEXT" }]
  rows := [[.text "home", .int 4, .text "ada"], [.text "news", .int 9, .text "bob"]]

def visitsResolver : Resolver Unit where
  connected := true
  schema := some ⟨[⟨"visits", [⟨"page", "TEXT", false, true, .text⟩, ⟨"times", "INTEGER", true, false, .text⟩,
    ⟨"visitor", "TEXT", true, false, .text⟩], [], true⟩]⟩

/-- Two calls for the same page. -/
def visits : List (String × Args) :=
  [("visits", [("page", .text "home"), ("times", .int 5)]),
    ("visits", [("page", .text "home"), ("visitor", .text "eve")])]

theorem kept_visitsTable : visitsTable.Kept where
  shape := ⟨by decide, by decide⟩
  apart := fun _ => by decide +kernel

theorem stands_visits : ∀ p ∈ visits, Stands visitsResolver ["visits"] { tables := [visitsTable] } p.1 := by
  have hstands : Stands visitsResolver ["visits"] { tables := [visitsTable] } "visits" := by
    intro t ht
    obtain rfl : visitsTable = t := (Prod.mk.inj (Except.ok.inj ht)).2
    exact ⟨kept_visitsTable, rfl⟩
  exact List.forall_mem_cons.2 ⟨hstands, List.forall_mem_singleton.2 hstands⟩

theorem recognized_visits : ∀ p ∈ visits, Recognized ["visits"] { tables := [visitsTable] } p := by
  have hpage {p : String × Args} (hp : p.1 = "visits") (hsupplied : suppliedValues p.2 = .ok p.2)
      (hv : p.2.get? "page" = some (.text "home")) : Recognized ["visits"] { tables := [visitsTable] } p := by
    intro t supplied ht hs c hc v hv' hnull
    rw [hp] at ht
    obtain rfl : visitsTable = t := (Prod.mk.inj (Except.ok.inj ht)).2
    obtain rfl := Except.ok.inj (hsupplied.symm.trans hs)
    obtain rfl := List.mem_singleton.1 hc
    obtain rfl := Option.some.inj (hv.symm.trans hv')
    exact StoredColumn.recognizes_text (by decide +kernel) (by decide +kernel) "home"
  exact List.forall_mem_cons.2 ⟨hpage rfl rfl rfl, List.forall_mem_singleton.2 (hpage rfl rfl rfl)⟩

theorem unambiguous_visits : ∀ p ∈ visits, Unambiguous p.2 :=
  List.forall_mem_cons.2 ⟨unambiguous_of_flat (by decide) rfl,
    List.forall_mem_singleton.2 (unambiguous_of_flat (by decide) rfl)⟩

/-- Both calls find the row of the page, and then the second one writes first. -/
theorem visits_serialize :
    let db : Database := { tables := [visitsTable] }
    let after : Database :=
      { tables := [{ visitsTable with rows := [[.text "home", .int 5, .text "eve"], [.text "news", .int 9, .text "bob"]] }] }
    db.returning = true ∧ (∀ p ∈ visits, Stands visitsResolver ["visits"] db p.1) ∧
      (∀ p ∈ visits, Unambiguous p.2) ∧ (∀ p ∈ visits, Recognized ["visits"] db p) ∧
      ∃ turns left, Work.Interleaving (Database.answer ["visits"])
          (visits.map fun p => visitsResolver.put (some p.1) p.2) db turns left after ∧
        turns.map (·.client) = [0, 1, 1, 0] ∧ committed turns = [1, 0] ∧
        after = serial visitsResolver ["visits"] visits [1, 0] db := by
  intro db after
  have hrun : ∃ turns left, Work.Interleaving (Database.answer ["visits"])
      (visits.map fun p => visitsResolver.put (some p.1) p.2) db turns left after ∧
        turns.map (·.client) = [0, 1, 1, 0] ∧ committed turns = [1, 0] :=
    ⟨_, _, .turn (i := 0) rfl (.ask _ _) (.turn (i := 1) rfl (.ask _ _) (.turn (i := 1) rfl (.ask _ _)
      (.turn (i := 0) rfl (.ask _ _) (.rest _ _)))), rfl, rfl⟩
  obtain ⟨turns, left, hturns, hclients, hcommitted⟩ := hrun
  obtain ⟨-, -, hserial, -⟩ :=
    puts_serialize visitsResolver rfl stands_visits unambiguous_visits recognized_visits hturns
  rw [hcommitted] at hserial
  exact ⟨rfl, stands_visits, unambiguous_visits, recognized_visits, turns, left, hturns, hclients, hcommitted, hserial⟩

/-- Documents under a key of any JSON. -/
def docsTable : StoredTable where
  name := "docs"
  columns := [{ name := "k", declared := "JSON", primary := true, nullable := false },
    { name := "x", declared := "INTEGER" }]

def docsResolver : Resolver Unit where
  connected := true
  schema := some ⟨[⟨"docs", [⟨"k", "JSON", false, true, .text⟩, ⟨"x", "INTEGER", true, false, .text⟩], [], true⟩]⟩

/-- One call is given a text for the key, and the other one the list that the text writes. -/
def docs : List (String × Args) :=
  [("docs", [("k", .text "[]"), ("x", .int 1)]), ("docs", [("k", .list []), ("x", .int 2)])]

/-- The list is kept as its text, and the text in quotes, but a text is looked for as it is. So a call that is given
the text inserts it, if it has looked before the list was there, and alone it would have found the row of the list. -/
theorem docs_diverge :
    let db : Database := { tables := [docsTable] }
    let record (k : Value) (x : Int) : Value := .record [("k", k), ("x", .int x)] .empty
    db.returning = true ∧ (∀ p ∈ docs, Stands docsResolver ["docs"] db p.1) ∧ (∀ p ∈ docs, Unambiguous p.2) ∧
      ∃ turns after, Work.Interleaving (Database.answer ["docs"])
          (docs.map fun p => docsResolver.put (some p.1) p.2) db turns
          [.done (.ok (record (.text "[]") 1)), .done (.ok (record (.list []) 2))] after ∧
        committed turns = [1, 0] ∧ after ≠ serial docsResolver ["docs"] docs [1, 0] db ∧
        after.tables.map (·.rows) = [[[.text "[]", .int 2], [.text "\"[]\"", .int 1]]] ∧
        (serial docsResolver ["docs"] docs [1, 0] db).tables.map (·.rows) = [[[.text "[]", .int 1]]] := by
  intro db record
  have hstands : Stands docsResolver ["docs"] db "docs" := by
    intro t ht
    obtain rfl : docsTable = t := (Prod.mk.inj (Except.ok.inj ht)).2
    exact ⟨⟨⟨by decide, by decide⟩, fun _ => by decide⟩, rfl⟩
  refine ⟨rfl, List.forall_mem_cons.2 ⟨hstands, List.forall_mem_singleton.2 hstands⟩,
    List.forall_mem_cons.2 ⟨unambiguous_of_flat (by decide) rfl,
      List.forall_mem_singleton.2 (unambiguous_of_flat (by decide) rfl)⟩, ?_⟩
  refine ⟨_, _, .turn (i := 0) rfl (.ask _ _) (.turn (i := 1) rfl (.ask _ _) (.turn (i := 1) rfl (.ask _ _)
    (.turn (i := 0) rfl (.ask _ _) (.rest _ _)))), rfl, fun h => ?_, rfl, rfl⟩
  exact absurd (congrArg (fun db => (db.tables.map (·.rows)).flatten.length) h) (by decide +kernel)

end TableGraph.Resolver
