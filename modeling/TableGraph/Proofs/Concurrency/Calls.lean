import TableGraph.Proofs.Concurrency.Writes

/-! # Calls among others

Putting an item looks for the row with the key and then inserts or updates, and others may write in between. `Phase`
is what a call has come to and what it knows of the database then; it stays true when others write
(`Phase.advance`). In its own turn a call writes nothing, or its write goes well and it is at its end (`Phase.turn`).
So it is for several calls at a time, and whatever else works on the database beside them (`Underway.turn`).
-/
namespace TableGraph

namespace Resolver
open Chain Store
variable {ι : Type}

/-! ## The questions of putting an item -/

/-- What putting an item ends with, once the write is answered. -/
def putEnd (table : Option String) (x : Except Failure (Option Row)) : Work ι Value :=
  .orNull (.put table) (.ofExcept (x.map recordOr))

/-- What follows the question whether there is a row with the key. -/
def putFound (table : Option String) (key : List String) (values : Row) : Except Failure (Option Row) → Work ι Value
  | .error e => putEnd table (.error e)
  | .ok (some _) => .ask (.update table (keyValues key values) (otherValues key values)) (putEnd table)
  | .ok none => .ask (.insert table values) (putEnd table)

theorem put_eq (r : Resolver ι) (table : Option String) {args : Args} (hconnected : r.connected = true)
    {supplied : Row} (hsupplied : suppliedValues args = .ok supplied) :
    r.put table args =
      if isFull (r.keyOf table) (writtenValues (r.keyOf table) supplied) then
        .ask (.find table (keyValues (r.keyOf table) (writtenValues (r.keyOf table) supplied)))
          (putFound table (r.keyOf table) (writtenValues (r.keyOf table) supplied))
      else .ask (.insert table (writtenValues (r.keyOf table) supplied)) (putEnd table) := by
  have hput : r.put table args = .orNull (.put table)
      ((write table (r.keyOf table) (writtenValues (r.keyOf table) supplied)).bind fun row =>
        .done (.ok (recordOr row))) := by
    rw [put, requireConnection, if_pos hconnected, hsupplied]
    rfl
  rw [hput, write_eq]
  split
  · refine congrArg (Work.ask _) (funext fun found => ?_)
    rcases found with e | _ | row
    · rfl
    · exact congrArg (Work.ask _) (funext fun x => by cases x <;> rfl)
    · exact congrArg (Work.ask _) (funext fun x => by cases x <;> rfl)
  · exact congrArg (Work.ask _) (funext fun x => by cases x <;> rfl)

/-- Work that asks nothing more and gives no row. -/
def Failed (w : Work ι Value) : Prop :=
  ∃ x, (∀ row args, x ≠ .ok (.record row args)) ∧ (w = .done x ∨ ∃ e, w = .emit e (.done x))

theorem Failed.ne_record {w : Work ι Value} (h : Failed w) (row : Row) (args : RequestArgs) :
    w ≠ .done (.ok (.record row args)) := by
  rintro rfl
  obtain ⟨x, hx, h | ⟨e, h⟩⟩ := h
  · exact hx row args (Work.done.inj h).symm
  · cases h

theorem putEnd_found (table : Option String) (found : Option Row) :
    (putEnd table (.ok found) : Work ι Value) = .done (.ok (recordOr found)) := rfl

theorem failed_putEnd (table : Option String) (e : Failure) : Failed (putEnd table (.error e) : Work ι Value) := by
  cases he : e.isData with
  | true =>
    refine ⟨.ok .null, fun row args h => (by cases h), .inr ⟨.lost (.put table) e, ?_⟩⟩
    simp only [putEnd, Work.orNull, Except.map, Work.ofExcept, Work.recover, he, if_true]
  | false =>
    refine ⟨.error e, fun row args h => (by cases h), .inl ?_⟩
    simp only [putEnd, Work.orNull, Except.map, Work.ofExcept, Work.recover, he, Bool.false_eq_true, if_false, Work.fail]

/-! ## How far a call has come -/

/-- What the arguments of a call supply, where they can be read and there is a database. -/
structure Supplies (r : Resolver ι) (p : String × Args) (supplied : Row) : Prop where
  connected : r.connected = true
  values : suppliedValues p.2 = .ok supplied

/-- The key of the table of a call, and the values to write. -/
abbrev keyFor (r : Resolver ι) (p : String × Args) : List String := r.keyOf (some p.1)

abbrev valuesFor (r : Resolver ι) (p : String × Args) (supplied : Row) : Row := writtenValues (keyFor r p) supplied

/-- The tests for the key of a call can be made. -/
def Testable (r : Resolver ι) (p : String × Args) (supplied : Row) (t : StoredTable) : Prop :=
  ∃ bs, t.KeyTests p.1 (keyValues (keyFor r p) (valuesFor r p supplied)) bs

/-- How far putting an item has come, and what it knows of the database then. A row with the key that was found once
is still there. -/
inductive Phase (r : Resolver ι) (known : List String) (p : String × Args) (s : Database) : Work ι Value → Prop where
  | fresh : Phase r known p s (r.put (some p.1) p.2)
  | found {supplied : Row} {t : StoredTable} (supplies : Supplies r p supplied)
      (named : s.tableNamed known (some p.1) = .ok (p.1, t))
      (full : isFull (keyFor r p) (valuesFor r p supplied) = true) (testable : Testable r p supplied t)
      (holds : t.Holds p.1 (keyFor r p) supplied.get?) :
      Phase r known p s (.ask (.update (some p.1) (keyValues (keyFor r p) (valuesFor r p supplied))
        (otherValues (keyFor r p) (valuesFor r p supplied))) (putEnd (some p.1)))
  | missed {supplied : Row} {t : StoredTable} (supplies : Supplies r p supplied)
      (named : s.tableNamed known (some p.1) = .ok (p.1, t)) (testable : Testable r p supplied t) :
      Phase r known p s (.ask (.insert (some p.1) (valuesFor r p supplied)) (putEnd (some p.1)))
  | ended (found : Option Row) : Phase r known p s (.done (.ok (recordOr found)))
  | failed {w : Work ι Value} (failed : Failed w) : Phase r known p s w

/-- A write that went well, with what the database answered. -/
inductive Commit (r : Resolver ι) (known : List String) (p : String × Args) (s : Database) :
    Call → Option Row → Database → Prop where
  | insert {supplied : Row} {t u : StoredTable} {found : Option Row} (supplies : Supplies r p supplied)
      (named : s.tableNamed known (some p.1) = .ok (p.1, t))
      (testable : isFull (keyFor r p) (valuesFor r p supplied) = true → Testable r p supplied t)
      (insert : t.insert s.returning p.1 (valuesFor r p supplied) = .ok (found, u)) :
      Commit r known p s (.insert (some p.1) (valuesFor r p supplied)) found (s.replace u)
  | update {supplied : Row} {t u : StoredTable} {found : Option Row} (supplies : Supplies r p supplied)
      (named : s.tableNamed known (some p.1) = .ok (p.1, t))
      (full : isFull (keyFor r p) (valuesFor r p supplied) = true) (testable : Testable r p supplied t)
      (holds : t.Holds p.1 (keyFor r p) supplied.get?)
      (update : t.update p.1 (keyValues (keyFor r p) (valuesFor r p supplied))
        (otherValues (keyFor r p) (valuesFor r p supplied)) = .ok (found, u)) :
      Commit r known p s (.update (some p.1) (keyValues (keyFor r p) (valuesFor r p supplied))
        (otherValues (keyFor r p) (valuesFor r p supplied))) found (s.replace u)

section Phase
variable {r : Resolver ι} {known : List String} {p : String × Args} {s s' : Database} {w : Work ι Value}

theorem Testable.follows {supplied : Row} {t u : StoredTable} {lost : Nat} (h : Testable r p supplied t)
    (hu : Follows t u lost) : Testable r p supplied u := by
  obtain ⟨rows, rfl⟩ : ∃ rows, u = { t with rows := rows } := ⟨u.rows, hu.others⟩
  exact h

/-- What a call knows of the database stays true when others write. -/
theorem Phase.advance {lost : Nat} (h : Phase r known p s w) (hstands : Stands r known s p.1)
    (hs : Advances known s s' lost) : Phase r known p s' w := by
  cases h with
  | fresh => exact .fresh
  | @found supplied before supplies named full testable holds =>
    obtain ⟨after, hafter, rfl | hu⟩ := hs.after named
    · exact .found supplies hafter full testable holds
    · refine .found supplies hafter full (testable.follows hu) ?_
      rw [keyFor, (hstands before named).2] at holds ⊢
      exact hu.holds p.1 supplied.get? holds
  | @missed supplied before supplies named testable =>
    obtain ⟨after, hafter, rfl | hu⟩ := hs.after named
    · exact .missed supplies hafter testable
    · exact .missed supplies hafter (testable.follows hu)
  | ended found => exact .ended found
  | failed hfailed => exact .failed hfailed

/-! ## Rows found by a full key -/

section Find
variable {t : StoredTable} {supplied : Row} {key : List String} {name : String}

theorem find_eq_firstOf (hn : (Assoc.keys supplied).Nodup) (hk : t.KeyedBy key) (hfull : Full key supplied)
    {bs : List BoundTest} (htests : t.KeyTests name (keyValues key (writtenValues key supplied)) bs) :
    t.find name (keyValues key (writtenValues key supplied)) = t.firstOf bs := by
  obtain ⟨known, hknown, hbound⟩ := htests
  have hne : known ≠ [] := by
    rintro rfl
    exact known_keyValues_ne_nil hn hk hfull name hknown
  have hgiven : known.isEmpty = false := by simpa using hne
  simp only [StoredTable.find, hknown, Bind.bind, Except.bind, hgiven, hbound, Bool.false_eq_true, if_false]

/-- A full key is looked for by its tests. -/
theorem find_ok_of_full (hn : (Assoc.keys supplied).Nodup) (hk : t.KeyedBy key) (hfull : Full key supplied)
    {found : Option Row} (h : t.find name (keyValues key (writtenValues key supplied)) = .ok found) :
    ∃ bs, t.KeyTests name (keyValues key (writtenValues key supplied)) bs ∧ t.firstOf bs = .ok found := by
  rcases StoredTable.find_ok h with ⟨-, hnone⟩ | ⟨bs, htests, -⟩
  · exact absurd hnone (known_keyValues_ne_nil hn hk hfull name)
  · exact ⟨bs, htests, (find_eq_firstOf hn hk hfull htests).symm.trans h⟩

theorem holds_of_find (hn : (Assoc.keys supplied).Nodup) (hk : t.KeyedBy key) (hfull : Full key supplied) {row : Row}
    (h : t.find name (keyValues key (writtenValues key supplied)) = .ok (some row)) :
    t.Holds name key supplied.get? := by
  obtain ⟨bs, htests, hfirst⟩ := find_ok_of_full hn hk hfull h
  obtain ⟨stored, hstored, hmeets, hread⟩ := StoredTable.firstOf_some hfirst
  exact ⟨stored, hstored, (meetsAll_iff_hasKey htests hn hk hfull stored).1 hmeets, row, hread⟩

theorem find_of_holds (hn : (Assoc.keys supplied).Nodup) (hk : t.KeyedBy key) (hfull : Full key supplied)
    {bs : List BoundTest} (htests : t.KeyTests name (keyValues key (writtenValues key supplied)) bs)
    (h : t.Holds name key supplied.get?) :
    ∃ row, t.find name (keyValues key (writtenValues key supplied)) = .ok (some row) := by
  obtain ⟨stored, hstored, hhas, row, hread⟩ := h
  refine ⟨row, (find_eq_firstOf hn hk hfull htests).trans ?_⟩
  rw [StoredTable.firstOf,
    StoredTable.chosen_of_hasKey hk (meetsAll_iff_hasKey htests hn hk hfull) hstored hhas]
  exact map_eq_ok.2 ⟨row, hread, rfl⟩

theorem find_of_absent (hn : (Assoc.keys supplied).Nodup) (hk : t.KeyedBy key) (hfull : Full key supplied)
    {bs : List BoundTest} (htests : t.KeyTests name (keyValues key (writtenValues key supplied)) bs)
    (h : ∀ stored ∈ t.rows, ¬ t.HasKey name key supplied.get? stored) :
    t.find name (keyValues key (writtenValues key supplied)) = .ok none := by
  have hchosen : t.chosen bs = [] := List.filter_eq_nil_iff.2 fun stored hm hmeets =>
    h stored hm ((meetsAll_iff_hasKey htests hn hk hfull stored).1 hmeets)
  rw [find_eq_firstOf hn hk hfull htests, StoredTable.firstOf, hchosen]

end Find

/-! ## The turns of a call -/

/-- In a turn in which nothing is written, or in which the write fails, the database stays as it is. -/
def Passes (r : Resolver ι) (known : List String) (p : String × Args) (s : Database) (c : Call)
    (next : Except Failure c.Answer → Work ι Value) : Prop :=
  (Database.answer known c s).2 = s ∧ Phase r known p s (next (Database.answer known c s).1) ∧
    (∀ row args, next (Database.answer known c s).1 ≠ .done (.ok (.record row args))) ∧
    (c.writes && Work.isAnswered (Database.answer known c s).1) = false

/-- In a turn in which a write goes well the call comes to its end. -/
def Commits (r : Resolver ι) (known : List String) (p : String × Args) (s : Database) (c : Call)
    (next : Except Failure c.Answer → Work ι Value) : Prop :=
  ∃ found, Commit r known p s c found (Database.answer known c s).2 ∧
    next (Database.answer known c s).1 = putEnd (some p.1) (.ok found) ∧
    (c.writes && Work.isAnswered (Database.answer known c s).1) = true

theorem full_of_isFull {key : List String} {supplied : Row} (hn : (Assoc.keys supplied).Nodup) {t : StoredTable}
    (hkept : t.Kept) (hkey : key = t.keyNames) (h : isFull key (writtenValues key supplied) = true) :
    t.KeyedBy key ∧ Full key supplied := by
  have hne : key ≠ [] := by
    rintro rfl
    cases h
  have hk : t.KeyedBy key := by
    subst hkey
    exact hkept.keyedBy fun hnil => hne (by rw [StoredTable.keyNames, hnil]; rfl)
  exact ⟨hk, (isFull_iff hk.nodup hne hn).1 h⟩

theorem turn_insert {supplied : Row} (supplies : Supplies r p supplied)
    (testable : isFull (keyFor r p) (valuesFor r p supplied) = true →
      ∀ t, s.tableNamed known (some p.1) = .ok (p.1, t) → Testable r p supplied t) :
    Passes r known p s (.insert (some p.1) (valuesFor r p supplied)) (putEnd (some p.1)) ∨
      Commits r known p s (.insert (some p.1) (valuesFor r p supplied)) (putEnd (some p.1)) := by
  have hanswer : Database.answer known (.insert (some p.1) (valuesFor r p supplied)) s =
      s.write known (some p.1) fun name t => t.insert s.returning name (valuesFor r p supplied) := rfl
  rcases @write_cases known s (some p.1)
    fun name t => t.insert s.returning name (valuesFor r p supplied) with
    ⟨e, h⟩ | ⟨name, t, found, u, hnamed, hinsert, h⟩
  · left
    rw [Passes, hanswer, h]
    exact ⟨rfl, .failed (failed_putEnd _ e), (failed_putEnd _ e).ne_record, rfl⟩
  · right
    obtain rfl : name = p.1 := name_of_tableNamed hnamed
    rw [Commits, hanswer, h]
    exact ⟨found, .insert supplies hnamed (fun hfull => testable hfull t hnamed) hinsert, rfl, rfl⟩

theorem turn_update {supplied : Row} {t : StoredTable} (supplies : Supplies r p supplied)
    (named : s.tableNamed known (some p.1) = .ok (p.1, t))
    (full : isFull (keyFor r p) (valuesFor r p supplied) = true) (testable : Testable r p supplied t)
    (holds : t.Holds p.1 (keyFor r p) supplied.get?) :
    let call : Call := .update (some p.1) (keyValues (keyFor r p) (valuesFor r p supplied))
      (otherValues (keyFor r p) (valuesFor r p supplied))
    Passes r known p s call (putEnd (some p.1)) ∨ Commits r known p s call (putEnd (some p.1)) := by
  intro call
  have hanswer : Database.answer known call s = s.write known (some p.1) fun name t =>
      t.update name (keyValues (keyFor r p) (valuesFor r p supplied))
        (otherValues (keyFor r p) (valuesFor r p supplied)) := rfl
  rcases @write_cases known s (some p.1)
    fun name t => t.update name (keyValues (keyFor r p) (valuesFor r p supplied))
      (otherValues (keyFor r p) (valuesFor r p supplied)) with
    ⟨e, h⟩ | ⟨name, t', found, u, hnamed, hupdate, h⟩
  · left
    rw [Passes, hanswer, h]
    exact ⟨rfl, .failed (failed_putEnd _ e), (failed_putEnd _ e).ne_record, rfl⟩
  · right
    obtain ⟨rfl, rfl⟩ := Prod.mk.inj (Except.ok.inj (named.symm.trans hnamed))
    rw [Commits, hanswer, h]
    exact ⟨found, .update supplies named full testable holds hupdate, rfl, rfl⟩

theorem turn_find {supplied : Row} (supplies : Supplies r p supplied) (hstands : Stands r known s p.1)
    (ha : Unambiguous p.2) (full : isFull (keyFor r p) (valuesFor r p supplied) = true) :
    Passes r known p s (.find (some p.1) (keyValues (keyFor r p) (valuesFor r p supplied)))
      (putFound (some p.1) (keyFor r p) (valuesFor r p supplied)) := by
  have hanswer : (Database.answer known (.find (some p.1) (keyValues (keyFor r p) (valuesFor r p supplied))) s).1 =
      (s.tableNamed known (some p.1)).bind fun q => q.2.find q.1 (keyValues (keyFor r p) (valuesFor r p supplied)) := rfl
  have hfailed (e : Failure) : Phase r known p s (putEnd (some p.1) (.error e)) ∧
      ∀ row args, (putEnd (some p.1) (.error e) : Work ι Value) ≠ .done (.ok (.record row args)) :=
    ⟨.failed (failed_putEnd _ e), (failed_putEnd _ e).ne_record⟩
  suffices h : Phase r known p s (putFound (some p.1) (keyFor r p) (valuesFor r p supplied)
        ((s.tableNamed known (some p.1)).bind fun q =>
          q.2.find q.1 (keyValues (keyFor r p) (valuesFor r p supplied)))) ∧
      ∀ row args, (putFound (some p.1) (keyFor r p) (valuesFor r p supplied)
        ((s.tableNamed known (some p.1)).bind fun q =>
          q.2.find q.1 (keyValues (keyFor r p) (valuesFor r p supplied))) : Work ι Value) ≠
            .done (.ok (.record row args)) from
    ⟨rfl, hanswer ▸ h.1, hanswer ▸ h.2, rfl⟩
  cases hnamed : s.tableNamed known (some p.1) with
  | error e => exact hfailed e
  | ok q =>
    obtain ⟨name, t⟩ := q
    obtain rfl : name = p.1 := name_of_tableNamed hnamed
    obtain ⟨input, -, hn, -⟩ := suppliedValues_ok ha supplies.values
    obtain ⟨hk, hfull⟩ := full_of_isFull hn (hstands t hnamed).1 (hstands t hnamed).2 full
    simp only [Except.bind]
    cases hfind : t.find p.1 (keyValues (keyFor r p) (valuesFor r p supplied)) with
    | error e => exact hfailed e
    | ok found =>
      obtain ⟨bs, htests, -⟩ := find_ok_of_full hn hk hfull hfind
      cases found with
      | none => exact ⟨.missed supplies hnamed ⟨bs, htests⟩, fun row args h => (by cases h)⟩
      | some row =>
        exact ⟨.found supplies hnamed full ⟨bs, htests⟩ (holds_of_find hn hk hfull hfind),
          fun row args h => (by cases h)⟩

/-- A call in turn: nothing is written, or the write goes well and the call comes to its end. -/
theorem Phase.turn (h : Phase r known p s w) (hstands : Stands r known s p.1) (ha : Unambiguous p.2) {c : Call}
    {next : Except Failure c.Answer → Work ι Value} (asks : Work.Asks w c next) :
    Passes r known p s c next ∨ Commits r known p s c next := by
  cases h with
  | ended => cases asks
  | failed hfailed =>
    obtain ⟨x, -, rfl | ⟨e, rfl⟩⟩ := hfailed <;> cases asks
  | found supplies named full testable holds =>
    cases asks
    exact turn_update supplies named full testable holds
  | missed supplies named testable =>
    cases asks
    refine turn_insert supplies fun _ t ht => ?_
    obtain rfl := (Prod.mk.inj (Except.ok.inj (named.symm.trans ht))).2
    exact testable
  | fresh =>
    by_cases hconnected : r.connected = true
    · cases hsupplied : suppliedValues p.2 with
      | error e =>
        rw [put, requireConnection, if_pos hconnected, hsupplied] at asks
        cases asks
      | ok supplied =>
        have supplies : Supplies r p supplied := ⟨hconnected, hsupplied⟩
        rw [put_eq r (some p.1) hconnected hsupplied] at asks
        split at asks
        · rename_i hfull
          cases asks
          exact .inl (turn_find supplies hstands ha hfull)
        · rename_i hfull
          cases asks
          exact turn_insert supplies fun hno => absurd hno hfull
    · rw [put, requireConnection, if_neg hconnected] at asks
      cases asks

/-! ## What a write that goes well leaves -/

variable {c : Call} {found : Option Row}

/-- An update of the row with a full key. -/
structure UpdatedByKey (t : StoredTable) (name : String) (key : List String) (supplied : Row) (found : Option Row)
    (u : StoredTable) : Prop where
  keyed : t.KeyedBy key
  full : Full key supplied
  updated : ∃ bs cells, t.Updated name (keyValues key (writtenValues key supplied))
    (otherValues key (writtenValues key supplied)) bs cells found u ∧
    ∀ row, t.meetsAll bs row = true ↔ t.HasKey name key supplied.get? row

theorem updatedByKey {t u : StoredTable} {name : String} {key : List String} {supplied : Row}
    (hn : (Assoc.keys supplied).Nodup) (hkept : t.Kept) (hkey : key = t.keyNames)
    (hfull : isFull key (writtenValues key supplied) = true)
    (h : t.update name (keyValues key (writtenValues key supplied)) (otherValues key (writtenValues key supplied)) =
      .ok (found, u)) : UpdatedByKey t name key supplied found u := by
  obtain ⟨hk, hall⟩ := full_of_isFull hn hkept hkey hfull
  obtain ⟨bs, cells, hu⟩ := StoredTable.update_ok hk.shape h
  exact ⟨hk, hall, bs, cells, hu, meetsAll_iff_hasKey hu.tests hn hk hall⟩

/-- The table of a call after its write. -/
theorem Commit.follows {s' : Database} (h : Commit r known p s c found s') (hstands : Stands r known s p.1)
    (ha : Unambiguous p.2) :
    ∃ t u, s.tableNamed known (some p.1) = .ok (p.1, t) ∧ s' = s.replace u ∧ Follows t u c.loses := by
  cases h with
  | @insert supplied t u found supplies named testable insert =>
    obtain ⟨cells, hi⟩ := StoredTable.insert_inserted insert
    have hdrifts : Drifts t u 1 0 :=
      ⟨by rw [hi.others], fun bs => (hi.length_chosen bs).2, fun bs => (hi.length_chosen bs).1⟩
    exact ⟨t, u, named, rfl, hdrifts, (hstands t named).1.insert hi, fun name values hholds => hholds.insert hi⟩
  | @update supplied t u found supplies named full testable holds update =>
    obtain ⟨hkept, (hkey : keyFor r p = t.keyNames)⟩ := hstands t named
    obtain ⟨input, -, hn, -⟩ := suppliedValues_ok ha supplies.values
    obtain ⟨hk, hfull, bs, cells, hu, htests⟩ := updatedByKey hn hkept hkey full update
    have hafter : u.Kept := hkept.update hu (StoredTable.update_apart update)
    have hkeys : ∀ column ∈ keyFor r p, (otherValues (keyFor r p) (valuesFor r p supplied)).get? column = none :=
      fun column hc => by rw [get?_otherValues hn hfull]; exact if_pos hc
    have hku : u.KeyedBy t.keyNames := by
      have hrows : u = { t with rows := u.rows } := hu.others
      have hne : t.keyColumns ≠ [] := fun hnil => hk.nonempty (hkey.trans (by rw [StoredTable.keyNames, hnil]; rfl))
      rw [hrows] at hafter ⊢
      exact hafter.keyedBy hne
    have hdrifts : Drifts t u 1 1 :=
      ⟨hu.others, fun tests => (hu.length_chosen hk htests tests).2, fun tests => (hu.length_chosen hk htests tests).1⟩
    refine ⟨t, u, named, rfl, hdrifts, hafter, fun name values hholds => ?_⟩
    rw [← hkey] at hku hholds ⊢
    exact hholds.update hu hku htests hkeys

theorem Commit.advances {s' : Database} (h : Commit r known p s c found s') (hstands : Stands r known s p.1)
    (ha : Unambiguous p.2) : Advances known s s' c.loses :=
  let ⟨t, u, named, hs', hu⟩ := h.follows hstands ha
  ⟨p.1, t, u, named, hs', hu⟩

/-- A write that goes well hands a row back where the store tells it. -/
theorem Commit.row {s' : Database} (h : Commit r known p s c found s') (hreturning : s.returning = true)
    (hstands : Stands r known s p.1) (ha : Unambiguous p.2) : ∃ row, found = some row := by
  cases h with
  | @insert supplied t u found supplies named testable insert =>
    obtain ⟨cells, hi⟩ := StoredTable.insert_inserted insert
    obtain ⟨row, -, hrow⟩ := hi.told hreturning
    exact ⟨row, hrow⟩
  | @update supplied t u found supplies named full testable holds update =>
    obtain ⟨hkept, hkey⟩ := hstands t named
    obtain ⟨input, -, hn, -⟩ := suppliedValues_ok ha supplies.values
    obtain ⟨hk, hfull, bs, cells, hu, htests⟩ := updatedByKey hn hkept hkey full update
    obtain ⟨stored, hstored, hhas, -⟩ := holds
    have hne : t.chosen bs ≠ [] :=
      List.ne_nil_of_mem (List.mem_filter.2 ⟨hstored, (htests stored).2 hhas⟩)
    refine Option.ne_none_iff_exists'.1 (hu.found_ne_none (fun q hq => ((mem_keyValues hn).1 hq).2.2) ?_ hne)
    intro q hq
    rw [get?_otherValues hn hfull]
    exact if_pos ((mem_keyValues hn).1 hq).1

end Phase

/-! ## Several calls -/

/-- Calls that work on one database at the same time, each as far as it has come. -/
structure Underway (r : Resolver ι) (known : List String) (calls : List (String × Args)) (pool : List (Work ι Value))
    (s : Database) : Prop where
  stands : ∀ p ∈ calls, Stands r known s p.1
  args : ∀ p ∈ calls, Unambiguous p.2
  phases : ∀ (i : Nat) (p : String × Args), calls[i]? = some p →
    ∃ w : Work ι Value, pool[i]? = some w ∧ Phase r known p s w

section Underway
variable {r : Resolver ι} {known : List String} {calls : List (String × Args)} {pool : List (Work ι Value)}
  {s s' : Database} {i : Nat} {p : String × Args} {w : Work ι Value}

theorem Underway.start (hstands : ∀ p ∈ calls, Stands r known s p.1) (hargs : ∀ p ∈ calls, Unambiguous p.2)
    (others : List (Work ι Value)) :
    Underway r known calls (calls.map (fun p => r.put (some p.1) p.2) ++ others) s where
  stands := hstands
  args := hargs
  phases := by
    intro i p hp
    have hi : i < (calls.map fun p => r.put (some p.1) p.2).length := by
      rw [List.length_map]
      exact (List.getElem?_eq_some_iff.1 hp).1
    refine ⟨r.put (some p.1) p.2, ?_, .fresh⟩
    rw [List.getElem?_append_left hi, List.getElem?_map, hp]
    rfl

/-- One client goes on, while the database stays. -/
theorem Underway.set (h : Underway r known calls pool s) (hw : pool[i]? = some w) {v : Work ι Value}
    (hv : ∀ p, calls[i]? = some p → Phase r known p s v) : Underway r known calls (pool.set i v) s where
  stands := h.stands
  args := h.args
  phases := by
    intro j q hq
    by_cases hij : j = i
    · subst hij
      exact ⟨v, Work.Interleaving.getElem?_set_self hw v, hv q hq⟩
    · rw [Work.Interleaving.getElem?_set_other hij]
      exact h.phases j q hq

theorem Underway.advance (h : Underway r known calls pool s) {lost : Nat} (hs : Advances known s s' lost) :
    Underway r known calls pool s' where
  stands := fun p hp => (h.stands p hp).advance hs
  args := h.args
  phases := by
    intro j q hq
    obtain ⟨w, hw, hphase⟩ := h.phases j q hq
    exact ⟨w, hw, hphase.advance (h.stands q (List.mem_of_getElem? hq)) hs⟩

/-- Putting an item asks at once, or has failed already. -/
theorem put_cases (r : Resolver ι) (p : String × Args) :
    (∃ e, r.put (some p.1) p.2 = .done (.error e)) ∨ ∃ c next, r.put (some p.1) p.2 = .ask c next := by
  by_cases hconnected : r.connected = true
  · cases hsupplied : suppliedValues p.2 with
    | error e => exact .inl ⟨e, by rw [put, requireConnection, if_pos hconnected, hsupplied]; rfl⟩
    | ok supplied =>
      right
      rw [put_eq r (some p.1) hconnected hsupplied]
      split
      · exact ⟨_, _, rfl⟩
      · exact ⟨_, _, rfl⟩
  · exact .inl ⟨_, by rw [put, requireConnection, if_neg hconnected]; rfl⟩

/-- A call that reports a loss has failed. -/
theorem Phase.report {e : Event ι} {next : Work ι Value} (h : Phase r known p s (.emit e next)) : Failed next := by
  generalize hw : Work.emit e next = w at h
  cases h with
  | fresh =>
    rcases put_cases r p with ⟨e', he⟩ | ⟨c, next', he⟩
    · cases hw.trans he
    · cases hw.trans he
  | found => cases hw
  | missed => cases hw
  | ended => cases hw
  | failed hfailed =>
    subst hw
    obtain ⟨x, hx, h | ⟨e', h⟩⟩ := hfailed
    · cases h
    · obtain ⟨-, rfl⟩ := Work.emit.inj h
      exact ⟨x, hx, .inl rfl⟩

theorem Underway.report (h : Underway r known calls pool s) {e : Event ι} {next : Work ι Value}
    (here : pool[i]? = some (.emit e next)) : Underway r known calls (pool.set i next) s := by
  refine h.set here fun p hp => ?_
  obtain ⟨w, hw, hphase⟩ := h.phases i p hp
  obtain rfl := Option.some.inj (here.symm.trans hw)
  exact .failed hphase.report

/-- A call in turn among others: nothing is written, or its write goes well. -/
theorem Underway.turn (h : Underway r known calls pool s) (here : pool[i]? = some w) (hp : calls[i]? = some p)
    {c : Call} {next : Except Failure c.Answer → Work ι Value} (asks : Work.Asks w c next) :
    Underway r known calls (pool.set i (next (Database.answer known c s).1)) (Database.answer known c s).2 ∧
      (Passes r known p s c next ∨ Commits r known p s c next) := by
  obtain ⟨v, hv, hphase⟩ := h.phases i p hp
  obtain rfl := Option.some.inj (here.symm.trans hv)
  have hmem := List.mem_of_getElem? hp
  have hturn := hphase.turn (h.stands p hmem) (h.args p hmem) asks
  refine ⟨?_, hturn⟩
  rcases hturn with ⟨hstate, hnext, -, -⟩ | ⟨found, hcommit, hnext, -⟩
  · rw [hstate]
    refine h.set here fun q hq => ?_
    obtain rfl := Option.some.inj (hp.symm.trans hq)
    exact hnext
  · rw [hnext, putEnd_found]
    refine (h.advance (hcommit.advances (h.stands p hmem) (h.args p hmem))).set here fun q hq => ?_
    exact .ended found

end Underway

end Resolver
end TableGraph
