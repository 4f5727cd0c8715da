import TableGraph.Proofs.Request.Reading
import TableGraph.Proofs.Store.OwnValues

/-! # Tables with a row number

Where the key is the row number, every row has an integer of 64 bits in it (`NumberedBy`), and inserts and updates
keep this so (`NumberedBy.insert`, `NumberedBy.update`). A row is read back by its number, as a text writes it
(`NumberedBy.select`). What an insert or an update tells is a row that is stored then, and what it was given for the
other columns is what they are read as (`Tells`).
-/
namespace TableGraph.Store
open Chain
namespace StoredTable
variable {t u : StoredTable} {name pk : String}

/-! ## What is read of a row -/

theorem get?_of_read {cells : List (StoredColumn × Cell)} {row : Row}
    (h : (cells.mapM fun p => (readCell p.1.kind p.2).map fun v => (p.1.name, v)) = .ok row) {column : String}
    {p : StoredColumn × Cell} (hp : (cells.find? fun p => p.1.name = column) = some p) :
    ∃ v, readCell p.1.kind p.2 = .ok v ∧ row.get? column = some v := by
  induction cells generalizing row with
  | nil => cases hp
  | cons q rest ih =>
    obtain ⟨r, m, hq, hrest, rfl⟩ := mapM_cons_ok.1 h
    obtain ⟨v, hv, rfl⟩ := map_eq_ok.1 hq
    rw [Assoc.get?_cons]
    by_cases hname : q.1.name = column
    · rw [List.find?_cons_of_pos (by simpa using hname)] at hp
      obtain rfl := Option.some.inj hp
      exact ⟨v, hv, if_pos hname⟩
    · rw [List.find?_cons_of_neg (by simpa using hname)] at hp
      obtain ⟨w, hw, hget⟩ := ih hrest hp
      exact ⟨w, hw, by rw [if_neg hname, hget]⟩

/-- What a row that is read has for a column is what the column reads its cell as. -/
theorem get?_readRow (hs : t.WellShaped) {stored : Cells} (hstored : stored ∈ t.rows) {row : Row}
    (h : t.readRow stored = .ok row) {c : StoredColumn} (hc : c ∈ t.columns) :
    ∃ v, readCell c.kind (t.cellAt stored c.name) = .ok v ∧ row.get? c.name = some v := by
  obtain ⟨cell, hfind⟩ := find?_zip hs.names hc (hs.rows stored hstored)
  obtain ⟨v, hv, hget⟩ := get?_of_read h hfind
  rw [cellAt, hfind]
  exact ⟨v, hv, hget⟩

/-! ## Row numbers -/

/-- The table as a store keeps it whose key is the row number. -/
structure NumberedBy (t : StoredTable) (pk : String) : Prop where
  kept : t.Kept
  number : t.numberColumn? = some pk
  numbers : ∀ row ∈ t.rows, ∃ n, t.cellAt row pk = .int n ∧ fits n = true

theorem numberColumn?_eq_some (h : t.numberColumn? = some pk) : ∃ c, t.keyColumns = [c] ∧ c ∈ t.columns ∧ c.name = pk ∧
    c.kind = .integer ∧ c.affinity = .integer := by
  unfold numberColumn? at h
  split at h
  · rename_i c hkey
    split at h
    · rename_i hdeclared
      have hc : c ∈ t.keyColumns := hkey ▸ List.mem_singleton_self c
      exact ⟨c, hkey, (List.mem_filter.1 hc).1, Option.some.inj h, StoredColumn.integer_of_declaration hdeclared⟩
    · cases h
  · cases h

section Number

theorem NumberedBy.keyNames (h : t.NumberedBy pk) : t.keyNames = [pk] := by
  obtain ⟨c, hkey, -, rfl, -⟩ := numberColumn?_eq_some h.number
  rw [StoredTable.keyNames, hkey]
  rfl

theorem NumberedBy.unique (h : t.NumberedBy pk) : t.UniqueIn pk := by
  obtain ⟨c, hkey, -⟩ := numberColumn?_eq_some h.number
  have hunique := h.kept.apart (by simp [hkey])
  rwa [h.keyNames] at hunique

theorem fits_foldl_max {n : Int} {rest : List Int} (h : ∀ m ∈ n :: rest, fits m = true) :
    fits (rest.foldl max n) = true := by
  induction rest generalizing n with
  | nil => exact h n List.mem_cons_self
  | cons m rest ih =>
    refine ih fun k hk => ?_
    rcases List.mem_cons.1 hk with rfl | hk
    · have hchoice : max n m = n ∨ max n m = m := by omega
      rcases hchoice with hmax | hmax
      · rw [hmax]
        exact h n List.mem_cons_self
      · rw [hmax]
        exact h m (List.mem_cons_of_mem n List.mem_cons_self)
    · exact h k (List.mem_cons_of_mem n (List.mem_cons_of_mem m hk))

theorem fits_freeNumber (t : StoredTable) : fits t.freeNumber = true := by
  unfold freeNumber
  dsimp only
  cases hfind : ((List.range (t.rows.filterMap t.rowNumber?).length).map fun n : Nat => (n : Int) + 1).find? fun n =>
      n ≤ maxInt && !(t.rows.filterMap t.rowNumber?).contains n with
  | none => decide
  | some n =>
    have hfree := List.find?_some hfind
    simp only [Bool.and_eq_true, decide_eq_true_eq] at hfree
    obtain ⟨m, -, rfl⟩ := List.mem_map.1 (List.mem_of_find?_eq_some hfind)
    rw [Option.getD_some, fits_iff, minInt]
    omega

/-- The number of a new row fits, as those of all rows do. -/
theorem NumberedBy.fits_nextNumber (h : t.NumberedBy pk) : fits t.nextNumber = true := by
  have hall : ∀ n ∈ t.rows.filterMap t.rowNumber?, fits n = true := by
    intro n hn
    obtain ⟨row, hrow, hnumber⟩ := List.mem_filterMap.1 hn
    obtain ⟨m, hcell, hfits⟩ := h.numbers row hrow
    rw [rowNumber?, h.number] at hnumber
    simp only [hcell, Option.some.injEq] at hnumber
    exact hnumber ▸ hfits
  unfold nextNumber
  split
  · decide
  · rename_i n rest hnumbers
    rw [hnumbers] at hall
    have hlast := fits_iff.1 (fits_foldl_max hall)
    dsimp only
    split
    · rw [fits_iff]
      omega
    · exact fits_freeNumber t

/-- A row that is given no number has the next one. -/
theorem NumberedBy.cellAt_fill_next (h : t.NumberedBy pk) {values : Row} {cells : Assoc String Cell}
    (hgiven : t.Given name values cells) (hv : values.get? pk = none) :
    t.cellAt (t.fill cells) pk = .int t.nextNumber := by
  obtain ⟨c, -, hc, rfl, -⟩ := numberColumn?_eq_some h.number
  rw [cellAt_fill h.kept.shape.names hc]
  simp [filled, h.number, hgiven.get?_of_none hv]

/-- The row that an insert adds has a number that fits. If one was given for it, it is that. -/
theorem NumberedBy.number_fill (h : t.NumberedBy pk) {returning : Bool} {values : Row} {cells : Assoc String Cell}
    {found : Option Row} (hi : t.Inserted returning name values cells found u)
    (htakes : ∀ v, values.get? pk = some v → Takes .integer v)
    (hnull : ∀ v, values.get? pk = some v → v.isNull = false) :
    ∃ n, t.cellAt (t.fill cells) pk = .int n ∧ fits n = true ∧
      ∀ v, values.get? pk = some v → Column.coerce ⟨pk, .integer⟩ v = .ok (.int n) := by
  obtain ⟨c, -, hc, rfl, hkind, haffinity⟩ := numberColumn?_eq_some h.number
  have hcolumn : c.column = ⟨c.name, .integer⟩ := by rw [StoredColumn.column, hkind]
  cases hv : values.get? c.name with
  | none => exact ⟨_, h.cellAt_fill_next hi.given hv, h.fits_nextNumber, fun v hsome => by cases hsome⟩
  | some v =>
    rw [cellAt_fill h.kept.shape.names hc]
    obtain ⟨cell, hcell, hkeeps⟩ := hi.given.get?_of_some h.kept.shape.names hc hv
    obtain ⟨n, hread, hstored, hfits⟩ :=
      StoredColumn.int_of_keepsAs hkind haffinity (hkind ▸ htakes v hv) (hnull v hv) hkeeps
    refine ⟨n, ?_, hfits, fun w hw => ?_⟩
    · rw [filled_of_given hcell (by rw [hstored]; rfl), hstored]
    · rw [← Option.some.inj hw, ← hcolumn]
      exact hread

theorem NumberedBy.insert (h : t.NumberedBy pk) {returning : Bool} {values : Row} {cells : Assoc String Cell}
    {found : Option Row} (hi : t.Inserted returning name values cells found u)
    (htakes : ∀ v, values.get? pk = some v → Takes .integer v)
    (hnull : ∀ v, values.get? pk = some v → v.isNull = false) :
    u.NumberedBy pk := by
  obtain ⟨n, hcell, hfits, -⟩ := h.number_fill hi htakes hnull
  have hkept := h.kept.insert hi
  have hperm := hi.perm
  obtain ⟨rows, rfl⟩ : ∃ rows, u = { t with rows := rows } := ⟨u.rows, by rw [hi.others]⟩
  refine ⟨hkept, h.number, fun row hrow => ?_⟩
  rcases List.mem_cons.1 (hperm.mem_iff.1 hrow) with rfl | hrow
  · exact ⟨n, hcell, hfits⟩
  · exact h.numbers row hrow

theorem NumberedBy.update (h : t.NumberedBy pk) {keys values : Row} {bs : List BoundTest} {cells : Assoc String Cell}
    {found : Option Row} (hu : t.Updated name keys values bs cells found u)
    (hapart : u = t ∨ u.rows.Pairwise fun a b => t.conflict a b = false) (hwritten : values.get? pk = none) :
    u.NumberedBy pk := by
  have hkept := h.kept.update hu hapart
  have hrows := hu.rows
  obtain ⟨rows, rfl⟩ : ∃ rows, u = { t with rows := rows } := ⟨u.rows, hu.others⟩
  refine ⟨hkept, h.number, fun row hrow => ?_⟩
  obtain ⟨before, hbefore, rfl⟩ := List.mem_map.1 (hrows.mem_iff.1 hrow)
  obtain ⟨n, hcell, hfits⟩ := h.numbers before hbefore
  refine ⟨n, ?_, hfits⟩
  split
  · exact (cellAt_overwrite_of_none (hu.given.get?_of_none hwritten) before).trans hcell
  · exact hcell

end Number

/-! ## A row read back by its number -/

section Number
variable {c : StoredColumn} {n : Int} {stored : Cells}

/-- An integer that fits is read as it is written. -/
theorem coerce_toString {column : String} (hfits : fits n = true) :
    Column.coerce ⟨column, .integer⟩ (.text (toString n)) = .ok (.int n) := by
  have htrim : Text.trim (toString n).toList = (toString n).toList :=
    Text.trim_of_not_blank fun c hc => (Request.plain_toString_int hc).1
  simp only [Column.coerce_text, Column.coerceText, ColumnKind.reading, ColumnKind.readText?, htrim,
    Number.readInt?_toString (Number.length_natText_of_fits hfits)]
  rfl

/-- The test that a column is an integer. -/
theorem bindTests_int (hn : (t.columns.map (·.name)).Nodup) (hc : c ∈ t.columns) (hkind : c.kind = .integer)
    (haffinity : c.affinity = .integer) (hfits : fits n = true) :
    t.bindTests [⟨c.column, .eq, .int n⟩] = .ok [⟨c.name, .integer, .eq, .int n⟩] := by
  have hat : t.affinityAt c.name = .integer := (affinityAt_of_mem hn hc).trans haffinity
  have hprepare : prepareTest ⟨c.column, .eq, .int n⟩ = .ok (⟨c.column, .eq, .int n⟩, .int n) := rfl
  have haccept : t.acceptTest (⟨c.column, .eq, .int n⟩, .int n) = .ok ⟨c.name, .integer, .eq, .int n⟩ := by
    simp only [acceptTest, accept, Value.int, hfits, if_true, Except.map, StoredColumn.column, hat]
  refine bindTests_ok.2 ⟨_, mapM_singleton hprepare, ?_, mapM_singleton haccept⟩
  simp [checkTests, maxTests, cannotPack, StoredColumn.column, hkind]

theorem meets_int (hcell : t.cellAt stored c.name = .int n) :
    t.meets stored ⟨c.name, .integer, .eq, .int n⟩ = true := by
  simp [meets, hcell, holds, Cell.operand, Cell.asNumber, Cell.isNull]

theorem NumberedBy.select (h : t.NumberedBy pk) (name : String) (hstored : stored ∈ t.rows) {row : Row}
    (hread : t.readRow stored = .ok row) : ∃ n, row.get? pk = some (.int n) ∧
      t.select name { conditions := [keyed pk (.text (toString n))], limit := some 1 } = .ok [row] := by
  obtain ⟨c, -, hc, rfl, hkind, haffinity⟩ := numberColumn?_eq_some h.number
  obtain ⟨n, hcell, hfits⟩ := h.numbers stored hstored
  obtain ⟨v, hv, hget⟩ := get?_readRow h.kept.shape hstored hread hc
  rw [hcell, hkind] at hv
  obtain rfl : .int n = v := Except.ok.inj hv
  refine ⟨n, hget, ?_⟩
  have hcoerce : c.column.coerce (.text (toString n)) = .ok (.int n) := by
    rw [StoredColumn.column, hkind]
    exact coerce_toString hfits
  exact select_one (compare_keyed_ok (column?_shape h.kept.shape.names name hc) rfl hcoerce)
    (bindTests_int h.kept.shape.names hc hkind haffinity hfits) rfl h.unique hstored (meets_int hcell) hread

end Number

/-! ## What inserts and updates tell -/

/-- A row is told that is stored, and what was given for the columns but the number is what they are read as. -/
def Tells (u : StoredTable) (pk : String) (given : String → Option Value) (row : Row) : Prop :=
  ∃ stored ∈ u.rows, u.readRow stored = .ok row ∧
    ∀ c ∈ u.columns, c.name ≠ pk → ∀ v, given c.name = some v → c.Recalls v (u.cellAt stored c.name)

section Tells
variable {values : Row} {cells : Assoc String Cell} {row : Row}

theorem NumberedBy.tells_update (h : t.NumberedBy pk) (hordinary : ∀ c ∈ t.columns, c.Ordinary) {keys : Row}
    {bs : List BoundTest} (hu : t.Updated name keys values bs cells (some row) u)
    (htakes : ∀ c ∈ t.columns, ∀ v, values.get? c.name = some v → Takes c.kind v) : u.Tells pk values.get? row := by
  obtain ⟨stored, hstored, hmeets, hread⟩ := firstOf_some hu.found
  have hrows := hu.rows
  obtain ⟨rows, rfl⟩ : ∃ rows, u = { t with rows := rows } := ⟨u.rows, hu.others⟩
  refine ⟨stored, hstored, hread, fun c hc _ v hv => ?_⟩
  -- a row that still meets the tests for the key is the one that was overwritten
  obtain ⟨before, hbefore, rfl⟩ := List.mem_map.1 (hrows.mem_iff.1 hstored)
  by_cases hchosen : t.meetsAll bs before = true
  · rw [if_pos hchosen]
    exact StoredColumn.recalls_of_keepsAs (hordinary c hc) (htakes c hc v hv)
      ((hu.given.changed h.kept.shape hbefore).held c hc v hv)
  · rw [if_neg hchosen] at hmeets
    exact absurd hmeets hchosen

/-- Ordinary columns hand back what they keep. -/
theorem echoRow_of_ordinary (hordinary : ∀ c ∈ t.columns, c.Ordinary) {stored : Cells}
    (hlength : stored.length = t.columns.length) : t.echoRow stored = stored := by
  have hsnd : (t.columns.zip stored).map Prod.snd = stored := List.map_snd_zip (Nat.le_of_eq hlength)
  refine Eq.trans (List.map_congr_left fun p hp => ?_) hsnd
  have hc := hordinary p.1 (List.of_mem_zip hp).1
  have hreal : p.1.affinity ≠ .real := by
    rcases hc with ⟨-, haffinity⟩ | ⟨-, haffinity⟩ | ⟨-, haffinity⟩ <;> simp [haffinity]
  unfold StoredColumn.echo
  split
  · exact absurd ‹_› hreal
  · rfl

/-- The row that an insert fills has what was given for its columns. -/
theorem NumberedBy.recalls_fill (h : t.NumberedBy pk) {c : StoredColumn} (hc : c ∈ t.columns) (hordinary : c.Ordinary)
    (hne : c.name ≠ pk) (hgiven : t.Given name values cells) {v : Value} (hv : values.get? c.name = some v)
    (htakes : Takes c.kind v) : c.Recalls v (t.cellAt (t.fill cells) c.name) := by
  obtain ⟨cell, hcell, hkeeps⟩ := hgiven.get?_of_some h.kept.shape.names hc hv
  have hfilled : t.filled cells c = cell.stored c.affinity := by
    have hno : pk ≠ c.name := Ne.symm hne
    simp [filled, h.number, hno, hcell]
  rw [cellAt_fill h.kept.shape.names hc, hfilled]
  exact StoredColumn.recalls_of_keepsAs hordinary htakes hkeeps

/-- A row that is found by what was given has it. -/
theorem recalls_of_equalities (hn : (t.columns.map (·.name)).Nodup) {c : StoredColumn} (hc : c ∈ t.columns)
    (hordinary : c.Ordinary) {known : Row} {bs : List BoundTest}
    (hbound : t.bindTests (equalities (t.shape name) known) = .ok bs) {stored : Cells}
    (hmeets : t.meetsAll bs stored = true) {v value : Value} (htakes : Takes c.kind v)
    (hread : c.column.coerce v = .ok value) (hknown : known.get? c.name = some value) :
    c.Recalls v (t.cellAt stored c.name) := by
  let comparison : Comparison := ⟨c.column, if value.isNull then .isNull else .eq, value⟩
  have hm : comparison ∈ equalities (t.shape name) known :=
    mem_equalities.2 ⟨_, Assoc.mem_of_get? hknown, c.column, column?_shape hn name hc, rfl⟩
  obtain ⟨prepared, hprepared, -, haccepted⟩ := bindTests_ok.1 hbound
  obtain ⟨p, hp, hprepare⟩ := exists_of_mem hprepared hm
  obtain ⟨operand, hoperand, rfl⟩ := map_eq_ok.1 hprepare
  obtain ⟨b, hb, haccept⟩ := exists_of_mem haccepted hp
  obtain ⟨taken, htaken, rfl⟩ := map_eq_ok.1 haccept
  have hholds := List.all_eq_true.1 hmeets _ hb
  rw [meets] at hholds
  simp only [comparison, StoredColumn.column] at hholds hoperand
  rw [affinityAt_of_mem hn hc] at hholds
  exact StoredColumn.recalls_of_holds hordinary htakes hread hoperand htaken hholds

/-- A new row that is looked up by its key is the row itself. -/
theorem NumberedBy.chosen_newKey (h : u.NumberedBy pk) {stored : Cells} (hstored : stored ∈ u.rows) {known : Row}
    (hknown : ∀ w, known.get? pk = some w → w.isNull = false → ∃ n, w = .int n ∧ u.cellAt stored pk = .int n)
    (husable : ∀ p ∈ u.newKey known stored, p.2.isNull = false) {bs : List BoundTest}
    (hbound : u.bindTests (equalities (u.shape name) (u.newKey known stored)) = .ok bs) : u.chosen bs = [stored] := by
  obtain ⟨c, hkey, hc, rfl, hkind, haffinity⟩ := numberColumn?_eq_some h.number
  obtain ⟨m, hcell, hfits⟩ := h.numbers stored hstored
  have hnew : u.newKey known stored = [(c.name, .int m)] := by
    have hone : u.newKey known stored = [(c.name, (known.get? c.name).getD
        (if u.toldKey? = some c.name then .int (u.toldNumber stored) else .null))] := by
      rw [newKey, hkey]
      rfl
    rw [hone] at husable ⊢
    have hgiven := husable _ (List.mem_singleton_self _)
    cases hget : known.get? c.name with
    | some w =>
      rw [hget] at hgiven
      obtain ⟨n, rfl, hn⟩ := hknown w hget hgiven
      rw [Option.getD_some, Cell.int.inj (hcell.symm.trans hn)]
    | none =>
      rw [hget, Option.getD_none] at hgiven
      split at hgiven
      · rename_i htold
        have hnumber : u.rowNumber? stored = some m := by simp only [rowNumber?, h.number, hcell]
        rw [Option.getD_none, if_pos htold, toldNumber, hnumber]
        rfl
      · cases hgiven
  have hequality : equalities (u.shape name) [(c.name, .int m)] = [⟨c.column, .eq, .int m⟩] := by
    simp [equalities, column?_shape h.kept.shape.names name hc, Value.int, Value.isNull]
  rw [hnew, hequality, bindTests_int h.kept.shape.names hc hkind haffinity hfits] at hbound
  obtain rfl := Except.ok.inj hbound
  exact chosen_of_unique rfl h.unique hstored (meets_int hcell)

/-- What is known of a number is what was given for it. -/
theorem eq_int_of_known (hn : (t.columns.map (·.name)).Nodup) {c : StoredColumn} (hc : c ∈ t.columns)
    (hkind : c.kind = .integer) {known : Row} (hknown : (t.shape name).coerceRow values = .ok known) {n : Int}
    (hnumber : ∀ v, values.get? c.name = some v → Column.coerce ⟨c.name, .integer⟩ v = .ok (.int n)) {w : Value}
    (hw : known.get? c.name = some w) : w = .int n := by
  cases hv : values.get? c.name with
  | none => cases (get?_coerceRow_of_none hknown hv).symm.trans hw
  | some v =>
    obtain ⟨value, hvalue, hget⟩ := get?_coerceRow_of_some hknown (column?_shape hn name hc) hv
    obtain rfl := Option.some.inj (hw.symm.trans hget)
    rw [StoredColumn.column, hkind, hnumber v hv] at hvalue
    exact (Except.ok.inj hvalue).symm

theorem NumberedBy.tells_insert (h : t.NumberedBy pk) (hordinary : ∀ c ∈ t.columns, c.Ordinary) {returning : Bool}
    (hi : t.Inserted returning name values cells (some row) u)
    (htakes : ∀ c ∈ t.columns, ∀ v, values.get? c.name = some v → Takes c.kind v)
    (hnull : ∀ v, values.get? pk = some v → v.isNull = false) : u.Tells pk values.get? row := by
  obtain ⟨c, -, hc, rfl, hkind, -⟩ := numberColumn?_eq_some h.number
  have htakesNumber : ∀ v, values.get? c.name = some v → Takes .integer v := fun v hv => hkind ▸ htakes c hc v hv
  obtain ⟨n, hcell, -, hnumber⟩ := h.number_fill hi htakesNumber hnull
  have hu := h.insert hi htakesNumber hnull
  have hfill : t.fill cells ∈ u.rows := hi.perm.mem_iff.2 List.mem_cons_self
  have hrecalls : ∀ d ∈ t.columns, d.name ≠ c.name → ∀ v, values.get? d.name = some v →
      d.Recalls v (t.cellAt (t.fill cells) d.name) := fun d hd hne v hv =>
    h.recalls_fill hd (hordinary d hd) hne hi.given hv (htakes d hd v hv)
  have htold := hi.told
  have hlookedUp := hi.lookedUp
  obtain ⟨rows, rfl⟩ : ∃ rows, u = { t with rows := rows } := ⟨u.rows, by rw [hi.others]⟩
  -- the new row is handed back, or looked up by its number, or else by all that was given
  cases returning with
  | true =>
    obtain ⟨read, hread, hsome⟩ := htold rfl
    obtain rfl := Option.some.inj hsome
    rw [echoRow_of_ordinary hordinary (t.length_fill cells)] at hread
    exact ⟨_, hfill, hread, hrecalls⟩
  | false =>
    obtain ⟨known, hknown, hlookUp⟩ := hlookedUp rfl
    obtain ⟨bs, hbound, hfirst⟩ := bind_eq_ok.1 hlookUp
    obtain ⟨stored, hstored, hmeets, hread⟩ := firstOf_some hfirst
    have hknown := mapError_eq_ok.1 hknown
    split at hbound
    · rename_i husable
      have hall := (Bool.and_eq_true_iff.1 husable).2
      have hchosen := hu.chosen_newKey hfill
        (fun w hw _ => ⟨n, eq_int_of_known h.kept.shape.names hc hkind hknown hnumber hw, hcell⟩)
        (fun p hp => by simpa using List.all_eq_true.1 hall p hp) hbound
      have hm : stored ∈ StoredTable.chosen { t with rows := rows } bs := List.mem_filter.2 ⟨hstored, hmeets⟩
      rw [hchosen, List.mem_singleton] at hm
      exact ⟨_, hfill, hm ▸ hread, hrecalls⟩
    · refine ⟨stored, hstored, hread, fun d hd hne v hv => ?_⟩
      obtain ⟨value, hvalue, hget⟩ := get?_coerceRow_of_some hknown (column?_shape h.kept.shape.names name hd) hv
      exact recalls_of_equalities (t := { t with rows := rows }) h.kept.shape.names hd (hordinary d hd) hbound hmeets
        (htakes d hd v hv) hvalue hget

end Tells

end StoredTable
end TableGraph.Store
