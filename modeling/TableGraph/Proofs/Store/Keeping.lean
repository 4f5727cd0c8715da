import TableGraph.Proofs.Store.Order

/-! # What a store keeps true

The rows of a table have a cell for each column, and no two of them agree in the key (`Kept`). An insert that
goes well adds one row that agrees with none (`Inserted`), an update overwrites rows so that no two agree
(`update_apart`), and so both keep this (`Kept.insert`, `Kept.update`). A row found under its key, and read, is
found and read after either (`Holds.insert`, `Holds.update`).
-/
namespace TableGraph.Store
open Chain

/-- A column recognizes a value: what it keeps for the value equals it, as the store compares them. -/
def StoredColumn.Recognizes (c : StoredColumn) (v : Value) : Prop :=
  ∀ cell, c.KeepsAs v cell → ∃ read operand value, c.column.coerce v = .ok read ∧
    prepareOperand c.column.kind read = .ok operand ∧ accept operand = .ok value ∧ holds c.affinity .eq cell value = true

/-- What a column prepares alike for keeping and for comparing is recognized, if keeping it as it prefers changes
nothing that shows when they are compared. -/
theorem StoredColumn.recognizes_of_alike {c : StoredColumn} {v read : Value} (hread : c.column.coerce v = .ok read)
    (halike : prepareOperand c.kind read = prepare c.kind read)
    (hholds : ∀ prepared taken, prepare c.kind read = .ok prepared → accept prepared = .ok taken →
      holds c.affinity .eq (taken.stored c.affinity) taken = true) : c.Recognizes v := by
  rintro cell ⟨read', prepared, taken, hread', hprepare, haccept, rfl⟩
  obtain rfl := Except.ok.inj (hread.symm.trans hread')
  have hoperand : prepareOperand c.column.kind read = .ok prepared := by
    simp only [StoredColumn.column, halike, hprepare]
  exact ⟨read, prepared, taken, hread, hoperand, haccept, hholds prepared taken hprepare haccept⟩

/-- A column of texts recognizes every text. -/
theorem StoredColumn.recognizes_text {c : StoredColumn} (hkind : c.kind = .plain) (haffinity : c.affinity = .text)
    (s : String) : c.Recognizes (.text s) := by
  have hread : c.column.coerce (.text s) = .ok (.text s) := by
    rw [Column.coerce_text]
    simp [Column.coerceText, StoredColumn.column, hkind, ColumnKind.reading, Except.map, Value.text]
  refine recognizes_of_alike hread (by rw [hkind]; rfl) fun prepared taken hprepare haccept => ?_
  rw [hkind] at hprepare
  obtain rfl := Except.ok.inj hprepare
  obtain rfl := Except.ok.inj haccept
  simp [haffinity, holds, Cell.operand, Cell.stored, Cell.asText, Cell.isNull]

namespace StoredTable

variable {t u : StoredTable} {name : String}

/-! ## Rows that do not conflict -/

theorem hasConflict_eq_false {rows : List Cells} :
    t.hasConflict rows = false ↔ rows.Pairwise fun a b => t.conflict a b = false := by
  induction rows with
  | nil => simp [hasConflict]
  | cons row rest ih =>
    simp only [hasConflict, Bool.or_eq_false_iff, List.any_eq_false, Bool.not_eq_true, ih, List.pairwise_cons]

theorem keyNames_mem_uniqueSets (h : t.keyColumns ≠ []) : t.keyNames ∈ t.uniqueSets := by
  have hne : t.keyColumns.isEmpty = false := by simpa using h
  simp [uniqueSets, hne, keyNames]

theorem agree_of_conflict {a b : Cells} (h : t.conflict a b = false) {columns : List String}
    (hc : columns ∈ t.uniqueSets) : t.agree a b columns = false := by
  rw [conflict, List.any_eq_false] at h
  exact Bool.not_eq_true _ ▸ h columns hc

theorem conflict_comm (t : StoredTable) (a b : Cells) : t.conflict a b = t.conflict b a := by
  unfold conflict
  congr 1
  funext columns
  exact t.agree_comm a b columns

/-- A table as a store keeps it. -/
structure Kept (t : StoredTable) : Prop where
  shape : t.WellShaped
  apart : t.keyColumns ≠ [] → t.rows.Pairwise fun a b => t.agree a b t.keyNames = false

theorem Kept.keyedBy (h : t.Kept) (hne : t.keyColumns ≠ []) : t.KeyedBy t.keyNames where
  shape := h.shape
  nonempty := by simpa [keyNames] using hne
  nodup := h.shape.names.sublist (List.filter_sublist.map _)
  columns := by
    intro column hc
    obtain ⟨c, hm, rfl⟩ := List.mem_map.1 hc
    exact List.mem_map_of_mem (List.mem_filter.1 hm).1
  unique := h.apart hne

/-! ## An insert -/

/-- What an insert that goes well does. It adds the row that it fills, which conflicts with none. -/
structure Inserted (t : StoredTable) (returning : Bool) (name : String) (values : Row) (cells : Assoc String Cell)
    (found : Option Row) (u : StoredTable) : Prop where
  given : t.Given name values cells
  others : u = { t with rows := t.place (t.fill cells) t.rows }
  complete : t.complete (t.fill cells) = true
  apart : ∀ row ∈ t.rows, t.conflict (t.fill cells) row = false
  told : returning = true → ∃ row, t.readRow (t.echoRow (t.fill cells)) = .ok row ∧ found = some row
  lookedUp : returning = false → ∃ known, t.known name values = .ok known ∧
    u.lookUp name known (t.fill cells) = .ok found

theorem insert_inserted {returning : Bool} {values : Row} {found : Option Row}
    (h : t.insert returning name values = .ok (found, u)) :
    ∃ cells, t.Inserted returning name values cells found u := by
  obtain ⟨known, row, hadd, htold⟩ := insert_steps h
  obtain ⟨cells, hadded⟩ := add_ok hadd
  obtain ⟨rfl, rfl, hcomplete, hapart⟩ := insert?_ok hadded.inserted
  refine ⟨cells, hadded.given, rfl, hcomplete, hapart, fun hreturning => ?_, fun hreturning => ?_⟩
  · rw [tell, if_pos hreturning] at htold
    obtain ⟨read, hread, rfl⟩ := map_eq_ok.1 htold
    exact ⟨read, hread, rfl⟩
  · subst hreturning
    exact ⟨known, hadded.reads, htold⟩

section Inserted
variable {returning : Bool} {values : Row} {cells : Assoc String Cell} {found : Option Row}

theorem length_fill (t : StoredTable) (cells : Assoc String Cell) : (t.fill cells).length = t.columns.length := by
  simp [fill]

theorem Inserted.perm (h : t.Inserted returning name values cells found u) : u.rows.Perm (t.fill cells :: t.rows) := by
  rw [h.others]
  exact t.place_perm _ _

theorem Kept.place (hk : t.Kept) {cells : Assoc String Cell}
    (hapart : ∀ row ∈ t.rows, t.conflict (t.fill cells) row = false) :
    Kept { t with rows := t.place (t.fill cells) t.rows } := by
  have hperm := t.place_perm (t.fill cells) t.rows
  refine ⟨⟨hk.shape.names, fun row hrow => ?_⟩, fun hne => ?_⟩
  · rcases List.mem_cons.1 (hperm.mem_iff.1 hrow) with rfl | hrow
    · exact t.length_fill cells
    · exact hk.shape.rows row hrow
  · refine List.Pairwise.perm ?_ hperm.symm fun {a b} hab => (t.agree_comm b a _).trans hab
    exact List.pairwise_cons.2
      ⟨fun row hrow => agree_of_conflict (hapart row hrow) (keyNames_mem_uniqueSets hne), hk.apart hne⟩

theorem Kept.insert (hk : t.Kept) (h : t.Inserted returning name values cells found u) : u.Kept := by
  obtain rfl := h.others
  exact hk.place h.apart

end Inserted

/-! ## The row that an insert fills -/

section Fill
variable {cells : Assoc String Cell} {c : StoredColumn}

/-- The cell that an insert fills in for a column. -/
def filled (t : StoredTable) (cells : Assoc String Cell) (c : StoredColumn) : Cell :=
  let cell := ((cells.get? c.name).getD (c.default.getD .null)).stored c.affinity
  if t.numberColumn? = some c.name then
    match cells.get? c.name with
    | none => .int t.nextNumber
    | some _ => if cell.isNull then .int t.nextNumber else cell
  else cell

theorem fill_eq (t : StoredTable) (cells : Assoc String Cell) : t.fill cells = t.columns.map (t.filled cells) := rfl

theorem cellAt_map (hn : (t.columns.map (·.name)).Nodup) (hc : c ∈ t.columns) (f : StoredColumn → Cell) :
    t.cellAt (t.columns.map f) c.name = f c := by
  have hzip : t.columns.zip (t.columns.map f) = t.columns.map fun d => (d, f d) := List.map_prod_left_eq_zip.symm
  obtain ⟨cell, hfind⟩ := find?_zip hn hc (List.length_map f)
  have hmem := List.mem_of_find?_eq_some hfind
  rw [cellAt, hfind]
  rw [hzip] at hmem
  obtain ⟨d, -, hd⟩ := List.mem_map.1 hmem
  obtain ⟨rfl, rfl⟩ := Prod.mk.inj hd
  rfl

theorem cellAt_fill (hn : (t.columns.map (·.name)).Nodup) (hc : c ∈ t.columns) (cells : Assoc String Cell) :
    t.cellAt (t.fill cells) c.name = t.filled cells c := by
  rw [fill_eq, cellAt_map hn hc]

theorem filled_of_given {cell : Cell} (hcell : cells.get? c.name = some cell)
    (hnull : (cell.stored c.affinity).isNull = false) : t.filled cells c = cell.stored c.affinity := by
  simp [filled, hcell, hnull]

theorem affinityAt_of_mem (hn : (t.columns.map (·.name)).Nodup) (hc : c ∈ t.columns) :
    t.affinityAt c.name = c.affinity := by
  rw [affinityAt, find?_of_nodup_map hn hc]
  rfl

/-- A row equals a value if the test for it holds, whatever the steps to the test are. -/
theorem satisfies_of_holds (hn : (t.columns.map (·.name)).Nodup) (hc : c ∈ t.columns) {v read operand : Value}
    {value : Cell} (hv : v.isNull = false) (hread : c.column.coerce v = .ok read)
    (hoperand : prepareOperand c.column.kind read = .ok operand) (hvalue : accept operand = .ok value) {stored : Cells}
    (hholds : holds c.affinity .eq (t.cellAt stored c.name) value = true) :
    t.Satisfies name stored (keyed c.name v) := by
  let comparison : Comparison := ⟨c.column, .eq, read⟩
  have hcompare : (t.shape name).compare (keyed c.name v) = .ok comparison :=
    compare_keyed_ok (column?_shape hn name hc) hv hread
  have hprepare : prepareTest comparison = .ok (comparison, operand) := map_eq_ok.2 ⟨operand, hoperand, rfl⟩
  have haccept : t.acceptTest (comparison, operand) = .ok ⟨c.name, t.affinityAt c.name, .eq, value⟩ :=
    map_eq_ok.2 ⟨value, hvalue, rfl⟩
  refine ⟨_, boundOf_ok.2 ⟨comparison, _, hcompare, hprepare, haccept⟩, ?_⟩
  rw [meets, affinityAt_of_mem hn hc]
  exact hholds

/-- A row filled with values that the columns of the key recognize has the key. -/
theorem hasKey_fill (hn : (t.columns.map (·.name)).Nodup) {values : Row} (hgiven : t.Given name values cells)
    {key : List String} (hkey : ∀ column ∈ key, ∃ c ∈ t.columns, c.name = column ∧ ∃ v,
      values.get? column = some v ∧ v.isNull = false ∧ c.Recognizes v) :
    t.HasKey name key values.get? (t.fill cells) := by
  intro column hcolumn
  obtain ⟨c, hc, rfl, v, hv, hnull, hrecognizes⟩ := hkey column hcolumn
  obtain ⟨cell, hcell, hkeeps⟩ := hgiven.get?_of_some hn hc hv
  obtain ⟨read, operand, value, hread, hoperand, hvalue, hholds⟩ := hrecognizes _ hkeeps
  have hgivenCell : (cell.stored c.affinity).isNull = false := by
    simp only [holds, Bool.and_eq_true, Bool.not_eq_true'] at hholds
    exact hholds.1.1
  refine ⟨v, hv, hnull, satisfies_of_holds hn hc hnull hread hoperand hvalue ?_⟩
  rwa [cellAt_fill hn hc, filled_of_given hcell hgivenCell]

end Fill

/-! ## An update -/

theorem update?_apart {chosen : Cells → Bool} {cells : Assoc String Cell} (h : t.update? chosen cells = some u) :
    u.rows.Pairwise fun a b => t.conflict a b = false := by
  obtain ⟨-, hperm⟩ := update?_ok h
  unfold update? at h
  dsimp only at h
  split at h
  · rename_i hfine
    rw [Bool.and_eq_true, Bool.not_eq_true'] at hfine
    exact (hasConflict_eq_false.1 hfine.2).perm hperm.symm fun {a b} hab => (t.conflict_comm b a).trans hab
  · cases h

/-- After an update that goes well no two rows agree in the key. -/
theorem update_apart {keys values : Row} {found : Option Row} (h : t.update name keys values = .ok (found, u)) :
    u = t ∨ u.rows.Pairwise fun a b => t.conflict a b = false := by
  obtain ⟨bs, cells, -, -, -, ⟨-, rfl⟩ | hupdate⟩ := update_steps h
  · exact .inl rfl
  · exact .inr (update?_apart hupdate)

section Updated
variable {keys values : Row} {bs : List BoundTest} {cells : Assoc String Cell} {found : Option Row}

theorem Kept.update (hk : t.Kept) (h : t.Updated name keys values bs cells found u)
    (hapart : u = t ∨ u.rows.Pairwise fun a b => t.conflict a b = false) : u.Kept := by
  rcases hapart with rfl | hapart
  · exact hk
  · have hrows := h.rows
    obtain ⟨rows, rfl⟩ : ∃ rows, u = { t with rows := rows } := ⟨u.rows, h.others⟩
    refine ⟨⟨hk.shape.names, fun row hrow => ?_⟩, fun hne => ?_⟩
    · obtain ⟨before, hbefore, rfl⟩ := List.mem_map.1 (hrows.mem_iff.1 hrow)
      split
      · exact (length_overwrite t cells (hk.shape.rows before hbefore)).trans (hk.shape.rows before hbefore)
      · exact hk.shape.rows before hbefore
    · exact hapart.imp fun hab => agree_of_conflict hab (keyNames_mem_uniqueSets hne)

end Updated

/-! ## Rows under their key -/

section Key
variable {key : List String} {values : String → Option Value}

/-- Rows with the same cells in the columns of the key have the same keys. -/
theorem HasKey.congr {x y : Cells} (hx : t.HasKey name key values x)
    (h : ∀ column ∈ key, t.cellAt y column = t.cellAt x column) : t.HasKey name key values y := by
  intro column hc
  obtain ⟨v, hv, hnull, b, hbound, hmeets⟩ := hx column hc
  obtain ⟨comparison, prepared, hcompare, hprepare, haccept⟩ := boundOf_ok.1 hbound
  have hcolumn : b.column = column := (bound_comparison hprepare haccept).1.trans (compare_keyed hnull hcompare).2
  refine ⟨v, hv, hnull, b, hbound, ?_⟩
  rw [meets, hcolumn, h column hc]
  rwa [meets, hcolumn] at hmeets

/-- The row with the key is the only one that its tests leave. -/
theorem chosen_of_hasKey (hk : t.KeyedBy key) {bs : List BoundTest}
    (htests : ∀ row, t.meetsAll bs row = true ↔ t.HasKey name key values row) {row : Cells} (hrow : row ∈ t.rows)
    (hhas : t.HasKey name key values row) : t.chosen bs = [row] := by
  refine chosen_of_apart hk.unique (fun x y hx hy => ?_) hrow ((htests row).2 hhas)
  simp [agree_of_hasKey ((htests x).1 hx) ((htests y).1 hy)]

/-- There is a row with the key, and it can be read. -/
def Holds (t : StoredTable) (name : String) (key : List String) (values : String → Option Value) : Prop :=
  ∃ stored ∈ t.rows, t.HasKey name key values stored ∧ ∃ row, t.readRow stored = .ok row

theorem Holds.insert (h : t.Holds name key values) {returning : Bool} {other : String} {written : Row}
    {cells : Assoc String Cell} {found : Option Row} (hi : t.Inserted returning other written cells found u) :
    u.Holds name key values := by
  obtain ⟨stored, hstored, hhas, hread⟩ := h
  have hperm := hi.perm
  obtain rfl := hi.others
  exact ⟨stored, hperm.mem_iff.2 (List.mem_cons_of_mem _ hstored), hhas, hread⟩

/-- An update under any key leaves every row under its own key, and can be undone by no row that is not read. -/
theorem Holds.update (h : t.Holds name key values) {other : String} {keys written : Row} {bs : List BoundTest}
    {cells : Assoc String Cell} {found : Option Row} (hu : t.Updated other keys written bs cells found u)
    (hk : u.KeyedBy key) {addressed : String → Option Value}
    (htests : ∀ row, t.meetsAll bs row = true ↔ t.HasKey other key addressed row)
    (hwritten : ∀ column ∈ key, written.get? column = none) : u.Holds name key values := by
  obtain ⟨stored, hstored, hhas, hread⟩ := h
  have hrows := hu.rows
  have hfound := hu.found
  obtain ⟨rows, rfl⟩ : ∃ rows, u = { t with rows := rows } := ⟨u.rows, hu.others⟩
  by_cases hmeets : t.meetsAll bs stored = true
  · let after : Cells := t.overwrite cells stored
    have hkept : ∀ column ∈ key, t.cellAt after column = t.cellAt stored column := fun column hc =>
      cellAt_overwrite_of_none (hu.given.get?_of_none (hwritten column hc)) stored
    have hafter : after ∈ rows := hrows.mem_iff.2 (List.mem_map.2 ⟨stored, hstored, by rw [if_pos hmeets]⟩)
    -- the update reads the row that it has overwritten, or it is undone
    have hchosen : StoredTable.chosen { t with rows := rows } bs = [after] :=
      chosen_of_hasKey hk htests hafter (HasKey.congr ((htests stored).1 hmeets) hkept)
    rw [firstOf, hchosen] at hfound
    obtain ⟨row, hrow, -⟩ := map_eq_ok.1 hfound
    exact ⟨after, hafter, HasKey.congr hhas hkept, row, hrow⟩
  · have hsame : stored ∈ rows := hrows.mem_iff.2 (List.mem_map.2 ⟨stored, hstored, by rw [if_neg hmeets]⟩)
    exact ⟨stored, hsame, hhas, hread⟩

end Key

/-! ## How many rows meet some tests -/

theorem length_chosen_of_perm {rows rows' : List Cells} (h : rows.Perm rows') (bs : List BoundTest) :
    (rows.filter (t.meetsAll bs)).length = (rows'.filter (t.meetsAll bs)).length := (h.filter _).length_eq

/-- An insert adds one row at most to those that meet some tests, and takes none away. -/
theorem Inserted.length_chosen {returning : Bool} {values : Row} {cells : Assoc String Cell} {found : Option Row}
    (h : t.Inserted returning name values cells found u) (bs : List BoundTest) :
    (t.chosen bs).length ≤ (u.chosen bs).length ∧ (u.chosen bs).length ≤ (t.chosen bs).length + 1 := by
  have hlength := length_chosen_of_perm (t := t) h.perm bs
  obtain rfl := h.others
  change (t.chosen bs).length ≤ ((t.place (t.fill cells) t.rows).filter (t.meetsAll bs)).length ∧
    ((t.place (t.fill cells) t.rows).filter (t.meetsAll bs)).length ≤ (t.chosen bs).length + 1
  rw [hlength, List.filter_cons]
  split <;> simp [chosen]

/-- An update under a key adds one row at most, and takes one away at most. -/
theorem Updated.length_chosen {keys values : Row} {bs : List BoundTest} {cells : Assoc String Cell}
    {found : Option Row} (h : t.Updated name keys values bs cells found u) {key : List String} (hk : t.KeyedBy key)
    {supplied : String → Option Value} (htests : ∀ row, t.meetsAll bs row = true ↔ t.HasKey name key supplied row)
    (tests : List BoundTest) :
    (t.chosen tests).length ≤ (u.chosen tests).length + 1 ∧ (u.chosen tests).length ≤ (t.chosen tests).length + 1 := by
  have hlength := length_chosen_of_perm (t := t) h.rows tests
  obtain ⟨rows, rfl⟩ : ∃ rows, u = { t with rows := rows } := ⟨u.rows, h.others⟩
  change (t.chosen tests).length ≤ (rows.filter (t.meetsAll tests)).length + 1 ∧
    (rows.filter (t.meetsAll tests)).length ≤ (t.chosen tests).length + 1
  rw [hlength, chosen]
  by_cases hkey : ∃ stored ∈ t.rows, t.HasKey name key supplied stored
  · obtain ⟨stored, hm, hhas⟩ := hkey
    obtain ⟨before, after, hrows, hmap⟩ := map_of_hasKey hk htests hm hhas (t.overwrite cells)
    have hone (row : Cells) : ((row :: after).filter (t.meetsAll tests)).length =
        (after.filter (t.meetsAll tests)).length + if t.meetsAll tests row then 1 else 0 := by
      rw [List.filter_cons]
      split <;> rfl
    rw [hmap, hrows, List.filter_append, List.filter_append, List.length_append, List.length_append, hone, hone]
    split <;> split <;> omega
  · have hsame : t.rows.map (fun row => if t.meetsAll bs row then t.overwrite cells row else row) = t.rows :=
      map_eq_self fun row hrow => if_neg fun hmeets => hkey ⟨row, hrow, (htests row).1 hmeets⟩
    rw [hsame]
    omega

end StoredTable

end TableGraph.Store
