import Mathlib.Data.List.Nodup
import Mathlib.Data.List.Perm.Basic
import TableGraph.Proofs.Store.Select

/-! # What a write leaves behind

A write replaces one table and no other (`table?_replace_of_ne`). In the table, an insert adds one row
(`insert_ok`), and an update gives the rows that meet its tests the cells that the values are stored as
(`update_ok`, `Changed`). The tests of a key are those of its columns compared for equality (`tests_of_key`),
so where no two rows agree in the key an update changes one row at most.
-/
namespace TableGraph.Store
open Chain

theorem find?_of_nodup_map {α β : Type} [DecidableEq β] {key : α → β} {l : List α} (hn : (l.map key).Nodup) {a : α}
    (ha : a ∈ l) : (l.find? fun x => key x = key a) = some a := by
  cases hfind : l.find? fun x => key x = key a with
  | none =>
    have hno := List.find?_eq_none.1 hfind a ha
    simp at hno
  | some other =>
    have hkey : key other = key a := by simpa using List.find?_some hfind
    rw [List.inj_on_of_nodup_map hn (List.mem_of_find?_eq_some hfind) ha hkey]

/-! ## Tables of a database -/

namespace Database
variable {db : Database} {t u : StoredTable} {name other : String}

theorem sameName_of_table? (h : db.table? name = some t) : sameName t.name name = true := by
  simpa using List.find?_some h

theorem table?_replace (db : Database) (u : StoredTable) (name : String) :
    (db.replace u).table? name = (db.table? name).map fun x => if x.name = u.name then u else x := by
  have hsame : ∀ x : StoredTable, sameName (if x.name = u.name then u else x).name name = sameName x.name name := by
    intro x
    split
    · rename_i hx
      rw [hx]
    · rfl
  rw [table?, replace, List.find?_map]
  simp only [Function.comp_def, hsame]
  rfl

theorem table?_replace_self (h : db.table? name = some t) (hname : u.name = t.name) :
    (db.replace u).table? name = some u := by
  rw [table?_replace, h, Option.map_some, if_pos hname.symm]

/-- Every other table stays as it is. -/
theorem table?_replace_of_ne (h : ¬ sameName u.name other = true) : (db.replace u).table? other = db.table? other := by
  rw [table?_replace]
  cases hfound : db.table? other with
  | none => rfl
  | some x =>
    have hx : x.name ≠ u.name := fun he => h (he ▸ sameName_of_table? hfound)
    rw [Option.map_some, if_neg hx]

end Database

/-- How a column keeps a value: read if it is a text, prepared, taken as a cell, and in the class that the column
prefers. -/
def StoredColumn.KeepsAs (c : StoredColumn) (v : Value) (cell : Cell) : Prop :=
  ∃ read prepared taken, c.column.coerce v = .ok read ∧ prepare c.kind read = .ok prepared ∧
    accept prepared = .ok taken ∧ cell = taken.stored c.affinity

namespace StoredTable
variable {t t' : StoredTable} {name : String}

/-! ## Rows in their places -/

theorem map_eq_self {α : Type} {f : α → α} {l : List α} (h : ∀ a ∈ l, f a = a) : l.map f = l :=
  (List.map_congr_left h).trans (List.map_id' l)

theorem place_cases (t : StoredTable) (row first : Cells) (rest : List Cells) :
    t.place row (first :: rest) = row :: first :: rest ∨ t.place row (first :: rest) = first :: t.place row rest := by
  rw [place]
  split
  · split
    · exact .inl rfl
    · exact .inr rfl
  · exact .inr rfl

/-- A row is placed somewhere between the rows, which stay as they are. -/
theorem place_split (t : StoredTable) (row : Cells) (rows : List Cells) :
    ∃ before after, rows = before ++ after ∧ t.place row rows = before ++ row :: after := by
  induction rows with
  | nil => exact ⟨[], [], rfl, rfl⟩
  | cons first rest ih =>
    obtain ⟨before, after, hrest, hplaced⟩ := ih
    rcases t.place_cases row first rest with h | h
    · exact ⟨[], first :: rest, rfl, h⟩
    · exact ⟨first :: before, after, by rw [hrest, List.cons_append], by rw [h, hplaced, List.cons_append]⟩

theorem place_perm (t : StoredTable) (row : Cells) (rows : List Cells) : (t.place row rows).Perm (row :: rows) := by
  obtain ⟨before, after, rfl, hplaced⟩ := t.place_split row rows
  rw [hplaced]
  exact List.perm_middle

theorem foldl_place_perm (t : StoredTable) (new rows : List Cells) :
    (new.foldl (fun rows row => t.place row rows) rows).Perm (new ++ rows) := by
  induction new generalizing rows with
  | nil => exact List.Perm.refl _
  | cons row rest ih =>
    have hplaced : (rest ++ t.place row rows).Perm (rest ++ row :: rows) := (t.place_perm row rows).append_left rest
    exact ((ih (t.place row rows)).trans hplaced).trans List.perm_middle

theorem update?_ok {chosen : Cells → Bool} {given : Assoc String Cell} (h : t.update? chosen given = some t') :
    t' = { t with rows := t'.rows } ∧
      t'.rows.Perm (t.rows.map fun row => if chosen row then t.overwrite given row else row) := by
  unfold update? at h
  dsimp only at h
  split at h
  · obtain rfl := Option.some.inj h
    refine ⟨rfl, ?_⟩
    simpa using t.foldl_place_perm (t.rows.map fun row => if chosen row then t.overwrite given row else row) []
  · cases h

/-! ## Cells of an overwritten row -/

/-- A table whose columns have names of their own and whose rows have a cell for each column. -/
structure WellShaped (t : StoredTable) : Prop where
  names : (t.columns.map (·.name)).Nodup
  rows : ∀ row ∈ t.rows, row.length = t.columns.length

theorem zip_zip_map {α β : Type} (l : List α) (m : List β) (f : α × β → β) :
    l.zip ((l.zip m).map f) = (l.zip m).map fun p => (p.1, f p) := by
  induction l generalizing m with
  | nil => rfl
  | cons a l ih =>
    cases m with
    | nil => rfl
    | cons b m => rw [List.zip_cons_cons, List.map_cons, List.zip_cons_cons, ih, List.map_cons]

/-- The cell of a column after an overwrite: what is given for it, or else what it was. -/
theorem cellAt_overwrite (t : StoredTable) (given : Assoc String Cell) (row : Cells) (column : String) :
    t.cellAt (t.overwrite given row) column = ((t.columns.zip row).find? fun p => p.1.name = column).elim .null
      fun p => ((given.get? column).map fun cell => cell.stored p.1.affinity).getD p.2 := by
  rw [cellAt, overwrite, zip_zip_map, List.find?_map]
  simp only [Function.comp_def]
  cases hfind : (t.columns.zip row).find? fun p => p.1.name = column with
  | none => rfl
  | some p =>
    have hname : p.1.name = column := by simpa using List.find?_some hfind
    simp only [Option.map_some, Option.elim_some, hname]
    cases given.get? column <;> rfl

theorem cellAt_overwrite_of_none {given : Assoc String Cell} {column : String} (h : given.get? column = none)
    (row : Cells) : t.cellAt (t.overwrite given row) column = t.cellAt row column := by
  rw [cellAt_overwrite, h, cellAt]
  cases (t.columns.zip row).find? fun p => p.1.name = column <;> rfl

theorem find?_zip (hn : (t.columns.map (·.name)).Nodup) {c : StoredColumn} (hc : c ∈ t.columns) {row : Cells}
    (hrow : row.length = t.columns.length) :
    ∃ cell, ((t.columns.zip row).find? fun p => p.1.name = c.name) = some (c, cell) := by
  have hcolumns : (t.columns.zip row).map Prod.fst = t.columns := List.map_fst_zip (by omega)
  obtain ⟨⟨d, cell⟩, hp, rfl⟩ := List.mem_map.1 (hcolumns.symm ▸ hc)
  have hnames : ((t.columns.zip row).map fun p => p.1.name).Nodup := by
    rwa [← hcolumns, List.map_map] at hn
  exact ⟨cell, find?_of_nodup_map hnames hp⟩

theorem cellAt_overwrite_of_some (hn : (t.columns.map (·.name)).Nodup) {c : StoredColumn} (hc : c ∈ t.columns)
    {given : Assoc String Cell} {cell : Cell} (h : given.get? c.name = some cell) {row : Cells}
    (hrow : row.length = t.columns.length) : t.cellAt (t.overwrite given row) c.name = cell.stored c.affinity := by
  obtain ⟨old, hfind⟩ := find?_zip hn hc hrow
  rw [cellAt_overwrite, h, hfind]
  rfl

theorem length_overwrite (t : StoredTable) (given : Assoc String Cell) {row : Cells}
    (hrow : row.length = t.columns.length) : (t.overwrite given row).length = row.length := by
  simp [overwrite, hrow]

/-! ## Values on their way to cells -/

theorem column?_shape (hn : (t.columns.map (·.name)).Nodup) (name : String) {c : StoredColumn} (hc : c ∈ t.columns) :
    (t.shape name).column? c.name = some c.column := by
  have hnames : ((t.columns.map StoredColumn.column).map Column.name).Nodup := by
    rwa [List.map_map]
  exact find?_of_nodup_map hnames (List.mem_map_of_mem hc)

/-- What is known of a row comes from its values for columns that there are. -/
theorem mem_coerceRow {shape : TableShape} {row known : Row} (h : shape.coerceRow row = .ok known) {p : String × Value}
    (hp : p ∈ known) : ∃ c v, shape.column? p.1 = some c ∧ (p.1, v) ∈ row ∧ c.coerce v = .ok p.2 := by
  induction row generalizing known with
  | nil =>
    obtain rfl := Except.ok.inj h
    cases hp
  | cons q rest ih =>
    have hlater {more : Row} (hmore : shape.coerceRow rest = .ok more) (hp : p ∈ more) :
        ∃ c v, shape.column? p.1 = some c ∧ (p.1, v) ∈ q :: rest ∧ c.coerce v = .ok p.2 := by
      obtain ⟨c, v, hc, hv, hw⟩ := ih hmore hp
      exact ⟨c, v, hc, List.mem_cons_of_mem q hv, hw⟩
    rw [TableShape.coerceRow] at h
    cases hc : shape.column? q.1 with
    | none =>
      rw [hc] at h
      exact hlater h hp
    | some c =>
      rw [hc] at h
      obtain ⟨w, hw, h⟩ := bind_eq_ok.1 h
      obtain ⟨more, hmore, h⟩ := bind_eq_ok.1 h
      obtain rfl := Except.ok.inj h
      rcases List.mem_cons.1 hp with rfl | hp
      · exact ⟨c, q.2, hc, List.mem_cons_self, hw⟩
      · exact hlater hmore hp

theorem get?_coerceRow_of_none {shape : TableShape} {row known : Row} (h : shape.coerceRow row = .ok known)
    {column : String} (hv : row.get? column = none) : known.get? column = none := by
  cases hk : known.get? column with
  | none => rfl
  | some w =>
    obtain ⟨c, v, -, hm, -⟩ := mem_coerceRow h (Assoc.mem_of_get? hk)
    exact absurd (List.mem_map_of_mem hm) (Assoc.get?_eq_none_iff.1 hv)

/-- The value for a column that there is is read. -/
theorem get?_coerceRow_of_some {shape : TableShape} {row known : Row} (h : shape.coerceRow row = .ok known)
    {column : String} {c : Column} (hc : shape.column? column = some c) {v : Value} (hv : row.get? column = some v) :
    ∃ w, c.coerce v = .ok w ∧ known.get? column = some w := by
  induction row generalizing known with
  | nil => cases hv
  | cons p rest ih =>
    rw [TableShape.coerceRow] at h
    rw [Assoc.get?_cons] at hv
    by_cases hp : p.1 = column
    · rw [if_pos hp] at hv
      obtain rfl := Option.some.inj hv
      rw [hp, hc] at h
      obtain ⟨w, hw, h⟩ := bind_eq_ok.1 h
      obtain ⟨more, -, h⟩ := bind_eq_ok.1 h
      obtain rfl := Except.ok.inj h
      exact ⟨w, hw, by rw [Assoc.get?_cons, if_pos rfl]⟩
    · rw [if_neg hp] at hv
      cases hd : shape.column? p.1 with
      | none =>
        rw [hd] at h
        exact ih h hv
      | some d =>
        rw [hd] at h
        obtain ⟨x, -, h⟩ := bind_eq_ok.1 h
        obtain ⟨more, hmore, h⟩ := bind_eq_ok.1 h
        obtain rfl := Except.ok.inj h
        obtain ⟨w, hw, hget⟩ := ih hmore hv
        exact ⟨w, hw, by rw [Assoc.get?_cons, if_neg hp, hget]⟩

theorem mem_inOrder {values : Row} {c : StoredColumn} {v : Value} :
    (c, v) ∈ t.inOrder values ↔ c ∈ t.columns ∧ values.get? c.name = some v := by
  rw [inOrder, List.mem_filterMap]
  constructor
  · rintro ⟨d, hd, h⟩
    obtain ⟨w, hw, he⟩ := Option.map_eq_some_iff.1 h
    obtain ⟨rfl, rfl⟩ := Prod.mk.inj he
    exact ⟨hd, hw⟩
  · rintro ⟨hc, hv⟩
    exact ⟨c, hc, by rw [hv, Option.map_some]⟩

/-- The cells of a row of values are those of its columns. -/
theorem mem_cells {values : Row} {prepared : List (String × Value)} {cells : Assoc String Cell}
    (hp : t.prepareRow values = .ok prepared) (ha : acceptRow prepared = .ok cells) {column : String} {cell : Cell}
    (h : (column, cell) ∈ cells) : ∃ c ∈ t.columns, c.name = column ∧ ∃ v p, values.get? column = some v ∧
      prepare c.kind v = .ok p ∧ accept p = .ok cell := by
  obtain ⟨⟨name, p⟩, hm, hcell⟩ := exists_of_mem_result ha h
  obtain ⟨taken, htaken, he⟩ := map_eq_ok.1 hcell
  obtain ⟨rfl, rfl⟩ := Prod.mk.inj he
  obtain ⟨⟨c, v⟩, hcv, hvalue⟩ := exists_of_mem_result hp hm
  obtain ⟨q, hq, he⟩ := map_eq_ok.1 hvalue
  obtain ⟨rfl, rfl⟩ := Prod.mk.inj he
  obtain ⟨hc, hv⟩ := mem_inOrder.1 hcv
  exact ⟨c, hc, rfl, v, q, hv, hq, htaken⟩

theorem exists_cell {values : Row} {prepared : List (String × Value)} {cells : Assoc String Cell}
    (hp : t.prepareRow values = .ok prepared) (ha : acceptRow prepared = .ok cells) {c : StoredColumn}
    (hc : c ∈ t.columns) {v : Value} (hv : values.get? c.name = some v) : ∃ cell, (c.name, cell) ∈ cells := by
  obtain ⟨p, hpm, hvalue⟩ := exists_of_mem hp (mem_inOrder.2 ⟨hc, hv⟩)
  obtain ⟨q, -, rfl⟩ := map_eq_ok.1 hvalue
  obtain ⟨cell, hcell, htaken⟩ := exists_of_mem ha hpm
  obtain ⟨taken, -, rfl⟩ := map_eq_ok.1 htaken
  exact ⟨taken, hcell⟩

/-- The cells that an update or an insert is given for the columns of some values. -/
def Given (t : StoredTable) (name : String) (values : Row) (cells : Assoc String Cell) : Prop :=
  ∃ known prepared, t.known name values = .ok known ∧ t.prepareRow known = .ok prepared ∧
    acceptRow prepared = .ok cells

theorem Given.get?_of_none {values : Row} {cells : Assoc String Cell} (h : t.Given name values cells) {column : String}
    (hv : values.get? column = none) : cells.get? column = none := by
  obtain ⟨known, prepared, hknown, hp, ha⟩ := h
  have hnone := get?_coerceRow_of_none (mapError_eq_ok.1 hknown) hv
  cases hcell : cells.get? column with
  | none => rfl
  | some cell =>
    obtain ⟨c, -, rfl, v, -, hsome, -⟩ := mem_cells hp ha (Assoc.mem_of_get? hcell)
    rw [hnone] at hsome
    cases hsome

theorem Given.get?_of_some {values : Row} {cells : Assoc String Cell} (h : t.Given name values cells)
    (hn : (t.columns.map (·.name)).Nodup) {c : StoredColumn} (hc : c ∈ t.columns) {v : Value}
    (hv : values.get? c.name = some v) :
    ∃ cell, cells.get? c.name = some cell ∧ c.KeepsAs v (cell.stored c.affinity) := by
  obtain ⟨known, prepared, hknown, hp, ha⟩ := h
  obtain ⟨w, hw, hsome⟩ := get?_coerceRow_of_some (mapError_eq_ok.1 hknown) (column?_shape hn name hc) hv
  obtain ⟨other, hm⟩ := exists_cell hp ha hc hsome
  cases hcell : cells.get? c.name with
  | none => exact absurd (List.mem_map_of_mem hm) (Assoc.get?_eq_none_iff.1 hcell)
  | some cell =>
    obtain ⟨d, hd, hname, x, p, hx, hprepare, haccept⟩ := mem_cells hp ha (Assoc.mem_of_get? hcell)
    obtain rfl : d = c := List.inj_on_of_nodup_map hn hd hc hname
    obtain rfl : w = x := Option.some.inj (hsome.symm.trans hx)
    exact ⟨cell, rfl, w, p, cell, hw, hprepare, haccept, rfl⟩

/-- One row after a change. It has the cells it had, but in the columns written it has those that the values are
stored as. -/
structure Changed (t : StoredTable) (written : String → Option Value) (before after : Cells) : Prop where
  length : after.length = before.length
  kept : ∀ column, written column = none → t.cellAt after column = t.cellAt before column
  held : ∀ c ∈ t.columns, ∀ v, written c.name = some v → c.KeepsAs v (t.cellAt after c.name)

theorem Given.changed {values : Row} {cells : Assoc String Cell} (h : t.Given name values cells) (hs : t.WellShaped)
    {row : Cells} (hrow : row ∈ t.rows) : t.Changed values.get? row (t.overwrite cells row) where
  length := length_overwrite t cells (hs.rows row hrow)
  kept := fun _ hv => cellAt_overwrite_of_none (h.get?_of_none hv) row
  held := by
    intro c hc v hv
    obtain ⟨cell, hcell, hkeeps⟩ := h.get?_of_some hs.names hc hv
    rw [cellAt_overwrite_of_some hs.names hc hcell (hs.rows row hrow)]
    exact hkeeps

/-! ## The tests of a key -/

/-- The tests by which a row is found under some key values. -/
def KeyTests (t : StoredTable) (name : String) (keys : Row) (bs : List BoundTest) : Prop :=
  ∃ known, t.known name keys = .ok known ∧ t.bindTests (equalities (t.shape name) known) = .ok bs

theorem compare_keyed_ok {shape : TableShape} {column : String} {c : Column} (hc : shape.column? column = some c)
    {v w : Value} (hv : v.isNull = false) (hw : c.coerce v = .ok w) :
    shape.compare (keyed column v) = .ok ⟨c, .eq, w⟩ := by
  have hnamed : shape.columnNamed column = .ok c := by rw [TableShape.columnNamed, hc]
  have htest : Operator.eq.testWith w = .ok .eq := testWith_eq (coerce_isNull hv hw)
  simp [TableShape.compare, keyed, hnamed, Operator.ofName?_name, hw, htest, Except.mapError, Bind.bind, Except.bind,
    Pure.pure, Except.pure]

/-- The equalities of a row compare each column that there is with its value. -/
theorem mem_equalities {shape : TableShape} {known : Row} {comparison : Comparison} :
    comparison ∈ equalities shape known ↔ ∃ p ∈ known, ∃ c, shape.column? p.1 = some c ∧
      comparison = ⟨c, if p.2.isNull then .isNull else .eq, p.2⟩ := by
  rw [equalities, List.mem_filterMap]
  refine exists_congr fun p => and_congr_right fun _ => Option.map_eq_some_iff.trans ?_
  exact exists_congr fun c => and_congr_right fun _ => eq_comm

theorem KeyTests.unique {keys : Row} {bs cs : List BoundTest} (h : t.KeyTests name keys bs)
    (h' : t.KeyTests name keys cs) : bs = cs := by
  obtain ⟨known, hknown, hbound⟩ := h
  obtain ⟨other, hother, hbound'⟩ := h'
  obtain rfl : known = other := Except.ok.inj (hknown.symm.trans hother)
  exact Except.ok.inj (hbound.symm.trans hbound')

/-- Every test for a key is what one of its columns compared for equality comes to. -/
theorem KeyTests.origin {keys : Row} {bs : List BoundTest} (h : t.KeyTests name keys bs)
    (hnull : ∀ p ∈ keys, p.2.isNull = false) {b : BoundTest} (hb : b ∈ bs) :
    ∃ p ∈ keys, t.boundOf name (keyed p.1 p.2) = .ok b := by
  obtain ⟨known, hknown, hbound⟩ := h
  obtain ⟨all, hprepare, -, haccept⟩ := bindTests_ok.1 hbound
  obtain ⟨prepared, hp, hb⟩ := exists_of_mem_result haccept hb
  obtain ⟨comparison, hm, hprepared⟩ := exists_of_mem_result hprepare hp
  obtain ⟨⟨column, w⟩, hk, d, hd, rfl⟩ := mem_equalities.1 hm
  obtain ⟨c, v, hc, hv, hw⟩ := mem_coerceRow (mapError_eq_ok.1 hknown) hk
  obtain rfl : c = d := Option.some.inj (hc.symm.trans hd)
  have hne : v.isNull = false := hnull _ hv
  have hwne : w.isNull = false := coerce_isNull hne hw
  rw [if_neg (by simp [hwne])] at hprepared
  exact ⟨(column, v), hv, boundOf_ok.2 ⟨_, prepared, compare_keyed_ok hc hne hw, hprepared, hb⟩⟩

/-- Every column of a key is tested. -/
theorem KeyTests.exists_test {keys : Row} {bs : List BoundTest} (h : t.KeyTests name keys bs)
    (hnull : ∀ p ∈ keys, p.2.isNull = false) (hn : (t.columns.map (·.name)).Nodup) {c : StoredColumn}
    (hc : c ∈ t.columns) {v : Value} (hv : keys.get? c.name = some v) :
    ∃ b ∈ bs, t.boundOf name (keyed c.name v) = .ok b := by
  obtain ⟨known, hknown, hbound⟩ := h
  obtain ⟨all, hprepare, -, haccept⟩ := bindTests_ok.1 hbound
  have hcolumn := column?_shape hn name hc
  obtain ⟨w, hw, hget⟩ := get?_coerceRow_of_some (mapError_eq_ok.1 hknown) hcolumn hv
  have hne : v.isNull = false := hnull _ (Assoc.mem_of_get? hv)
  have hwne : w.isNull = false := coerce_isNull hne hw
  have hm : ⟨c.column, .eq, w⟩ ∈ equalities (t.shape name) known :=
    mem_equalities.2 ⟨_, Assoc.mem_of_get? hget, c.column, hcolumn, by simp [hwne]⟩
  obtain ⟨prepared, hp, hprepared⟩ := exists_of_mem hprepare hm
  obtain ⟨b, hb, haccepted⟩ := exists_of_mem haccept hp
  exact ⟨b, hb, boundOf_ok.2 ⟨_, prepared, compare_keyed_ok hcolumn hne hw, hprepared, haccepted⟩⟩

/-- A row meets the tests for a key if it has every value of the key. -/
theorem KeyTests.meetsAll_iff {keys : Row} {bs : List BoundTest} (h : t.KeyTests name keys bs)
    (hnull : ∀ p ∈ keys, p.2.isNull = false) (hn : (t.columns.map (·.name)).Nodup) (hkeys : keys.keys.Nodup)
    (hcolumns : ∀ p ∈ keys, p.1 ∈ t.columns.map (·.name)) (row : Cells) :
    t.meetsAll bs row = true ↔ ∀ p ∈ keys, t.Satisfies name row (keyed p.1 p.2) := by
  rw [meetsAll, List.all_eq_true]
  constructor
  · intro hall p hp
    obtain ⟨c, hc, hname⟩ := List.mem_map.1 (hcolumns p hp)
    have hget : keys.get? c.name = some p.2 := Assoc.get?_eq_some_of_mem hkeys (hname ▸ hp)
    obtain ⟨b, hb, hbound⟩ := h.exists_test hnull hn hc hget
    rw [← hname]
    exact ⟨b, hbound, hall b hb⟩
  · intro hall b hb
    obtain ⟨p, hp, hbound⟩ := h.origin hnull hb
    obtain ⟨other, hother, hmeets⟩ := hall p hp
    rwa [Except.ok.inj (hbound.symm.trans hother)]

/-- A stored row has the key that is supplied: there is a value for each of its columns, none of them null, and the
cell in the column equals it as the store compares them. -/
def HasKey (t : StoredTable) (name : String) (key : List String)
    (values : String → Option Value) (row : Cells) : Prop :=
  ∀ column ∈ key, ∃ v, values column = some v ∧ v.isNull = false ∧ t.Satisfies name row (keyed column v)

/-- The rows of a table are told apart by a key: no two of them agree in its columns, nulls aside. -/
structure KeyedBy (t : StoredTable) (key : List String) : Prop where
  shape : t.WellShaped
  nonempty : key ≠ []
  nodup : key.Nodup
  columns : ∀ column ∈ key, column ∈ t.columns.map (·.name)
  unique : t.rows.Pairwise fun a b => t.agree a b key = false

/-- The columns of the key of a table. -/
abbrev keyNames (t : StoredTable) : List String := t.keyColumns.map (·.name)

/-- Two rows that have one key agree in its columns. -/
theorem agree_of_hasKey {key : List String} {values : String → Option Value} {x y : Cells}
    (hx : t.HasKey name key values x) (hy : t.HasKey name key values y) : t.agree x y key = true := by
  rw [agree, List.all_eq_true]
  intro column hcolumn
  obtain ⟨v, hv, hnull, b, hbound, hmeetsX⟩ := hx column hcolumn
  obtain ⟨w, hw, -, other, hother, hmeetsY⟩ := hy column hcolumn
  obtain rfl : v = w := Option.some.inj (hv.symm.trans hw)
  obtain rfl : b = other := Except.ok.inj (hbound.symm.trans hother)
  obtain ⟨comparison, prepared, hcompare, hprepare, haccept⟩ := boundOf_ok.1 hbound
  obtain ⟨heq, hname⟩ := compare_keyed hnull hcompare
  obtain ⟨hbcolumn, hbtest⟩ := bound_comparison hprepare haccept
  have hagree := agree_of_meets (hbtest.trans heq) hmeetsX hmeetsY
  rw [hbcolumn, hname] at hagree
  simpa [agree] using hagree

/-! ## The row that is found -/

theorem firstOf_ok {bs : List BoundTest} {found : Option Row} (h : t.firstOf bs = .ok found) :
    found = none ↔ t.chosen bs = [] := by
  unfold firstOf at h
  split at h
  · rename_i hnone
    exact iff_of_true (Except.ok.inj h).symm hnone
  · rename_i row rest hsome
    obtain ⟨read, -, rfl⟩ := map_eq_ok.1 h
    simp [hsome]

/-- A row that is found is that of a stored row that meets the tests. -/
theorem firstOf_some {bs : List BoundTest} {row : Row} (h : t.firstOf bs = .ok (some row)) :
    ∃ stored ∈ t.rows, t.meetsAll bs stored = true ∧ t.readRow stored = .ok row := by
  unfold firstOf at h
  split at h
  · cases h
  · rename_i stored rest hchosen
    obtain ⟨read, hread, hsome⟩ := map_eq_ok.1 h
    obtain rfl := Option.some.inj hsome
    have hm : stored ∈ t.chosen bs := hchosen ▸ List.mem_cons_self
    exact ⟨stored, (List.mem_filter.1 hm).1, (List.mem_filter.1 hm).2, hread⟩

theorem find_ok {keys : Row} {found : Option Row} (h : t.find name keys = .ok found) :
    (found = none ∧ t.known name keys = .ok []) ∨
      ∃ bs, t.KeyTests name keys bs ∧ (found = none ↔ t.chosen bs = []) := by
  obtain ⟨known, hknown, h⟩ := bind_eq_ok.1 h
  cases known with
  | nil => exact .inl ⟨(Except.ok.inj h).symm, hknown⟩
  | cons p rest =>
    obtain ⟨bs, hbs, h⟩ := bind_eq_ok.1 h
    exact .inr ⟨bs, ⟨_, hknown, hbs⟩, firstOf_ok h⟩

/-! ## Inserts and updates -/

theorem insert?_ok {cells : Assoc String Cell} {row : Cells} (h : t.insert? cells = some (row, t')) :
    row = t.fill cells ∧ t' = { t with rows := t.place (t.fill cells) t.rows } ∧ t.complete (t.fill cells) = true ∧
      ∀ other ∈ t.rows, t.conflict (t.fill cells) other = false := by
  unfold insert? at h
  dsimp only at h
  split at h
  · rename_i hfine
    obtain ⟨rfl, rfl⟩ := Prod.mk.inj (Option.some.inj h)
    rw [Bool.and_eq_true, Bool.not_eq_true', List.any_eq_false] at hfine
    exact ⟨rfl, rfl, hfine.1, fun other hother => Bool.not_eq_true _ ▸ hfine.2 other hother⟩
  · cases h

/-- What a store tells of a row that it has added: the row is handed back, or it is looked up. -/
def tell (t : StoredTable) (returning : Bool) (name : String) (known : Row) (row : Cells) :
    Except Failure (Option Row) :=
  if returning then (t.readRow (t.echoRow row)).map some else t.lookUp name known row

/-- The steps of an insert that come before the row is told. -/
def add (t : StoredTable) (name : String) (values : Row) : Except Failure (Row × Cells × StoredTable) := do
  let known ← t.known name values
  checkWritten known
  let prepared ← t.prepareRow known
  t.checkPacked known
  let cells ← acceptRow prepared
  match t.insert? cells with
  | none => .error (.database .constraint)
  | some (row, u) => return (known, row, u)

/-- An insert adds the row, and then tells it. -/
theorem insert_eq (t : StoredTable) (returning : Bool) (name : String) (values : Row) :
    t.insert returning name values = do
      let (known, row, u) ← t.add name values
      let found ← u.tell returning name known row
      return (found, u) := by
  rw [insert, add]
  simp only [bind_assoc]
  refine bind_congr fun known => bind_congr fun _ => bind_congr fun prepared => bind_congr fun _ =>
    bind_congr fun cells => ?_
  cases t.insert? cells with
  | none => rfl
  | some p =>
    obtain ⟨row, u⟩ := p
    cases returning with
    | true => rfl
    | false => rfl

/-- What is behind a row that is added. -/
structure Added (t : StoredTable) (name : String) (values known : Row) (row : Cells) (u : StoredTable)
    (cells : Assoc String Cell) : Prop where
  reads : t.known name values = .ok known
  unpacked : t.checkPacked known = .ok ()
  given : t.Given name values cells
  inserted : t.insert? cells = some (row, u)

theorem add_ok {values known : Row} {row : Cells} (h : t.add name values = .ok (known, row, t')) :
    ∃ cells, t.Added name values known row t' cells := by
  obtain ⟨known', hknown, h⟩ := bind_eq_ok.1 h
  obtain ⟨⟨⟩, -, h⟩ := bind_eq_ok.1 h
  obtain ⟨prepared, hprepared, h⟩ := bind_eq_ok.1 h
  obtain ⟨⟨⟩, hpacked, h⟩ := bind_eq_ok.1 h
  obtain ⟨cells, hcells, h⟩ := bind_eq_ok.1 h
  cases hinsert : t.insert? cells with
  | none =>
    rw [hinsert] at h
    cases h
  | some p =>
    rw [hinsert] at h
    obtain ⟨rfl, hp⟩ := Prod.mk.inj (Except.ok.inj h)
    obtain ⟨rfl, rfl⟩ := Prod.mk.inj hp
    exact ⟨cells, hknown, hpacked, ⟨known', prepared, hknown, hprepared, hcells⟩, hinsert⟩

theorem insert_steps {returning : Bool} {values : Row} {found : Option Row}
    (h : t.insert returning name values = .ok (found, t')) :
    ∃ known row, t.add name values = .ok (known, row, t') ∧ t'.tell returning name known row = .ok found := by
  rw [insert_eq] at h
  obtain ⟨⟨known, row, u⟩, hadd, h⟩ := bind_eq_ok.1 h
  obtain ⟨told, htold, h⟩ := bind_eq_ok.1 h
  obtain ⟨rfl, rfl⟩ := Prod.mk.inj (Except.ok.inj h)
  exact ⟨known, row, hadd, htold⟩

/-- An insert that tells the row adds it, and nothing else changes. -/
theorem insert_ok {values : Row} {found : Option Row} (h : t.insert true name values = .ok (found, t')) :
    found ≠ none ∧ t' = { t with rows := t'.rows } ∧
      ∃ before row after, t.rows = before ++ after ∧ t'.rows = before ++ row :: after := by
  obtain ⟨known, row, hadd, htold⟩ := insert_steps h
  obtain ⟨cells, hadded⟩ := add_ok hadd
  obtain ⟨read, -, rfl⟩ := map_eq_ok.1 htold
  obtain ⟨rfl, rfl, -, -⟩ := insert?_ok hadded.inserted
  obtain ⟨before, after, hrows, hplaced⟩ := t.place_split (t.fill cells) t.rows
  exact ⟨by simp, rfl, before, _, after, hrows, hplaced⟩

/-- What an update that goes well does: it overwrites the rows that meet the tests for its key. -/
structure Updated (t : StoredTable) (name : String) (keys values : Row) (bs : List BoundTest)
    (cells : Assoc String Cell) (found : Option Row) (t' : StoredTable) : Prop where
  tests : t.KeyTests name keys bs
  given : t.Given name values cells
  others : t' = { t with rows := t'.rows }
  rows : t'.rows.Perm (t.rows.map fun row => if t.meetsAll bs row then t.overwrite cells row else row)
  found : t'.firstOf bs = .ok found

theorem overwrite_nil {row : Cells} (hrow : row.length = t.columns.length) : t.overwrite [] row = row := by
  have hcells : (t.columns.zip row).map Prod.snd = row := List.map_snd_zip (by omega)
  exact hcells

/-- The steps of an update that goes well. If no column is given, nothing is written. -/
theorem update_steps {keys values : Row} {found : Option Row} (h : t.update name keys values = .ok (found, t')) :
    ∃ bs cells, t.KeyTests name keys bs ∧ t.Given name values cells ∧ t'.firstOf bs = .ok found ∧
      (cells = [] ∧ t' = t ∨ t.update? (t.meetsAll bs) cells = some t') := by
  obtain ⟨knownKeys, hkeys, h⟩ := bind_eq_ok.1 h
  obtain ⟨known, hknown, h⟩ := bind_eq_ok.1 h
  obtain ⟨⟨⟩, -, h⟩ := bind_eq_ok.1 h
  obtain ⟨⟨⟩, -, h⟩ := bind_eq_ok.1 h
  obtain ⟨prepared, hp, h⟩ := bind_eq_ok.1 h
  obtain ⟨tests, -, h⟩ := bind_eq_ok.1 h
  obtain ⟨⟨⟩, -, h⟩ := bind_eq_ok.1 h
  obtain ⟨cells, ha, h⟩ := bind_eq_ok.1 h
  obtain ⟨bs, hbs, h⟩ := bind_eq_ok.1 h
  refine ⟨bs, cells, ⟨knownKeys, hkeys, hbs⟩, ⟨known, prepared, hknown, hp, ha⟩, ?_⟩
  cases cells with
  | nil =>
    obtain ⟨read, hread, h⟩ := bind_eq_ok.1 h
    obtain ⟨rfl, rfl⟩ := Prod.mk.inj (Except.ok.inj h)
    exact ⟨hread, .inl ⟨rfl, rfl⟩⟩
  | cons p rest =>
    cases hupdate : t.update? (t.meetsAll bs) (p :: rest) with
    | none =>
      simp only [List.isEmpty_cons, hupdate] at h
      cases h
    | some u =>
      simp only [List.isEmpty_cons, hupdate] at h
      obtain ⟨read, hread, h⟩ := bind_eq_ok.1 h
      obtain ⟨rfl, rfl⟩ := Prod.mk.inj (Except.ok.inj h)
      exact ⟨hread, .inr rfl⟩

theorem update_ok (hs : t.WellShaped) {keys values : Row} {found : Option Row}
    (h : t.update name keys values = .ok (found, t')) : ∃ bs cells, t.Updated name keys values bs cells found t' := by
  obtain ⟨bs, cells, htests, hgiven, hfound, ⟨rfl, rfl⟩ | hupdate⟩ := update_steps h
  · have hsame : t'.rows.map (fun row => if t'.meetsAll bs row then t'.overwrite [] row else row) = t'.rows := by
      apply map_eq_self
      intro row hrow
      rw [overwrite_nil (hs.rows row hrow), ite_self]
    exact ⟨bs, [], htests, hgiven, rfl, by rw [hsame], hfound⟩
  · obtain ⟨hothers, hrows⟩ := update?_ok hupdate
    exact ⟨bs, cells, htests, hgiven, hothers, hrows, hfound⟩

/-- An update changes nothing of a table but its rows. -/
theorem update_others {keys values : Row} {found : Option Row} (h : t.update name keys values = .ok (found, t')) :
    t' = { t with rows := t'.rows } := by
  obtain ⟨bs, cells, -, -, -, ⟨-, rfl⟩ | hupdate⟩ := update_steps h
  · rfl
  · exact (update?_ok hupdate).1

section Updated
variable {keys values : Row} {bs : List BoundTest} {cells : Assoc String Cell} {found : Option Row}

/-- A row that is found by its key is still found by it after an update, which writes no column of the key. -/
theorem Updated.found_ne_none (h : t.Updated name keys values bs cells found t')
    (hnull : ∀ p ∈ keys, p.2.isNull = false)
    (hkeys : ∀ p ∈ keys, values.get? p.1 = none) (hchosen : t.chosen bs ≠ []) : found ≠ none := by
  obtain ⟨row, hrow⟩ := List.exists_mem_of_ne_nil _ hchosen
  obtain ⟨hm, hmeets⟩ := List.mem_filter.1 hrow
  let after : Cells := t.overwrite cells row
  have hm' : after ∈ t'.rows := h.rows.mem_iff.2 (List.mem_map.2 ⟨row, hm, by rw [if_pos hmeets]⟩)
  have hmeets' : t.meetsAll bs after = true := by
    rw [meetsAll, List.all_eq_true] at hmeets ⊢
    intro b hb
    obtain ⟨p, hp, hbound⟩ := h.tests.origin hnull hb
    obtain ⟨comparison, prepared, hcompare, hprepare, haccept⟩ := boundOf_ok.1 hbound
    have hcolumn : b.column = p.1 :=
      (bound_comparison hprepare haccept).1.trans (compare_keyed (hnull p hp) hcompare).2
    have hcell : t.cellAt after b.column = t.cellAt row b.column :=
      cellAt_overwrite_of_none (h.given.get?_of_none (hcolumn ▸ hkeys p hp)) row
    have hb := hmeets b hb
    rwa [meets, ← hcell] at hb
  have hchosen' : after ∈ t'.chosen bs := by
    refine List.mem_filter.2 ⟨hm', ?_⟩
    rw [h.others]
    exact hmeets'
  intro hnone
  rw [(firstOf_ok h.found).1 hnone] at hchosen'
  cases hchosen'

/-- The rows are those of the table, but for one that has the key. In that one the values other than those of the key
are written. -/
def OneChanged (t : StoredTable) (name : String) (key : List String) (values : String → Option Value)
    (rows : List Cells) : Prop :=
  ∃ before stored after changed, t.rows = before ++ stored :: after ∧ t.HasKey name key values stored ∧
    t.Changed (fun column => if column ∈ key then none else values column) stored changed ∧
    rows.Perm (before ++ changed :: after)

/-- The rows are those of the table and one more. -/
def OneAdded (t : StoredTable) (rows : List Cells) : Prop :=
  ∃ before row after, t.rows = before ++ after ∧ rows = before ++ row :: after

/-- Where no two rows agree in the key, what changes the rows that meet its tests changes the one that has it. -/
theorem map_of_hasKey {key : List String} (hk : t.KeyedBy key) {supplied : String → Option Value}
    (htests : ∀ row, t.meetsAll bs row = true ↔ t.HasKey name key supplied row) {stored : Cells}
    (hm : stored ∈ t.rows) (hkey : t.HasKey name key supplied stored) (f : Cells → Cells) :
    ∃ before after, t.rows = before ++ stored :: after ∧
      t.rows.map (fun row => if t.meetsAll bs row then f row else row) = before ++ f stored :: after := by
  obtain ⟨before, after, hrows⟩ := List.append_of_mem hm
  have hunique := hk.unique
  rw [hrows, List.pairwise_append, List.pairwise_cons] at hunique
  obtain ⟨-, ⟨hafter, -⟩, hbefore⟩ := hunique
  have hother {row : Cells} (hagree : t.agree row stored key = false ∨ t.agree stored row key = false) :
      (if t.meetsAll bs row then f row else row) = row := by
    refine if_neg fun hmeets => ?_
    have hhas := (htests row).1 hmeets
    rcases hagree with hagree | hagree
    · rw [agree_of_hasKey hhas hkey] at hagree
      cases hagree
    · rw [agree_of_hasKey hkey hhas] at hagree
      cases hagree
  have hbeforeSame : before.map (fun row => if t.meetsAll bs row then f row else row) = before :=
    map_eq_self fun row hrow => hother (.inl (hbefore row hrow stored List.mem_cons_self))
  have hafterSame : after.map (fun row => if t.meetsAll bs row then f row else row) = after :=
    map_eq_self fun row hrow => hother (.inr (hafter row hrow))
  refine ⟨before, after, hrows, ?_⟩
  rw [hrows, List.map_append, List.map_cons, hbeforeSame, hafterSame, if_pos ((htests stored).2 hkey)]

/-- Where no two rows agree in the key, an update changes the row that has it and no other. -/
theorem Updated.oneChanged (h : t.Updated name keys values bs cells found t') {key : List String}
    (hk : t.KeyedBy key) {supplied : String → Option Value}
    (htests : ∀ row, t.meetsAll bs row = true ↔ t.HasKey name key supplied row)
    (hvalues : values.get? = fun column => if column ∈ key then none else supplied column) {stored : Cells}
    (hm : stored ∈ t.rows) (hkey : t.HasKey name key supplied stored) : t.OneChanged name key supplied t'.rows := by
  obtain ⟨before, after, hrows, hmap⟩ := map_of_hasKey hk htests hm hkey (t.overwrite cells)
  refine ⟨before, stored, after, t.overwrite cells stored, hrows, hkey, ?_, hmap ▸ h.rows⟩
  rw [← hvalues]
  exact h.given.changed hk.shape hm

end Updated

end StoredTable

end TableGraph.Store
