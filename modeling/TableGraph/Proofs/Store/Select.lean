import Mathlib.Data.List.Basic
import Mathlib.Data.List.Pairwise
import TableGraph.Proofs.Store.Chains
import TableGraph.Store.Database

/-! # What a select yields

A select binds its conditions one by one, and it yields rows of the table that meet all of them
(`Satisfies`). If a condition compares a column for equality and no two rows agree in that column,
the select yields at most one row, and the other conditions, the offset and the order can only keep
it back (`select_alone`). If a select fails for another reason than the data it was given, then an
integer of it does not fit or a row of the table cannot be read (`select_error`).
-/
namespace TableGraph.Store

/-! ## Cells that are the same -/

namespace Cell

theorem place_eq_iff (p q : Binary64.Place) : (p.lt q = false ∧ q.lt p = false) ↔ p = q := by
  cases p with
  | below => cases q <;> simp [Binary64.Place.lt]
  | «at» m =>
    cases q with
    | below => simp [Binary64.Place.lt]
    | «at» n =>
      simp only [Binary64.Place.lt, decide_eq_false_iff_not, Binary64.Place.at.injEq]
      omega
    | above => simp [Binary64.Place.lt]
  | above => cases q <;> simp [Binary64.Place.lt]

theorem list_eq_iff {α : Type} [LT α] [Std.Trichotomous fun a b : α => a < b] [Std.Irrefl fun a b : α => a < b]
    (s u : List α) : (¬ s < u ∧ ¬ u < s) ↔ s = u := by
  constructor
  · rintro ⟨hsu, hus⟩
    exact List.le_antisymm hus hsu
  · rintro rfl
    exact ⟨List.lt_irrefl s, List.lt_irrefl s⟩

theorem lt_text (s u : String) : (text s).lt (text u) = decide (s.toList < u.toList) := rfl

theorem lt_blob (s u : List UInt8) : (blob s).lt (blob u) = decide (s < u) := rfl

/-- Two cells are the same if they are of one rank and hold the same number, text or bytes. -/
theorem same_iff (a b : Cell) :
    a.same b = true ↔ a.rank = b.rank ∧ a.place = b.place ∧ a.chars = b.chars ∧ a.bytes = b.bytes := by
  rw [same, Bool.and_eq_true, Bool.not_eq_true', Bool.not_eq_true']
  cases a with
  | text s =>
    cases b with
    | text u =>
      rw [lt_text, lt_text, decide_eq_false_iff_not, decide_eq_false_iff_not, list_eq_iff]
      simp [rank, place, chars, bytes]
    | _ => simp [lt, rank]
  | blob s =>
    cases b with
    | blob u =>
      rw [lt_blob, lt_blob, decide_eq_false_iff_not, decide_eq_false_iff_not, list_eq_iff]
      simp [rank, place, chars, bytes]
    | _ => simp [lt, rank]
  | _ => cases b <;> simp [lt, rank, place, chars, bytes, place_eq_iff]

theorem same_symm {a b : Cell} (h : a.same b = true) : b.same a = true := by
  obtain ⟨hrank, hplace, hchars, hbytes⟩ := (same_iff a b).1 h
  exact (same_iff b a).2 ⟨hrank.symm, hplace.symm, hchars.symm, hbytes.symm⟩

theorem same_trans {a b c : Cell} (hab : a.same b = true) (hbc : b.same c = true) : a.same c = true := by
  obtain ⟨hrank, hplace, hchars, hbytes⟩ := (same_iff a b).1 hab
  obtain ⟨hrank', hplace', hchars', hbytes'⟩ := (same_iff b c).1 hbc
  exact (same_iff a c).2
    ⟨hrank.trans hrank', hplace.trans hplace', hchars.trans hchars', hbytes.trans hbytes'⟩

end Cell

namespace StoredTable
open Chain

/-! ## Conditions -/

/-- The test that a condition comes to, with the value that it is made with. -/
def boundOf (t : StoredTable) (name : String) (c : Condition Value) : Except Failure BoundTest := do
  let comparison ← (t.shape name).compare c
  let prepared ← prepareTest comparison
  t.acceptTest prepared

/-- A stored row meets a condition: it holds of the row's cell, as the store compares it. -/
def Satisfies (t : StoredTable) (name : String) (row : Cells) (c : Condition Value) : Prop :=
  ∃ b, t.boundOf name c = .ok b ∧ t.meets row b = true

/-- No two rows agree in a column, null aside. -/
def UniqueIn (t : StoredTable) (column : String) : Prop :=
  t.rows.Pairwise fun a b => t.agree a b [column] = false

theorem boundOf_ok {t : StoredTable} {name : String} {c : Condition Value} {b : BoundTest} :
    t.boundOf name c = .ok b ↔ ∃ comparison prepared, (t.shape name).compare c = .ok comparison ∧
      prepareTest comparison = .ok prepared ∧ t.acceptTest prepared = .ok b := by
  constructor
  · intro h
    obtain ⟨comparison, hc, h⟩ := bind_eq_ok.1 h
    obtain ⟨prepared, hp, h⟩ := bind_eq_ok.1 h
    exact ⟨comparison, prepared, hc, hp, h⟩
  · rintro ⟨comparison, prepared, hc, hp, h⟩
    exact bind_eq_ok.2 ⟨comparison, hc, bind_eq_ok.2 ⟨prepared, hp, h⟩⟩

theorem bindTests_ok {t : StoredTable} {cs : List Comparison} {bs : List BoundTest} :
    t.bindTests cs = .ok bs ↔ ∃ prepared, cs.mapM prepareTest = .ok prepared ∧ checkTests cs = .ok () ∧
      prepared.mapM t.acceptTest = .ok bs := by
  constructor
  · intro h
    obtain ⟨prepared, hp, h⟩ := bind_eq_ok.1 h
    obtain ⟨⟨⟩, hcheck, h⟩ := bind_eq_ok.1 h
    exact ⟨prepared, hp, hcheck, h⟩
  · rintro ⟨prepared, hp, hcheck, h⟩
    exact bind_eq_ok.2 ⟨prepared, hp, bind_eq_ok.2 ⟨(), hcheck, h⟩⟩

/-- Everything that has gone well in a select that yields rows. -/
structure Answered (t : StoredTable) (name : String) (args : ScopeArgs Value) (cs : List Comparison)
    (bs : List BoundTest) (rows : List Row) : Prop where
  compared : (t.shape name).compareAll args.conditions = .ok cs
  columns : ∃ columns, (args.order.mapM fun p => (t.shape name).columnNamed p.1) = .ok columns
  bound : t.bindTests cs = .ok bs
  order : checkOrder args.order = .ok ()
  limit : checkRange (args.limit.getD 0) = .ok ()
  offset : checkRange args.offset = .ok ()
  patterns : t.checkPatterns [] bs = .ok ()
  read : t.readRows (window args.limit args.offset (t.sorted args.order (t.chosen bs))) = .ok rows

variable {t : StoredTable} {name : String} {args : ScopeArgs Value} {rows : List Row}

theorem select_ok : t.select name args = .ok rows ↔ ∃ cs bs, Answered t name args cs bs rows := by
  constructor
  · intro h
    obtain ⟨cs, hcompared, h⟩ := bind_eq_ok.1 h
    obtain ⟨columns, hcolumns, h⟩ := bind_eq_ok.1 h
    obtain ⟨bs, hbound, h⟩ := bind_eq_ok.1 h
    obtain ⟨⟨⟩, horder, h⟩ := bind_eq_ok.1 h
    obtain ⟨⟨⟩, hlimit, h⟩ := bind_eq_ok.1 h
    obtain ⟨⟨⟩, hoffset, h⟩ := bind_eq_ok.1 h
    obtain ⟨⟨⟩, hpatterns, h⟩ := bind_eq_ok.1 h
    exact ⟨cs, bs, hcompared, ⟨columns, hcolumns⟩, hbound, horder, hlimit, hoffset, hpatterns, h⟩
  · rintro ⟨cs, bs, hcompared, ⟨columns, hcolumns⟩, hbound, horder, hlimit, hoffset, hpatterns, hread⟩
    exact bind_eq_ok.2 ⟨cs, hcompared, bind_eq_ok.2 ⟨columns, hcolumns, bind_eq_ok.2 ⟨bs, hbound,
      bind_eq_ok.2 ⟨(), horder, bind_eq_ok.2 ⟨(), hlimit, bind_eq_ok.2 ⟨(), hoffset,
      bind_eq_ok.2 ⟨(), hpatterns, hread⟩⟩⟩⟩⟩⟩⟩

/-- A select whose steps all go well yields the rows of its window, if they can be read. -/
theorem select_eq {cs : List Comparison} {bs : List BoundTest} {columns : List Column}
    (hcompared : (t.shape name).compareAll args.conditions = .ok cs)
    (hcolumns : (args.order.mapM fun p => (t.shape name).columnNamed p.1) = .ok columns)
    (hbound : t.bindTests cs = .ok bs) (horder : checkOrder args.order = .ok ())
    (hlimit : checkRange (args.limit.getD 0) = .ok ()) (hoffset : checkRange args.offset = .ok ())
    (hpatterns : t.checkPatterns [] bs = .ok ()) :
    t.select name args = t.readRows (window args.limit args.offset (t.sorted args.order (t.chosen bs))) := by
  simp only [select, hcompared, hcolumns, hbound, horder, hlimit, hoffset, hpatterns, Bind.bind, Except.bind]

/-- Every condition of a select that went well is among its tests. -/
theorem Answered.test {cs : List Comparison} {bs : List BoundTest} (h : Answered t name args cs bs rows)
    {c : Condition Value} (hc : c ∈ args.conditions) :
    ∃ comparison ∈ cs, ∃ prepared, (t.shape name).compare c = .ok comparison ∧
      prepareTest comparison = .ok prepared ∧ ∃ b ∈ bs, t.acceptTest prepared = .ok b := by
  obtain ⟨comparison, hm, hcompare⟩ := exists_of_mem h.compared hc
  obtain ⟨all, hprepare, -, haccept⟩ := bindTests_ok.1 h.bound
  obtain ⟨prepared, hpm, hprepared⟩ := exists_of_mem hprepare hm
  obtain ⟨b, hb, haccepted⟩ := exists_of_mem haccept hpm
  exact ⟨comparison, hm, prepared, hcompare, hprepared, b, hb, haccepted⟩

theorem Answered.satisfies {cs : List Comparison} {bs : List BoundTest} (h : Answered t name args cs bs rows)
    {row : Cells} (hrow : row ∈ t.chosen bs) {c : Condition Value} (hc : c ∈ args.conditions) :
    t.Satisfies name row c := by
  obtain ⟨comparison, -, prepared, hcompare, hprepare, b, hb, haccept⟩ := h.test hc
  have hmeets : t.meetsAll bs row = true := (List.mem_filter.1 hrow).2
  exact ⟨b, boundOf_ok.2 ⟨comparison, prepared, hcompare, hprepare, haccept⟩, List.all_eq_true.1 hmeets b hb⟩

/-- A row meets the tests that conditions come to if it satisfies every condition. -/
theorem meetsAll_iff_satisfies {conditions : List (Condition Value)} {cs : List Comparison} {bs : List BoundTest}
    (hcompared : (t.shape name).compareAll conditions = .ok cs) (hbound : t.bindTests cs = .ok bs) (row : Cells) :
    t.meetsAll bs row = true ↔ ∀ c ∈ conditions, t.Satisfies name row c := by
  obtain ⟨all, hprepare, -, haccept⟩ := bindTests_ok.1 hbound
  rw [meetsAll, List.all_eq_true]
  constructor
  · intro hall c hc
    obtain ⟨comparison, hm, hcompare⟩ := exists_of_mem hcompared hc
    obtain ⟨prepared, hp, hprepared⟩ := exists_of_mem hprepare hm
    obtain ⟨b, hb, haccepted⟩ := exists_of_mem haccept hp
    exact ⟨b, boundOf_ok.2 ⟨comparison, prepared, hcompare, hprepared, haccepted⟩, hall b hb⟩
  · intro hall b hb
    obtain ⟨prepared, hp, haccepted⟩ := exists_of_mem_result haccept hb
    obtain ⟨comparison, hm, hprepared⟩ := exists_of_mem_result hprepare hp
    obtain ⟨c, hc, hcompare⟩ := exists_of_mem_result hcompared hm
    obtain ⟨other, hother, hmeets⟩ := hall c hc
    obtain rfl := Except.ok.inj
      (hother.symm.trans (boundOf_ok.2 ⟨comparison, prepared, hcompare, hprepared, haccepted⟩))
    exact hmeets

/-- A count that goes well is that of the rows that meet the tests. -/
theorem count_ok {conditions : List (Condition Value)} {n : Int} : t.count name conditions = .ok n ↔
    ∃ cs bs, (t.shape name).compareAll conditions = .ok cs ∧ t.bindTests cs = .ok bs ∧
      t.checkPatterns [] bs = .ok () ∧ n = (t.chosen bs).length := by
  constructor
  · intro h
    obtain ⟨cs, hcompared, h⟩ := bind_eq_ok.1 h
    obtain ⟨bs, hbound, h⟩ := bind_eq_ok.1 h
    obtain ⟨⟨⟩, hpatterns, h⟩ := bind_eq_ok.1 h
    exact ⟨cs, bs, hcompared, hbound, hpatterns, (Except.ok.inj h).symm⟩
  · rintro ⟨cs, bs, hcompared, hbound, hpatterns, rfl⟩
    exact bind_eq_ok.2 ⟨cs, hcompared, bind_eq_ok.2 ⟨bs, hbound, bind_eq_ok.2 ⟨(), hpatterns, rfl⟩⟩⟩

theorem mem_chosen_of_window {bs : List BoundTest} {limit : Option Int} {offset : Int}
    {order : List (String × Direction)} {row : Cells}
    (h : row ∈ window limit offset (t.sorted order (t.chosen bs))) : row ∈ t.chosen bs := by
  have hdrop : ∀ n, row ∈ (t.sorted order (t.chosen bs)).drop n → row ∈ t.chosen bs :=
    fun n hm => List.mem_mergeSort.1 (List.mem_of_mem_drop hm)
  unfold window at h
  dsimp only at h
  split at h
  · exact hdrop _ h
  · split at h
    · exact hdrop _ h
    · exact hdrop _ (List.mem_of_mem_take h)

/-- What a select yields are rows of the table that satisfy all its conditions. -/
theorem select_sound (h : t.select name args = .ok rows) {found : Row} (hf : found ∈ rows) :
    ∃ row ∈ t.rows, t.readRow row = .ok found ∧ ∀ c ∈ args.conditions, t.Satisfies name row c := by
  obtain ⟨cs, bs, ha⟩ := select_ok.1 h
  obtain ⟨row, hm, hread⟩ := exists_of_mem_result ha.read hf
  have hrow := mem_chosen_of_window hm
  exact ⟨row, (List.mem_filter.1 hrow).1, hread, fun c hc => ha.satisfies hrow hc⟩

/-! ## A column compared for equality -/

/-- The condition that a column equals a value. -/
def keyed (column : String) (key : Value) : Condition Value := ⟨column, Operator.eq.name, key⟩

/-- No text is read as null. -/
theorem readText?_ne_null (kind : ColumnKind) (text : List Char) : kind.readText? text ≠ some .null := by
  unfold ColumnKind.readText?
  split <;> simp

theorem coerce_isNull {c : Column} {v w : Value} (hv : v.isNull = false) (h : c.coerce v = .ok w) :
    w.isNull = false := by
  unfold Column.coerce at h
  split at h
  · obtain ⟨x, hx, rfl⟩ := map_eq_ok.1 h
    unfold Column.coerceText at hx
    split at hx
    · cases hx
      rfl
    · split at hx
      · rename_i hread
        cases hx
        cases x with
        | null => exact absurd hread (readText?_ne_null _ _)
        | _ => rfl
      · cases hx
  · cases h
    exact hv

theorem testWith_eq {v : Value} (hv : v.isNull = false) : Operator.eq.testWith v = .ok .eq := by
  cases v with
  | scalar x =>
    cases x with
    | null => cases hv
    | _ => rfl
  | _ => rfl

/-- A condition that a column equals a value other than null compares that column for equality. -/
theorem compare_keyed {shape : TableShape} {column : String} {key : Value} (hkey : key.isNull = false)
    {comparison : Comparison} (h : shape.compare (keyed column key) = .ok comparison) :
    comparison.test = .eq ∧ comparison.column.name = column := by
  obtain ⟨c, hc, h⟩ := bind_eq_ok.1 h
  have hname : c.name = column := by
    unfold TableShape.columnNamed at hc
    split at hc
    · rename_i found hfind
      have hsome := List.find?_some (p := fun d : Column => decide (d.name = column)) hfind
      cases hc
      exact of_decide_eq_true hsome
    · cases hc
  simp only [keyed, Operator.ofName?_name, reduceCtorEq, if_false] at h
  obtain ⟨w, hw, h⟩ := bind_eq_ok.1 h
  obtain ⟨test, htest, h⟩ := bind_eq_ok.1 h
  rw [testWith_eq (coerce_isNull hkey (mapError_eq_ok.1 hw))] at htest
  cases htest
  cases h
  exact ⟨rfl, hname⟩

/-- A test for equality holds of rows whose cells are the same, and not null. -/
theorem agree_of_meets {b : BoundTest} (htest : b.test = .eq) {x y : Cells} (hx : t.meets x b = true)
    (hy : t.meets y b = true) : t.agree x y [b.column] = true := by
  simp only [meets, holds, htest, Bool.and_eq_true, Bool.not_eq_true'] at hx hy
  simp only [agree, List.all_cons, List.all_nil, Bool.and_true, Bool.and_eq_true, Bool.not_eq_true']
  exact ⟨hx.1.1, Cell.same_trans hx.2 (Cell.same_symm hy.2)⟩

/-- A member that has a property is all that a filter leaves, if no two members that have it may both be there. -/
theorem filter_of_apart {α : Type} {apart : α → α → Prop} {l : List α} (hapart : l.Pairwise apart) {p : α → Bool}
    (htogether : ∀ x y, p x = true → p y = true → ¬apart x y) {a : α} (ha : a ∈ l) (hp : p a = true) :
    l.filter p = [a] := by
  have hm : a ∈ l.filter p := List.mem_filter.2 ⟨ha, hp⟩
  have hall : ∀ x ∈ l.filter p, p x = true := fun x hx => (List.mem_filter.1 hx).2
  have hpairs : (l.filter p).Pairwise apart := hapart.filter _
  cases hc : l.filter p with
  | nil =>
    rw [hc] at hm
    cases hm
  | cons x rest =>
    rw [hc] at hm hall hpairs
    cases rest with
    | nil => rw [List.mem_singleton.1 hm]
    | cons y rest =>
      exact absurd ((List.pairwise_cons.1 hpairs).1 y List.mem_cons_self)
        (htogether x y (hall x List.mem_cons_self) (hall y (List.mem_cons_of_mem x List.mem_cons_self)))

/-- A row that meets the tests is all that is chosen, if no two rows that meet them may both be there. -/
theorem chosen_of_apart {apart : Cells → Cells → Prop} (hapart : t.rows.Pairwise apart) {bs : List BoundTest}
    (htogether : ∀ x y, t.meetsAll bs x = true → t.meetsAll bs y = true → ¬apart x y) {row : Cells} (hrow : row ∈ t.rows)
    (hmeets : t.meetsAll bs row = true) : t.chosen bs = [row] := filter_of_apart hapart htogether hrow hmeets

theorem chosen_of_unique {b : BoundTest} (htest : b.test = .eq) (hunique : t.UniqueIn b.column) {row : Cells}
    (hrow : row ∈ t.rows) (hmeets : t.meets row b = true) : t.chosen [b] = [row] := by
  refine chosen_of_apart hunique (fun x y hx hy => ?_) hrow (by simp [meetsAll, hmeets])
  simp only [meetsAll, List.all_cons, List.all_nil, Bool.and_true] at hx hy
  simp [agree_of_meets htest hx hy]

/-- A comparison keeps its column and its test while its value is bound. -/
theorem bound_comparison {comparison : Comparison} {prepared : Comparison × Value} {b : BoundTest}
    (hprepare : prepareTest comparison = .ok prepared) (haccept : t.acceptTest prepared = .ok b) :
    b.column = comparison.column.name ∧ b.test = comparison.test := by
  obtain ⟨v, -, rfl⟩ := map_eq_ok.1 hprepare
  obtain ⟨cell, -, rfl⟩ := map_eq_ok.1 haccept
  exact ⟨rfl, rfl⟩

theorem checkTests_of_mem {cs : List Comparison} (h : checkTests cs = .ok ()) {c : Comparison} (hc : c ∈ cs) :
    checkTests [c] = .ok () := by
  unfold checkTests at h ⊢
  split at h
  · cases h
  · rename_i hfine
    rw [Bool.or_eq_true, not_or, Bool.not_eq_true, Bool.not_eq_true, List.any_eq_false] at hfine
    simp [maxTests, hfine.2 c hc]

/-- A row found by a test for equality, in a column where no two agree, is the one that is read. -/
theorem select_one {c : Condition Value} {comparison : Comparison} {b : BoundTest}
    (hcompare : (t.shape name).compare c = .ok comparison) (hbound : t.bindTests [comparison] = .ok [b])
    (htest : b.test = .eq) (hunique : t.UniqueIn b.column) {row : Cells} (hrow : row ∈ t.rows)
    (hmeets : t.meets row b = true) {found : Row} (hread : t.readRow row = .ok found) :
    t.select name { conditions := [c], limit := some 1 } = .ok [found] := by
  refine select_ok.2 ⟨[comparison], [b], mapM_singleton hcompare, ⟨[], rfl⟩, hbound, ?_, ?_, ?_, ?_, ?_⟩
  · simp [checkOrder]
  · rfl
  · rfl
  · simp [checkPatterns, htest]
  · rw [chosen_of_unique htest hunique hrow hmeets]
    have hwindow : window (some 1) 0 (t.sorted [] [row]) = [row] := by simp [window, sorted]
    change t.readRows (window (some 1) 0 (t.sorted [] [row])) = .ok [found]
    rw [hwindow]
    exact mapM_singleton hread

/-- Where a column is unique, a row found by it and by more besides is found by it alone. -/
theorem select_alone {column : String} {key : Value} (hkey : key.isNull = false)
    (hc : keyed column key ∈ args.conditions) (hunique : t.UniqueIn column)
    (h : t.select name args = .ok rows) {found : Row} (hf : found ∈ rows) :
    t.select name { conditions := [keyed column key], limit := some 1 } = .ok [found] := by
  obtain ⟨cs, bs, ha⟩ := select_ok.1 h
  obtain ⟨row, hw, hread⟩ := exists_of_mem_result ha.read hf
  have hrow := mem_chosen_of_window hw
  obtain ⟨comparison, hm, prepared, hcompare, hprepare, b, hb, haccept⟩ := ha.test hc
  obtain ⟨heq, hcolumn⟩ := compare_keyed hkey hcompare
  obtain ⟨hname, htest⟩ := bound_comparison hprepare haccept
  rw [heq] at htest
  rw [← hcolumn, ← hname] at hunique
  have hmeets : t.meets row b = true := List.all_eq_true.1 (List.mem_filter.1 hrow).2 b hb
  obtain ⟨-, -, hchecked, -⟩ := bindTests_ok.1 ha.bound
  have hbound : t.bindTests [comparison] = .ok [b] := bindTests_ok.2
    ⟨[prepared], mapM_singleton hprepare, checkTests_of_mem hchecked hm, mapM_singleton haccept⟩
  exact select_one hcompare hbound htest hunique (List.mem_filter.1 hrow).1 hmeets hread

/-! ## Failures -/

theorem compare_error {shape : TableShape} {c : Condition Value} {e : Failure} (h : shape.compare c = .error e) :
    e.isData = true := by
  rcases bind_eq_error.1 h with h | ⟨column, -, h⟩
  · unfold TableShape.columnNamed at h
    split at h
    · cases h
    · cases h
      rfl
  · split at h
    · cases h
      rfl
    · rename_i op _
      have htest (v : Value) (h : ((op.testWith v).mapError Failure.database >>= fun test =>
          Except.ok (⟨column, test, v⟩ : Comparison)) = .error e) : e.isData = true := by
        rcases bind_eq_error.1 h with h | ⟨test, -, h⟩
        · obtain ⟨e, -, rfl⟩ := mapError_eq_error.1 h
          rfl
        · cases h
      dsimp only at h
      split at h
      · exact htest _ h
      · rcases bind_eq_error.1 h with h | ⟨w, -, h⟩
        · obtain ⟨e, -, rfl⟩ := mapError_eq_error.1 h
          rfl
        · exact htest w h

/-- A step that fails because of the data, if it fails. -/
def Refuses {α : Type} (x : Except Failure α) : Prop := ∀ e, x = .error e → e.isData = true

theorem refuses_ok {α : Type} (a : α) : Refuses (.ok a) := fun _ h => nomatch h

theorem refuses_refused {α : Type} : Refuses (refused : Except Failure α) := by
  rintro e h
  cases h
  rfl

theorem refuses_takenNumber (x : Option Binary64) : Refuses (takenNumber x) := by
  cases x with
  | none => exact refuses_refused
  | some x => exact refuses_ok _

theorem refuses_prepare (kind : ColumnKind) (v : Value) : Refuses (prepare kind v) := by
  unfold prepare prepareJson prepareBoolean prepareNumber prepareDateTime prepareDate prepareFormless prepareTime
    prepareBinary
  repeat' split
  all_goals first | exact refuses_ok _ | exact refuses_refused | exact refuses_takenNumber _

theorem refuses_unless {α : Type} (p : Prop) [Decidable p] (a : α) : Refuses (if p then refused else .ok a) := by
  split
  · exact refuses_refused
  · exact refuses_ok a

theorem refuses_prepareOperand (kind : ColumnKind) (v : Value) : Refuses (prepareOperand kind v) := by
  cases v with
  | scalar x =>
    cases x with
    | text s => exact refuses_unless _ _
    | datetime t => exact refuses_unless _ _
    | date d => exact refuses_unless _ _
    | _ => exact refuses_ok _
  | _ => exact refuses_prepare kind _

theorem prepareTest_error {c : Comparison} {e : Failure} (h : prepareTest c = .error e) : e.isData = true :=
  refuses_prepareOperand _ _ e (map_eq_error.1 h)

/-- Only an integer can fail to fit; a value of any other kind is taken, or is none that a cell can hold. -/
theorem accept_error {v : Value} {e : Failure} (h : accept v = .error e) : e.isData = true ∨ e = .outOfRange := by
  cases v with
  | scalar x =>
    cases x with
    | int n =>
      simp only [accept] at h
      split at h
      · cases h
      · cases h
        exact .inr rfl
    | decimal d =>
      cases h
      exact .inl rfl
    | _ => cases h
  | _ =>
    cases h
    exact .inl rfl

theorem checkPatterns_error {before bs : List BoundTest} {e : Failure} (h : t.checkPatterns before bs = .error e) :
    e.isData = true := by
  induction bs generalizing before with
  | nil => cases h
  | cons b r ih =>
    rw [checkPatterns] at h
    split at h
    · cases h
      rfl
    · exact ih h

theorem checkRange_error {n : Int} {e : Failure} (h : checkRange n = .error e) : fits n = false ∧ e = .outOfRange := by
  unfold checkRange at h
  split at h
  · cases h
  · rename_i hfits
    cases h
    exact ⟨Bool.not_eq_true _ ▸ hfits, rfl⟩

/-- What makes a select fail other than by the data given to it: an integer beyond 64 bits, as the value
of a condition, as the limit or as the offset, or a row of the table that cannot be read. -/
def Beyond (t : StoredTable) (name : String) (args : ScopeArgs Value) (e : Failure) : Prop :=
  e = .outOfRange ∧ ((∃ c ∈ args.conditions, t.boundOf name c = .error .outOfRange) ∨
      fits (args.limit.getD 0) = false ∨ fits args.offset = false) ∨
    ∃ row ∈ t.rows, t.readRow row = .error e

/-- Tests that cannot be bound fail because of their data, or the value of one of them is an integer beyond 64 bits. -/
theorem bindTests_fails {cs : List Comparison} {e : Failure} (h : t.bindTests cs = .error e) :
    e.isData = true ∨ e = .outOfRange ∧ ∃ comparison ∈ cs, ∃ prepared, prepareTest comparison = .ok prepared ∧
      t.acceptTest prepared = .error .outOfRange := by
  rcases bind_eq_error.1 h with h | ⟨all, hprepare, h⟩
  · obtain ⟨comparison, -, h⟩ := exists_of_error h
    exact .inl (prepareTest_error h)
  · rcases bind_eq_error.1 h with h | ⟨⟨⟩, -, h⟩
    · unfold checkTests at h
      split at h
      · cases h
        exact .inl rfl
      · cases h
    · obtain ⟨prepared, hp, h⟩ := exists_of_error h
      obtain ⟨comparison, hm, hprepared⟩ := exists_of_mem_result hprepare hp
      rcases accept_error (map_eq_error.1 h) with hdata | rfl
      · exact .inl hdata
      · exact .inr ⟨rfl, comparison, hm, prepared, hprepared, h⟩

/-- Conditions whose tests cannot be bound. -/
theorem bindTests_error {conditions : List (Condition Value)} {cs : List Comparison}
    (hcs : (t.shape name).compareAll conditions = .ok cs) {e : Failure} (h : t.bindTests cs = .error e) :
    e.isData = true ∨ e = .outOfRange ∧ ∃ c ∈ conditions, t.boundOf name c = .error .outOfRange := by
  rcases bindTests_fails h with hdata | ⟨rfl, comparison, hm, prepared, hprepared, haccept⟩
  · exact .inl hdata
  · obtain ⟨c, hc, hcompare⟩ := exists_of_mem_result hcs hm
    have hbound : t.boundOf name c = .error .outOfRange :=
      bind_eq_error.2 (.inr ⟨comparison, hcompare, bind_eq_error.2 (.inr ⟨prepared, hprepared, haccept⟩)⟩)
    exact .inr ⟨rfl, c, hc, hbound⟩

theorem select_error {e : Failure} (h : t.select name args = .error e) :
    e.isData = true ∨ Beyond t name args e := by
  rcases bind_eq_error.1 h with h | ⟨cs, hcs, h⟩
  · obtain ⟨c, -, h⟩ := exists_of_error h
    exact .inl (compare_error h)
  rcases bind_eq_error.1 h with h | ⟨columns, -, h⟩
  · obtain ⟨p, -, h⟩ := exists_of_error h
    unfold TableShape.columnNamed at h
    split at h
    · cases h
    · cases h
      exact .inl rfl
  rcases bind_eq_error.1 h with h | ⟨bs, -, h⟩
  · exact (bindTests_error hcs h).imp_right fun ⟨hrange, hcondition⟩ => .inl ⟨hrange, .inl hcondition⟩
  rcases bind_eq_error.1 h with h | ⟨⟨⟩, -, h⟩
  · unfold checkOrder at h
    split at h
    · cases h
      exact .inl rfl
    · cases h
  rcases bind_eq_error.1 h with h | ⟨⟨⟩, -, h⟩
  · obtain ⟨hfits, rfl⟩ := checkRange_error h
    exact .inr (.inl ⟨rfl, .inr (.inl hfits)⟩)
  rcases bind_eq_error.1 h with h | ⟨⟨⟩, -, h⟩
  · obtain ⟨hfits, rfl⟩ := checkRange_error h
    exact .inr (.inl ⟨rfl, .inr (.inr hfits)⟩)
  rcases bind_eq_error.1 h with h | ⟨⟨⟩, -, h⟩
  · exact .inl (checkPatterns_error h)
  · obtain ⟨row, hrow, hread⟩ := exists_of_error h
    exact .inr (.inr ⟨row, (List.mem_filter.1 (mem_chosen_of_window hrow)).1, hread⟩)

end StoredTable

end TableGraph.Store
