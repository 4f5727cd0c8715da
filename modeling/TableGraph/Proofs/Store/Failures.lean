import TableGraph.Proofs.Store.Keeping

/-! # Why a store does not answer

A question that is not answered fails because of the data that it was given, or for one of three reasons that are
no failures of data (`Unanswerable`): it brings an integer beyond 64 bits (`BringsBeyond`), it writes a column whose
name is reserved, or it comes to a row that cannot be read (`ComesTo`). There is one lemma for every kind of question,
and `answer_error` puts them together.
-/
namespace TableGraph

/-- The values that a question asks to write. -/
def Call.written : Call → Row
  | .insert _ values => values
  | .update _ _ values => values
  | _ => []

/-- The table that a question is about. -/
def Call.table : Call → Option String
  | .count table _ => table
  | .select table _ => table
  | .find table _ => table
  | .insert table _ => table
  | .update table _ _ => table

/-- Whether rows are read for the answer. A count reads none. -/
def Call.reads : Call → Bool
  | .count .. => false
  | _ => true

namespace Store
open Chain

/-! ## Integers beyond 64 bits -/

theorem accept_outOfRange {v : Value} (h : accept v = .error .outOfRange) : ∃ n, v = .int n ∧ fits n = false := by
  cases v with
  | scalar x =>
    cases x with
    | int n =>
      simp only [accept] at h
      split at h
      · cases h
      · rename_i hfits
        exact ⟨n, rfl, Bool.not_eq_true _ ▸ hfits⟩
    | _ => cases h
  | _ => cases h

/-- A step that makes no integer beyond 64 bits. -/
def Fitting (x : Except Failure Value) : Prop := ∀ n, x = .ok (.int n) → fits n = true

theorem fitting_refused : Fitting refused := fun _ h => nomatch h

theorem fitting_takenNumber (x : Option Binary64) : Fitting (takenNumber x) := by
  rintro n h
  cases x <;> cases h

theorem fitting_ok {v : Value} (h : ∀ n, v ≠ .int n) : Fitting (.ok v) := fun n hn => absurd (Except.ok.inj hn) (h n)

theorem fitting_bit {n : Int} (h : n = 0 ∨ n = 1) : Fitting (.ok (.int n)) := by
  intro m hm
  simp only [Except.ok.injEq, Value.int, Value.scalar.injEq, Scalar.int.injEq] at hm
  subst hm
  rcases h with rfl | rfl <;> rfl

/-- A column keeps a value as it is, or makes no integer beyond 64 bits of it. -/
theorem prepare_fitting (kind : ColumnKind) (v : Value) : prepare kind v = .ok v ∨ Fitting (prepare kind v) := by
  unfold prepare prepareJson prepareBoolean prepareNumber prepareDateTime prepareDate prepareFormless prepareTime
    prepareBinary
  split
  case h_1 => exact .inl rfl
  case h_2 => exact .inl rfl
  all_goals
    right
    repeat' split
  all_goals first
    | exact fitting_refused
    | exact fitting_takenNumber _
    | exact fitting_bit ‹_›
    | exact fitting_bit (by simp)
    | exact fitting_ok fun _ h => nomatch h

theorem int_of_prepare {kind : ColumnKind} {v : Value} {n : Int} (h : prepare kind v = .ok (.int n))
    (hbeyond : fits n = false) : v = .int n := by
  rcases prepare_fitting kind v with hsame | hfitting
  · exact Except.ok.inj (hsame.symm.trans h)
  · cases (hfitting n h).symm.trans hbeyond

theorem int_of_prepareOperand {kind : ColumnKind} {v : Value} {n : Int} (h : prepareOperand kind v = .ok (.int n))
    (hbeyond : fits n = false) : v = .int n := by
  cases v with
  | scalar x =>
    cases x with
    | text s =>
      simp only [prepareOperand] at h
      split at h <;> cases h
    | datetime t =>
      simp only [prepareOperand] at h
      split at h <;> cases h
    | date d =>
      simp only [prepareOperand] at h
      split at h <;> cases h
    | int m => exact Except.ok.inj h
    | _ => cases h
  | _ => exact int_of_prepare h hbeyond

namespace StoredTable
variable {t u : StoredTable} {name : String} {e : Failure}

/-- A value for a column that is read as an integer beyond 64 bits. -/
def Oversized (t : StoredTable) (name : String) (p : String × Value) : Prop :=
  ∃ c n, (t.shape name).column? p.1 = some c ∧ c.coerce p.2 = .ok (.int n) ∧ fits n = false

/-- What is known of a row has an integer beyond 64 bits. -/
def HasBeyond (known : Row) : Prop := ∃ p ∈ known, ∃ n, p.2 = .int n ∧ fits n = false

theorem oversized_of_known {values known : Row} (hknown : t.known name values = .ok known) (h : HasBeyond known) :
    ∃ p ∈ values, t.Oversized name p := by
  obtain ⟨⟨column, w⟩, hp, n, rfl, hbeyond⟩ := h
  obtain ⟨c, v, hc, hv, hread⟩ := mem_coerceRow (mapError_eq_ok.1 hknown) hp
  exact ⟨(column, v), hv, c, n, hc, hread, hbeyond⟩

theorem known_error {values : Row} (h : t.known name values = .error e) : e.isData = true := by
  obtain ⟨fault, -, rfl⟩ := mapError_eq_error.1 h
  rfl

/-- Equalities whose tests cannot be bound. -/
theorem bindEqualities_error {known : Row} (h : t.bindTests (equalities (t.shape name) known) = .error e) :
    e.isData = true ∨ e = .outOfRange ∧ HasBeyond known := by
  rcases bindTests_fails h with hdata | ⟨rfl, comparison, hm, prepared, hprepared, haccept⟩
  · exact .inl hdata
  · obtain ⟨p, hp, c, -, rfl⟩ := mem_equalities.1 hm
    obtain ⟨v, hv, rfl⟩ := map_eq_ok.1 hprepared
    obtain ⟨n, rfl, hbeyond⟩ := accept_outOfRange (map_eq_error.1 haccept)
    exact .inr ⟨rfl, p, hp, n, int_of_prepareOperand hv hbeyond, hbeyond⟩

theorem checkWritten_error {known : Row} (h : checkWritten known = .error e) :
    e = .wrongKind ∧ ∃ p ∈ known, p.1 ∈ reservedColumns := by
  unfold checkWritten at h
  split at h
  · rename_i hreserved
    cases h
    obtain ⟨p, hp, hname⟩ := List.any_eq_true.1 hreserved
    exact ⟨rfl, p, hp, of_decide_eq_true hname⟩
  · cases h

theorem prepareRow_error {known : Row} (h : t.prepareRow known = .error e) : e.isData = true := by
  obtain ⟨p, -, h⟩ := exists_of_error h
  exact refuses_prepare _ _ e (map_eq_error.1 h)

theorem checkPacked_error {known : Row} (h : t.checkPacked known = .error e) : e.isData = true := by
  unfold checkPacked at h
  split at h
  · cases h
    rfl
  · cases h

theorem acceptRow_error {known : Row} {prepared : List (String × Value)} (hprepared : t.prepareRow known = .ok prepared)
    (h : acceptRow prepared = .error e) : e.isData = true ∨ e = .outOfRange ∧ HasBeyond known := by
  obtain ⟨p, hp, h⟩ := exists_of_error h
  have haccept := map_eq_error.1 h
  rcases accept_error haccept with hdata | rfl
  · exact .inl hdata
  · obtain ⟨n, hn, hbeyond⟩ := accept_outOfRange haccept
    obtain ⟨⟨c, v⟩, hcv, hvalue⟩ := exists_of_mem_result hprepared hp
    obtain ⟨w, hw, rfl⟩ := map_eq_ok.1 hvalue
    obtain rfl : w = .int n := hn
    exact .inr ⟨rfl, (c.name, v), Assoc.mem_of_get? (mem_inOrder.1 hcv).2, n, int_of_prepare hw hbeyond, hbeyond⟩

theorem firstOf_error {bs : List BoundTest} (h : t.firstOf bs = .error e) :
    ∃ row ∈ t.rows, t.readRow row = .error e := by
  unfold firstOf at h
  split at h
  · cases h
  · rename_i row rest hchosen
    have hm : row ∈ t.chosen bs := hchosen ▸ List.mem_cons_self
    exact ⟨row, (List.mem_filter.1 hm).1, map_eq_error.1 h⟩

/-! ## Questions that are not answered -/

/-- A question brings an integer beyond 64 bits: in a condition, as limit or offset, in a key, among the values to
write, or as the number by which a new row is looked up. -/
inductive BringsBeyond (t : StoredTable) (returning : Bool) (name : String) : Call → Prop where
  | counted {table : Option String} {conditions : List (Condition Value)} {c : Condition Value} (among : c ∈ conditions)
      (beyond : t.boundOf name c = .error .outOfRange) : BringsBeyond t returning name (.count table conditions)
  | selected {table : Option String} {args : ScopeArgs Value} {c : Condition Value} (among : c ∈ args.conditions)
      (beyond : t.boundOf name c = .error .outOfRange) : BringsBeyond t returning name (.select table args)
  | window {table : Option String} {args : ScopeArgs Value}
      (beyond : fits (args.limit.getD 0) = false ∨ fits args.offset = false) :
      BringsBeyond t returning name (.select table args)
  | sought {table : Option String} {keys : Row} {p : String × Value} (among : p ∈ keys) (beyond : t.Oversized name p) :
      BringsBeyond t returning name (.find table keys)
  | inserted {table : Option String} {values : Row} {p : String × Value} (among : p ∈ values)
      (beyond : t.Oversized name p) : BringsBeyond t returning name (.insert table values)
  | numbered {table : Option String} {values : Row} {cells : Assoc String Cell} (lookedUp : returning = false)
      (given : t.Given name values cells)
      (beyond : fits (toldNumber { t with rows := t.place (t.fill cells) t.rows } (t.fill cells)) = false) :
      BringsBeyond t returning name (.insert table values)
  | updated {table : Option String} {keys values : Row} {p : String × Value} (among : p ∈ keys ++ values)
      (beyond : t.Oversized name p) : BringsBeyond t returning name (.update table keys values)

/-- A row that a question may come to: one that is stored, or one that it writes itself. -/
inductive ComesTo (t : StoredTable) (name : String) : Call → Cells → Prop where
  | stored {c : Call} {row : Cells} (reads : c.reads = true) (held : row ∈ t.rows) : ComesTo t name c row
  | added {table : Option String} {values : Row} {cells : Assoc String Cell} (given : t.Given name values cells) :
      ComesTo t name (.insert table values) (t.fill cells)
  | handedBack {table : Option String} {values : Row} {cells : Assoc String Cell} (given : t.Given name values cells) :
      ComesTo t name (.insert table values) (t.echoRow (t.fill cells))
  | changed {table : Option String} {keys values : Row} {cells : Assoc String Cell} {row : Cells} (held : row ∈ t.rows)
      (given : t.Given name values cells) : ComesTo t name (.update table keys values) (t.overwrite cells row)

/-- The reasons for which a question is not answered, but for the data that it was given. -/
inductive Unanswerable (t : StoredTable) (returning : Bool) (name : String) (c : Call) : Failure → Prop where
  | beyond (brings : t.BringsBeyond returning name c) : Unanswerable t returning name c .outOfRange
  | reserved {p : String × Value} (written : p ∈ c.written) (column : ((t.shape name).column? p.1).isSome = true)
      (reserved : p.1 ∈ reservedColumns) : Unanswerable t returning name c .wrongKind
  | unread {row : Cells} {e : Failure} (comes : t.ComesTo name c row) (unread : t.readRow row = .error e) :
      Unanswerable t returning name c e

section Questions
variable {returning : Bool} {table : Option String}

theorem count_error {conditions : List (Condition Value)} (h : t.count name conditions = .error e) :
    e.isData = true ∨ t.Unanswerable returning name (.count table conditions) e := by
  rcases bind_eq_error.1 h with h | ⟨cs, hcs, h⟩
  · obtain ⟨c, -, h⟩ := exists_of_error h
    exact .inl (compare_error h)
  rcases bind_eq_error.1 h with h | ⟨bs, -, h⟩
  · rcases bindTests_error hcs h with hdata | ⟨rfl, c, hc, hbeyond⟩
    · exact .inl hdata
    · exact .inr (.beyond (.counted hc hbeyond))
  rcases bind_eq_error.1 h with h | ⟨⟨⟩, -, h⟩
  · exact .inl (checkPatterns_error h)
  · cases h

theorem select_unanswerable {args : ScopeArgs Value} (h : t.select name args = .error e) :
    e.isData = true ∨ t.Unanswerable returning name (.select table args) e := by
  rcases select_error h with hdata | ⟨rfl, ⟨c, hc, hbeyond⟩ | hwindow⟩ | ⟨row, hrow, hread⟩
  · exact .inl hdata
  · exact .inr (.beyond (.selected hc hbeyond))
  · exact .inr (.beyond (.window hwindow))
  · exact .inr (.unread (.stored rfl hrow) hread)

theorem find_error {keys : Row} (h : t.find name keys = .error e) :
    e.isData = true ∨ t.Unanswerable returning name (.find table keys) e := by
  rcases bind_eq_error.1 h with h | ⟨known, hknown, h⟩
  · exact .inl (known_error h)
  split at h
  · cases h
  rcases bind_eq_error.1 h with h | ⟨bs, -, h⟩
  · rcases bindEqualities_error h with hdata | ⟨rfl, hbeyond⟩
    · exact .inl hdata
    · obtain ⟨p, hp, hover⟩ := oversized_of_known hknown hbeyond
      exact .inr (.beyond (.sought hp hover))
  · obtain ⟨row, hrow, hread⟩ := firstOf_error h
    exact .inr (.unread (.stored rfl hrow) hread)

/-- What a written column may not be called. -/
theorem reserved_of_known {values known : Row} (hknown : t.known name values = .ok known)
    (h : checkWritten known = .error e) {c : Call} (hc : c.written = values) :
    t.Unanswerable returning name c e := by
  obtain ⟨rfl, ⟨column, w⟩, hp, hreserved⟩ := checkWritten_error h
  obtain ⟨d, v, hd, hv, -⟩ := mem_coerceRow (mapError_eq_ok.1 hknown) hp
  subst hc
  exact .reserved (p := (column, v)) hv (by rw [hd]; rfl) hreserved

/-- A row looked up after an insert is looked up by what is known of it, or by the number that is told. -/
theorem hasBeyond_newKey {known : Row} {row : Cells} (h : HasBeyond (t.newKey known row)) :
    HasBeyond known ∨ fits (t.toldNumber row) = false := by
  obtain ⟨p, hp, n, hn, hbeyond⟩ := h
  obtain ⟨c, -, rfl⟩ := List.mem_map.1 hp
  cases hget : known.get? c.name with
  | some w =>
    rw [hget] at hn
    exact .inl ⟨(c.name, w), Assoc.mem_of_get? hget, n, hn, hbeyond⟩
  | none =>
    rw [hget, Option.getD_none] at hn
    split at hn
    · right
      simp only [Value.int, Value.scalar.injEq, Scalar.int.injEq] at hn
      rw [hn]
      exact hbeyond
    · cases hn

theorem lookUp_error {known : Row} {row : Cells} (h : t.lookUp name known row = .error e) :
    e.isData = true ∨ (e = .outOfRange ∧ (HasBeyond known ∨ fits (t.toldNumber row) = false)) ∨
      ∃ other ∈ t.rows, t.readRow other = .error e := by
  rcases bind_eq_error.1 h with h | ⟨bs, -, h⟩
  · rcases bindEqualities_error h with hdata | ⟨rfl, hbeyond⟩
    · exact .inl hdata
    · refine .inr (.inl ⟨rfl, ?_⟩)
      split at hbeyond
      · exact hasBeyond_newKey hbeyond
      · exact .inl hbeyond
  · exact .inr (.inr (firstOf_error h))

theorem inserted_of_known {values known : Row} (hknown : t.known name values = .ok known) (h : HasBeyond known) :
    t.Unanswerable returning name (.insert table values) .outOfRange := by
  obtain ⟨p, hp, hover⟩ := oversized_of_known hknown h
  exact .beyond (.inserted hp hover)

theorem add_error {values : Row} (h : t.add name values = .error e) :
    e.isData = true ∨ t.Unanswerable returning name (.insert table values) e := by
  rcases bind_eq_error.1 h with h | ⟨known, hknown, h⟩
  · exact .inl (known_error h)
  rcases bind_eq_error.1 h with h | ⟨⟨⟩, -, h⟩
  · exact .inr (reserved_of_known hknown h rfl)
  rcases bind_eq_error.1 h with h | ⟨prepared, hprepared, h⟩
  · exact .inl (prepareRow_error h)
  rcases bind_eq_error.1 h with h | ⟨⟨⟩, -, h⟩
  · exact .inl (checkPacked_error h)
  rcases bind_eq_error.1 h with h | ⟨cells, -, h⟩
  · exact (acceptRow_error hprepared h).imp_right fun ⟨hrange, hbeyond⟩ => hrange ▸ inserted_of_known hknown hbeyond
  split at h
  · cases h
    exact .inl rfl
  · cases h

/-- A row that is added and cannot be told undoes the insert. -/
theorem tell_error {values known : Row} {row : Cells} {cells : Assoc String Cell}
    (hadded : t.Added name values known row u cells) (h : u.tell returning name known row = .error e) :
    e.isData = true ∨ t.Unanswerable returning name (.insert table values) e := by
  obtain ⟨rfl, rfl, -⟩ := insert?_ok hadded.inserted
  cases returning with
  | true => exact .inr (.unread (.handedBack hadded.given) (map_eq_error.1 h))
  | false =>
    rcases lookUp_error h with hdata | ⟨rfl, hbeyond | hnumber⟩ | ⟨row, hrow, hread⟩
    · exact .inl hdata
    · exact .inr (inserted_of_known hadded.reads hbeyond)
    · exact .inr (.beyond (.numbered rfl hadded.given hnumber))
    · rcases List.mem_cons.1 ((t.place_perm _ _).mem_iff.1 hrow) with rfl | hrow
      · exact .inr (.unread (.added hadded.given) hread)
      · exact .inr (.unread (.stored rfl hrow) hread)

theorem insert_error {values : Row} (h : t.insert returning name values = .error e) :
    e.isData = true ∨ t.Unanswerable returning name (.insert table values) e := by
  rw [insert_eq] at h
  rcases bind_eq_error.1 h with h | ⟨⟨known, row, u⟩, hadd, h⟩
  · exact add_error h
  rcases bind_eq_error.1 h with h | ⟨found, -, h⟩
  · obtain ⟨cells, hadded⟩ := add_ok hadd
    exact tell_error hadded h
  · cases h

theorem checkNames_error {tests : List Comparison} {values : Row} (h : checkNames tests values = .error e) :
    e.isData = true := by
  unfold checkNames at h
  dsimp only at h
  split at h
  · cases h
    rfl
  · cases h

theorem update_error {keys values : Row} (h : t.update name keys values = .error e) :
    e.isData = true ∨ t.Unanswerable returning name (.update table keys values) e := by
  rcases bind_eq_error.1 h with h | ⟨knownKeys, hkeys, h⟩
  · exact .inl (known_error h)
  rcases bind_eq_error.1 h with h | ⟨known, hknown, h⟩
  · exact .inl (known_error h)
  rcases bind_eq_error.1 h with h | ⟨⟨⟩, -, h⟩
  · exact .inr (reserved_of_known hknown h rfl)
  rcases bind_eq_error.1 h with h | ⟨⟨⟩, -, h⟩
  · exact .inl (checkNames_error h)
  rcases bind_eq_error.1 h with h | ⟨prepared, hprepared, h⟩
  · exact .inl (prepareRow_error h)
  rcases bind_eq_error.1 h with h | ⟨tests, -, h⟩
  · obtain ⟨comparison, -, h⟩ := exists_of_error h
    exact .inl (prepareTest_error h)
  rcases bind_eq_error.1 h with h | ⟨⟨⟩, -, h⟩
  · exact .inl (checkPacked_error h)
  rcases bind_eq_error.1 h with h | ⟨cells, hcells, h⟩
  · refine (acceptRow_error hprepared h).imp_right fun ⟨hrange, hbeyond⟩ => ?_
    obtain ⟨p, hp, hover⟩ := oversized_of_known hknown hbeyond
    exact hrange ▸ .beyond (.updated (List.mem_append_right _ hp) hover)
  have hgiven : t.Given name values cells := ⟨known, prepared, hknown, hprepared, hcells⟩
  rcases bind_eq_error.1 h with h | ⟨bs, -, h⟩
  · refine (bindEqualities_error h).imp_right fun ⟨hrange, hbeyond⟩ => ?_
    obtain ⟨p, hp, hover⟩ := oversized_of_known hkeys hbeyond
    exact hrange ▸ .beyond (.updated (List.mem_append_left _ hp) hover)
  split at h
  · rcases bind_eq_error.1 h with h | ⟨found, -, h⟩
    · obtain ⟨row, hrow, hread⟩ := firstOf_error h
      exact .inr (.unread (.stored rfl hrow) hread)
    · cases h
  split at h
  · cases h
    exact .inl rfl
  · rename_i after hupdate
    obtain ⟨hothers, hrows⟩ := update?_ok hupdate
    rcases bind_eq_error.1 h with h | ⟨found, -, h⟩
    · obtain ⟨row, hrow, hread⟩ := firstOf_error h
      rw [hothers] at hread
      obtain ⟨before, hbefore, rfl⟩ := List.mem_map.1 (hrows.mem_iff.1 hrow)
      by_cases hmeets : t.meetsAll bs before = true
      · rw [if_pos hmeets] at hread
        exact .inr (.unread (.changed hbefore hgiven) hread)
      · rw [if_neg hmeets] at hread
        exact .inr (.unread (.stored rfl hbefore) hread)
    · cases h

end Questions

end StoredTable

end Store

end TableGraph
