import TableGraph.Proofs.Naming.TypeName
import TableGraph.Proofs.Number.Numerals
import TableGraph.Proofs.Request.RoundTrip
import TableGraph.Proofs.Request.Settings
import TableGraph.Request.Pagination

/-! # What plain requests read as

A pagination of a limit and an offset sets both for the root and nothing else (`parsePagination_paging`). A
filter of a name, an equals sign and a printed integer is one condition on the root (`parseFilter_keyFilter`).
-/
namespace TableGraph.Request
open TableGraph.Text TableGraph.Number

/-! ## Characters of a segment -/

theorem isPart_of_isDigit {c : Char} (h : c.isDigit = true) : Name.isPart c = true := by
  simp [Name.isPart, Char.isAlphanum, h]

/-- Characters of names are none that divide a request. -/
theorem not_divider_of_isPart {c : Char} (h : Name.isPart c = true) : c ≠ '|' ∧ c ≠ '\n' ∧ isMark c = false := by
  exact Name.forall_ascii (p := fun c => Name.isPart c = true → c ≠ '|' ∧ c ≠ '\n' ∧ isMark c = false) (by decide)
    (Name.isAscii_of_isPart h) h

theorem not_mem_natText {c : Char} (h : c.isDigit = false) (n : Nat) : c ∉ natText n := fun hc =>
  nomatch h.symm.trans (isDigit_of_mem_natText hc)

theorem trim_natText (n : Nat) : trim (natText n) = natText n :=
  trim_of_not_blank fun _ hc => Name.not_isBlank_of_isPart (isPart_of_isDigit (isDigit_of_mem_natText hc))

/-! ## A limit and an offset -/

/-- A segment of a key word and a number. -/
def counting (key : String) (n : Nat) : List Char := key.toList ++ '=' :: natText n

/-- The pagination of a limit and an offset. -/
def paging (limit offset : Nat) : String := "limit=" ++ toString limit ++ "|offset=" ++ toString offset

theorem toList_paging (limit offset : Nat) :
    (paging limit offset).toList = counting "limit" limit ++ '|' :: counting "offset" offset := by
  simp only [paging, String.toList_append, toList_toString_nat, counting]
  simp

theorem segments_paging (limit offset : Nat) :
    segments (paging limit offset).toList = [counting "limit" limit, counting "offset" offset] := by
  have hbar (key : String) (hkey : '|' ∉ key.toList) (n : Nat) : '|' ∉ counting key n := by
    simp [counting, hkey, not_mem_natText (c := '|') (by decide)]
  have htrim (key : String) (hkey : key.toList.all Name.isPart = true) (n : Nat) :
      trim (counting key n) = counting key n := by
    refine trim_of_not_blank fun c hc => ?_
    rcases List.mem_append.1 hc with hc | hc
    · exact Name.not_isBlank_of_isPart (List.all_eq_true.1 hkey c hc)
    · rcases List.mem_cons.1 hc with rfl | hc
      · decide
      · exact Name.not_isBlank_of_isPart (isPart_of_isDigit (isDigit_of_mem_natText hc))
  have hlimit := htrim "limit" (by decide) limit
  have hoffset := htrim "offset" (by decide) offset
  rw [toList_paging, segments, split_append (hbar "limit" (by decide) limit),
    split_of_not_mem (hbar "offset" (by decide) offset)]
  simp only [List.map_cons, List.map_nil, hlimit, hoffset]
  rfl

/-- A number is read as itself, unless it has too many digits. -/
theorem readCount_natText (key : String) (segment : List Char) (n : Nat) :
    readCount key segment (natText n) =
      if (natText n).length ≤ maxDigits then .ok (n : Int) else .error (.notInteger key (String.ofList segment)) := by
  rw [readCount, trim_natText, readInt?_natText]
  by_cases h : (natText n).length ≤ maxDigits
  · simp [h]
  · simp [h]

/-- A number as the value of a key, for the root. -/
def counted (key : String) (n : Nat) : PagingClause := ⟨none, key.toList, natText n⟩

theorem divided_counted (key : String) (hcolon : ':' ∉ key.toList) (hequals : '=' ∉ key.toList) (n : Nat) :
    (counted key n).Divided where
  scope _ hs := nomatch hs
  key := hequals
  unscoped _ := hcolon

theorem readSetting_limit (n : Nat) : readSetting (counting "limit" n) =
    if (natText n).length ≤ maxDigits then .ok (none, .limit n)
    else .error (.notInteger "limit" (String.ofList (counting "limit" n))) := by
  have hword : (counted "limit" n).word = "limit" := show String.ofList (lowerAscii (trim "limit".toList)) = _ by decide
  have hread := readSetting_text (divided_counted "limit" (by decide) (by decide) n)
  rw [readSettingOf_limit hword, hword, counted, readCount_natText] at hread
  refine hread.trans ?_
  split <;> rfl

theorem readSetting_offset (n : Nat) : readSetting (counting "offset" n) =
    if (natText n).length ≤ maxDigits then .ok (none, .offset n)
    else .error (.notInteger "offset" (String.ofList (counting "offset" n))) := by
  have hword : (counted "offset" n).word = "offset" :=
    show String.ofList (lowerAscii (trim "offset".toList)) = _ by decide
  have hread := readSetting_text (divided_counted "offset" (by decide) (by decide) n)
  rw [readSettingOf_offset hword, hword, counted, readCount_natText] at hread
  refine hread.trans ?_
  split <;> rfl

/-- The arguments that the pagination of a limit and an offset sets. -/
def pagingScopes (limit offset : Nat) : Scopes := [(none, { limit := some (limit : Int), offset := offset })]

/-- The pagination of a limit and an offset sets them for the root, if they have no more digits than may be read. -/
theorem parsePagination_paging (limit offset : Nat) : parsePagination (paging limit offset).toList =
    if (natText limit).length ≤ maxDigits then
      if (natText offset).length ≤ maxDigits then .ok (pagingScopes limit offset)
      else .error (.notInteger "offset" (String.ofList (counting "offset" offset)))
    else .error (.notInteger "limit" (String.ofList (counting "limit" limit))) := by
  rw [parsePagination_eq, segments_paging, List.mapM_cons, List.mapM_cons, List.mapM_nil, readSetting_limit,
    readSetting_offset]
  split
  · split <;> rfl
  · rfl

/-- A filter says nothing but conditions. -/
theorem get_parseFilter {raw : List Char} {scopes : Scopes} (h : parseFilter raw = .ok scopes) (k : Option String) :
    RequestArgs.get ⟨scopes⟩ k = { conditions := (RequestArgs.get ⟨scopes⟩ k).conditions } := by
  obtain ⟨cs, -, rfl⟩ := parseFilter_eq_ok_iff.1 h
  rw [get_grouped]
  rfl

/-- What is said of the root alone is all that is said about a root table. -/
theorem forRoot_root (a : ScopeArgs String) (table : String) :
    (RequestArgs.mk [(none, a)]).forRoot (some table) = a := by
  have hroot : (RequestArgs.mk [(none, a)]).get none = a := rfl
  have htable : (RequestArgs.mk [(none, a)]).get (some table) = .empty := rfl
  rw [RequestArgs.forRoot, hroot, htable, ScopeArgs.merged_empty]

/-- What a filter and the pagination of a limit and an offset say about a root table. -/
theorem forRoot_paging {raw : List Char} {scopes : Scopes} (h : parseFilter raw = .ok scopes) (limit offset : Nat)
    (table : String) : ((RequestArgs.mk scopes).overlay ⟨pagingScopes limit offset⟩).forRoot (some table) =
      { conditions := ((RequestArgs.mk scopes).forRoot (some table)).conditions, limit := some (limit : Int),
        offset := offset } := by
  have hapart : RequestArgs.Apart ⟨pagingScopes limit offset⟩ := by
    simp [RequestArgs.Apart, pagingScopes, Assoc.keys]
  have hroot : RequestArgs.get ⟨pagingScopes limit offset⟩ none =
      { limit := some (limit : Int), offset := offset } := rfl
  have htable : RequestArgs.get ⟨pagingScopes limit offset⟩ (some table) = .empty := rfl
  rw [RequestArgs.forRoot, RequestArgs.forRoot, RequestArgs.get_overlay hapart, RequestArgs.get_overlay hapart, hroot,
    htable, ScopeArgs.merged_empty, get_parseFilter h none, get_parseFilter h (some table)]
  simp only [ScopeArgs.merged, List.append_nil]
  congr 1
  rw [if_pos trivial]
  split <;> omega

/-! ## A name and a text -/

theorem plain_of_parts {s : List Char} (hne : s ≠ []) (hparts : ∀ c ∈ s, Name.isPart c = true) : IsPlain s where
  given := hne
  tight :=
    { first := fun c hc => Name.not_isBlank_of_isPart (hparts c (List.mem_of_mem_head? hc))
      last := fun c hc => Name.not_isBlank_of_isPart (hparts c (List.mem_of_mem_getLast? hc)) }
  bare c hc := ⟨(not_divider_of_isPart (hparts c hc)).1, (not_divider_of_isPart (hparts c hc)).2.2⟩

/-- A name, an operator and a text that stays on its line are one condition on the root. -/
theorem parseFilter_condition {column value : String} (op : Operator) (hne : column ≠ "")
    (hcolumn : ∀ c ∈ column.toList, Name.isPart c = true)
    (hoperator : op = .gt ∨ op = .lt → value.toList.head? ≠ some '=')
    (hvalue : ∀ c ∈ value.toList, c ≠ '|' ∧ c ≠ '\n') (hending : ∀ c ∈ value.toList.getLast?, isBlank c = false) :
    parseFilter (column.toList ++ (op.symbol ++ value.toList)) =
      .ok [(none, { conditions := [⟨column, op.name, value⟩] })] := by
  let clause : Clause := ⟨none, column.toList, op, value.toList⟩
  have hwritable : clause.Writable := {
    scope := fun _ hs => nomatch hs
    column := plain_of_parts (fun hnil => hne (String.toList_eq_nil_iff.1 hnil)) hcolumn
    value := hvalue
    ending := hending
    operator := hoperator }
  have hwritten : column.toList ++ (op.symbol ++ value.toList) = Clause.written [clause] := by
    rw [Clause.written, List.map_singleton, List.intercalate_singleton]
    rfl
  have hcondition : clause.condition = (none, ⟨column, op.name, value⟩) := by
    simp [clause, Clause.condition]
  rw [hwritten, parseFilter_written_eq fun c hc => List.mem_singleton.1 hc ▸ hwritable, List.map_singleton, hcondition,
    grouped_singleton]

/-! ## A name and an integer -/

/-- The filter that a column equals an integer. -/
def keyFilter (column : String) (n : Int) : String := column ++ "=" ++ toString n

theorem toList_keyFilter (column : String) (n : Int) :
    (keyFilter column n).toList = column.toList ++ '=' :: (toString n).toList := by
  simp [keyFilter, String.toList_append]

theorem mem_toString_int {c : Char} {n : Int} (h : c ∈ (toString n).toList) : c = '-' ∨ c.isDigit = true := by
  rw [toList_toString_int] at h
  split at h
  · rcases List.mem_cons.1 h with rfl | h
    · exact .inl rfl
    · exact .inr (isDigit_of_mem_natText h)
  · exact .inr (isDigit_of_mem_natText h)

/-- No character of a printed integer is blank or divides a request. -/
theorem plain_toString_int {c : Char} {n : Int} (h : c ∈ (toString n).toList) :
    isBlank c = false ∧ c ≠ '|' ∧ c ≠ '\n' := by
  rcases mem_toString_int h with rfl | hd
  · decide
  · have hpart := isPart_of_isDigit hd
    exact ⟨Name.not_isBlank_of_isPart hpart, (not_divider_of_isPart hpart).1, (not_divider_of_isPart hpart).2.1⟩

/-- The condition that a column equals an integer, as a text. -/
def keyCondition (column : String) (n : Int) : Condition String := ⟨column, Operator.eq.name, toString n⟩

/-- The filter is one condition on the root. -/
theorem parseFilter_keyFilter {column : String} (hne : column ≠ "")
    (hcolumn : ∀ c ∈ column.toList, Name.isPart c = true) (n : Int) :
    parseFilter (keyFilter column n).toList = .ok [(none, { conditions := [keyCondition column n] })] := by
  rw [toList_keyFilter]
  exact parseFilter_condition .eq hne hcolumn (by simp) (fun c hc => (plain_toString_int hc).2)
    fun c hc => (plain_toString_int (List.mem_of_mem_getLast? hc)).1

end TableGraph.Request
