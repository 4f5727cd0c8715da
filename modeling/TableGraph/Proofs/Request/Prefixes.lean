import TableGraph.Proofs.Request.Paging
import TableGraph.Proofs.Request.RoundTrip

/-! # One prefix in front of a condition and of a limit

The same text may stand in front of a segment of a filter and of one of a pagination. A pagination takes all of it for a
scope if there is no colon in it; a filter does so only if there is no mark in it, and with a mark it may still read
it as a comparison of its own (`clause_under_iff`). So the two place the text alike exactly if there is no sign of
comparison in it, or a colon and no such comparison (`prefix_placed_alike_iff`).
-/
namespace TableGraph
open Text Request

/-! ## A filter under a prefix -/

namespace Clause

/-- The clause with more text behind its value. -/
def extended (d : Clause) (more : List Char) : Clause := { d with value := d.value ++ more }

theorem text_extended (d : Clause) (more : List Char) : (d.extended more).text = d.text ++ more := by
  unfold text comparison extended
  cases d.scope <;> simp

/-- What stands in front of the value. -/
def front (c : Clause) : List Char :=
  (c.scope.map fun s => s ++ [':']).getD [] ++ (c.column ++ c.operator.symbol)

theorem text_eq_front (c : Clause) : c.text = c.front ++ c.value := by
  unfold text comparison front
  cases c.scope <;> simp

/-- Without an equals sign in the text, the operator stays the longest one when more is written behind a colon. -/
theorem legible_extended_iff {d : Clause} {more : List Char} (hequals : '=' ∉ d.text) (hmore : '\n' ∉ more) :
    (d.extended (':' :: more)).Legible ↔ d.Legible := by
  have hvalue : d.value.head? ≠ some '=' := by
    intro hhead
    obtain ⟨r, hr⟩ := List.head?_eq_some_iff.1 hhead
    exact hequals (by rw [text_eq_front, hr]; simp)
  have hlonger : (d.value ++ ':' :: more).head? ≠ some '=' := by
    cases hv : d.value with
    | nil => simp
    | cons c r => simpa [hv] using hvalue
  have hlongest : d.operator.Longest (d.operator.symbol ++ (d.value ++ ':' :: more)) ∧
      d.operator.Longest (d.operator.symbol ++ d.value) :=
    ⟨(Operator.longest_iff _ _).2 fun _ => hlonger, (Operator.longest_iff _ _).2 fun _ => hvalue⟩
  have hline : '\n' ∉ d.value ++ ':' :: more ↔ '\n' ∉ d.value := by simp [hmore]
  constructor
  · rintro ⟨hdivided, hcolumn, hfeed⟩
    exact ⟨⟨hdivided.scope, hdivided.column, hlongest.2⟩, hcolumn, hline.1 hfeed⟩
  · rintro ⟨hdivided, hcolumn, hfeed⟩
    exact ⟨⟨hdivided.scope, hdivided.column, hlongest.1⟩, hcolumn, hline.2 hfeed⟩

/-- The only colon in front of the value is the one behind the scope. -/
theorem scope_of_colon {c : Clause} (hc : c.Divided) {s t : List Char} (h : c.front = s ++ ':' :: t) :
    c.scope = some s := by
  have hrest : ':' ∉ c.column ++ c.operator.symbol := by
    rw [List.mem_append, not_or]
    refine ⟨fun hm => ?_, by cases c.operator <;> decide⟩
    cases hc.column ':' hm
  unfold front at h
  cases hscope : c.scope with
  | none =>
    rw [hscope] at h
    exact absurd (h ▸ List.mem_append_right s List.mem_cons_self) hrest
  | some scope =>
    have hcolon : ':' ∉ scope := by
      intro hm
      cases (hc.scope scope hscope).2 ':' hm
    rw [hscope, Option.map_some, Option.getD_some, List.append_assoc, List.singleton_append] at h
    rcases List.append_eq_append_iff.1 h with ⟨more, hs, hmore⟩ | ⟨more, hs, hmore⟩
    · cases more with
      | nil => rw [hs, List.append_nil]
      | cons x more =>
        obtain ⟨-, hmore⟩ := List.cons.inj hmore
        exact absurd (hmore ▸ List.mem_append_right more List.mem_cons_self) hrest
    · cases more with
      | nil => rw [hs, List.append_nil]
      | cons x more =>
        obtain ⟨rfl, -⟩ := List.cons.inj hmore
        exact absurd (hs ▸ List.mem_append_right s List.mem_cons_self) hcolon

/-- A text in front of a colon reaches into the value, or it is the scope. -/
theorem reaches_value_or_scope {c : Clause} (hc : c.Divided) {s more : List Char} (h : c.text = s ++ ':' :: more) :
    (∃ v, s = c.front ++ v ∧ c.value = v ++ ':' :: more) ∨ c.scope = some s := by
  rw [text_eq_front] at h
  rcases List.append_eq_append_iff.1 h with hvalue | ⟨m, hfront, hm⟩
  · exact .inl hvalue
  · cases m with
    | nil => exact .inl ⟨[], by rw [hfront, List.append_nil, List.append_nil], hm.symm⟩
    | cons x m =>
      obtain ⟨rfl, -⟩ := List.cons.inj hm
      exact .inr (scope_of_colon hc hfront)

end Clause

open Clause

/-- Under a prefix with a mark a clause can be read only if the prefix is one, and then all that follows belongs to
its value. -/
theorem clause_under_iff {s more : List Char} (hequals : '=' ∉ s) (hmarked : ∃ x ∈ s, isMark x = true)
    (hmore : '\n' ∉ more) {c : Clause} : c.Legible ∧ c.text = s ++ ':' :: more ↔
      ∃ d : Clause, d.Legible ∧ d.text = s ∧ c = d.extended (':' :: more) := by
  constructor
  · rintro ⟨hlegible, htext⟩
    rcases reaches_value_or_scope hlegible.1 htext with ⟨v, hs, hvalue⟩ | hscope
    · obtain ⟨d, hd, rfl⟩ : ∃ d : Clause, d.text = s ∧ c = d.extended (':' :: more) := by
        obtain ⟨scope, column, op, value⟩ := c
        obtain rfl : value = v ++ ':' :: more := hvalue
        exact ⟨⟨scope, column, op, v⟩, (text_eq_front _).trans hs.symm, rfl⟩
      exact ⟨d, (legible_extended_iff (hd ▸ hequals) hmore).1 hlegible, hd, rfl⟩
    · -- there is no mark in a scope
      obtain ⟨x, hx, hmark⟩ := hmarked
      cases hmark.symm.trans ((hlegible.1.scope s hscope).2 x hx)
  · rintro ⟨d, hlegible, rfl, rfl⟩
    exact ⟨(legible_extended_iff hequals hmore).2 hlegible, text_extended d _⟩

namespace Request

/-! ## Segments under a prefix -/

/-- The condition `c=1` under a prefix. -/
def filterUnder (p : List Char) : List Char := p ++ ':' :: "c=1".toList

/-- The limit 1 under a prefix. -/
def pagingUnder (p : List Char) : List Char := p ++ ':' :: "limit=1".toList

/-- There is a condition on the column. -/
def ConditionOn (column : String) (scopes : Scopes) : Prop := ∃ q ∈ scopes, ∃ d ∈ q.2.conditions, d.column = column

/-- The text, but for blanks in front of it, is itself a comparison of the column. -/
def Compares (column : List Char) (p : List Char) : Prop :=
  ∃ d : Clause, d.Legible ∧ d.text = trimLeft p ∧ trim d.column = column

/-- A mark that begins an operator and is no equals sign. -/
def isSign (c : Char) : Bool := c ∈ ['<', '>', '!', '~']

/-- A filter places the prefix if the condition behind it is read as one on `c`, and a pagination does if the limit
behind it is read. Either both do or none, and then under the same single scope. -/
structure PlacedAlike (p : List Char) : Prop where
  accepted : (∃ scopes, parseFilter (filterUnder p) = .ok scopes ∧ ConditionOn "c" scopes) ↔
    ∃ scopes, parsePagination (pagingUnder p) = .ok scopes
  scope : ∀ s t, parseFilter (filterUnder p) = .ok s → ConditionOn "c" s → parsePagination (pagingUnder p) = .ok t →
    ∃ k, Assoc.keys s = [k] ∧ Assoc.keys t = [k]

section
variable {p : List Char}

theorem isBlank_of_isMark {c : Char} (h : isMark c = true) : isBlank c = false := by
  have hmarks : ∀ c ∈ [':', '=', '<', '>', '!', '~'], isBlank c = false := by decide
  exact hmarks c (by simpa [isMark] using h)

theorem isMark_iff {c : Char} : isMark c = true ↔ c = ':' ∨ c = '=' ∨ isSign c = true := by
  simp [isMark, isSign]

/-- Without an equals sign a text has no mark if it has neither a colon nor a sign. -/
theorem unmarked_iff (hequals : '=' ∉ p) : (∀ x ∈ p, isMark x = false) ↔ ':' ∉ p ∧ ∀ x ∈ p, isSign x = false := by
  constructor
  · intro h
    refine ⟨?_, fun x hx => ?_⟩
    · intro hcolon
      cases h ':' hcolon
    · rw [Bool.eq_false_iff]
      intro hsign
      cases (isMark_iff.2 (.inr (.inr hsign))).symm.trans (h x hx)
  · rintro ⟨hcolon, hsigns⟩ x hx
    rw [Bool.eq_false_iff]
    intro hmark
    rcases isMark_iff.1 hmark with rfl | rfl | hsign
    · exact hcolon hx
    · exact hequals hx
    · cases hsign.symm.trans (hsigns x hx)

theorem unmarked_trimLeft_iff : (∀ x ∈ trimLeft p, isMark x = false) ↔ ∀ x ∈ p, isMark x = false := by
  constructor
  · intro h x hx
    rw [Bool.eq_false_iff]
    intro hmark
    have hmem := (mem_trimLeft_iff (isBlank_of_isMark hmark)).2 hx
    cases hmark.symm.trans (h x hmem)
  · intro h x hx
    exact h x (trimLeft_subset p hx)

theorem segments_under (hbar : '|' ∉ p) (hblank : trim p ≠ []) {rest : List Char} (hrest : '|' ∉ rest)
    (hlast : ∀ c ∈ (':' :: rest).getLast?, isBlank c = false) :
    segments (p ++ ':' :: rest) = [trimLeft p ++ ':' :: rest] := by
  have hleft : trimLeft p ≠ [] := by
    intro hnil
    refine hblank ?_
    rw [trim, hnil]
    rfl
  have htrim : trim (p ++ ':' :: rest) = trimLeft p ++ ':' :: rest := by
    rw [← trim_trimLeft, trimLeft_append hblank]
    exact trim_of_tight (tight_append hleft (List.cons_ne_nil _ _) (first_dropWhile p) hlast)
  have hnobar : '|' ∉ p ++ ':' :: rest := by simp [hbar, hrest]
  rw [segments, split_of_not_mem hnobar, List.map_singleton, htrim]
  simp

theorem segments_filterUnder (hbar : '|' ∉ p) (hblank : trim p ≠ []) :
    segments (filterUnder p) = [trimLeft p ++ ':' :: "c=1".toList] :=
  segments_under hbar hblank (by decide) (by decide)

theorem segments_pagingUnder (hbar : '|' ∉ p) (hblank : trim p ≠ []) :
    segments (pagingUnder p) = [trimLeft p ++ ':' :: "limit=1".toList] :=
  segments_under hbar hblank (by decide) (by decide)

/-! ## What the filter says -/

/-- What a clause alone comes to. -/
def alone (c : Clause) : Scopes := [(c.placed.1, { conditions := [c.placed.2] })]

theorem parseFilter_single {raw s : List Char} (h : segments raw = [s]) {scopes : Scopes} :
    parseFilter raw = .ok scopes ↔ ∃ c : Clause, (c.Legible ∧ c.text = s) ∧ alone c = scopes := by
  rw [parseFilter_ok_iff, Says, h]
  constructor
  · rintro ⟨cs, htexts, hall, rfl⟩
    obtain ⟨c, rfl, htext⟩ := List.map_eq_singleton_iff.1 htexts
    exact ⟨c, ⟨hall c (List.mem_singleton.2 rfl), htext⟩, (grouped_singleton c.placed).symm⟩
  · rintro ⟨c, ⟨hlegible, htext⟩, rfl⟩
    exact ⟨[c], by rw [List.map_singleton, htext], fun d hd => List.mem_singleton.1 hd ▸ hlegible,
      grouped_singleton c.placed⟩

theorem conditionOn_alone (c : Clause) (column : List Char) :
    ConditionOn (String.ofList column) (alone c) ↔ trim c.column = column := by
  have hcolumn : c.placed.2.column = String.ofList (trim c.column) := rfl
  simp [ConditionOn, alone, hcolumn, String.ofList_inj]

/-- Without a mark the whole prefix is the scope of the condition. -/
theorem parseFilter_unmarked (hbar : '|' ∉ p) (hblank : trim p ≠ []) (h : ∀ x ∈ p, isMark x = false) :
    parseFilter (filterUnder p) =
      .ok [(some (String.ofList (trim p)), { conditions := [⟨"c", "eq", "1"⟩] })] := by
  let c : Clause := ⟨some (trimLeft p), ['c'], .eq, ['1']⟩
  have hscope : ∀ s ∈ c.scope, trim s ≠ [] ∧ ∀ x ∈ s, isMark x = false := by
    rintro s ⟨⟩
    exact ⟨by rwa [trim_trimLeft], unmarked_trimLeft_iff.2 h⟩
  have hlegible : c.Legible := by
    have hcolumn : ∀ x ∈ ['c'], isMark x = false := by decide
    have hlongest : Operator.eq.Longest (Operator.eq.symbol ++ ['1']) := (Operator.longest_iff _ _).2 (by decide)
    exact ⟨⟨hscope, hcolumn, hlongest⟩, List.cons_ne_nil _ _, (by decide : '\n' ∉ ['1'])⟩
  have htext : c.text = trimLeft p ++ ':' :: "c=1".toList := rfl
  have hplace : c.placed.1 = some (String.ofList (trim p)) := by
    rw [← trim_trimLeft p]
    rfl
  refine (parseFilter_single (segments_filterUnder hbar hblank)).2 ⟨c, ⟨hlegible, htext⟩, ?_⟩
  rw [alone, hplace]
  rfl

/-- With a mark the filter is read only if the prefix is a clause of its own. -/
theorem parseFilter_marked (hbar : '|' ∉ p) (hequals : '=' ∉ p) (hblank : trim p ≠ []) (h : ∃ x ∈ p, isMark x = true)
    {scopes : Scopes} : parseFilter (filterUnder p) = .ok scopes ↔
      ∃ d : Clause, d.Legible ∧ d.text = trimLeft p ∧ alone (d.extended (':' :: "c=1".toList)) = scopes := by
  have hmarked : ∃ x ∈ trimLeft p, isMark x = true := by
    obtain ⟨x, hx, hmark⟩ := h
    exact ⟨x, (mem_trimLeft_iff (isBlank_of_isMark hmark)).2 hx, hmark⟩
  have hequals' : '=' ∉ trimLeft p := fun hm => hequals (trimLeft_subset p hm)
  rw [parseFilter_single (segments_filterUnder hbar hblank)]
  simp only [clause_under_iff hequals' hmarked (by decide : '\n' ∉ "c=1".toList)]
  constructor
  · rintro ⟨c, ⟨d, hlegible, htext, rfl⟩, hscopes⟩
    exact ⟨d, hlegible, htext, hscopes⟩
  · rintro ⟨d, hlegible, htext, hscopes⟩
    exact ⟨_, ⟨d, hlegible, htext, rfl⟩, hscopes⟩

/-- There is a sign in a comparison without an equals sign. -/
theorem Compares.sign {column : List Char} (hequals : '=' ∉ p) (h : Compares column p) : ∃ x ∈ p, isSign x = true := by
  obtain ⟨d, -, htext, -⟩ := h
  obtain ⟨m, r, hsymbol, hmark, hcolon⟩ := d.operator.symbol_marked
  have hmem : m ∈ p := by
    rw [← mem_trimLeft_iff (isBlank_of_isMark hmark), ← htext, text_eq_front, front, hsymbol]
    simp
  rcases isMark_iff.1 hmark with rfl | rfl | hsign
  · exact absurd rfl hcolon
  · exact absurd hmem hequals
  · exact ⟨m, hmem, hsign⟩

/-- The condition under the prefix is on `c` if there is no mark in it, or the prefix is a comparison of `c` already. -/
theorem conditionOn_filterUnder_iff (hbar : '|' ∉ p) (hequals : '=' ∉ p) (hblank : trim p ≠ []) :
    (∃ scopes, parseFilter (filterUnder p) = .ok scopes ∧ ConditionOn "c" scopes) ↔
      (∀ x ∈ p, isMark x = false) ∨ Compares ['c'] p := by
  by_cases h : ∀ x ∈ p, isMark x = false
  · have hread := parseFilter_unmarked hbar hblank h
    exact iff_of_true ⟨_, hread, by simp [ConditionOn]⟩ (.inl h)
  · have hmarked : ∃ x ∈ p, isMark x = true := by simpa using h
    simp only [parseFilter_marked hbar hequals hblank hmarked, h, false_or]
    constructor
    · rintro ⟨scopes, ⟨d, hlegible, htext, rfl⟩, hon⟩
      exact ⟨d, hlegible, htext, (conditionOn_alone (d.extended _) ['c']).1 hon⟩
    · rintro ⟨d, hlegible, htext, hcolumn⟩
      exact ⟨_, ⟨d, hlegible, htext, rfl⟩, (conditionOn_alone (d.extended _) ['c']).2 hcolumn⟩

/-! ## What the pagination sets -/

/-- Without a colon the whole prefix is the scope of the limit. -/
theorem parsePagination_unscoped (hbar : '|' ∉ p) (hequals : '=' ∉ p) (hblank : trim p ≠ []) (h : ':' ∉ p) :
    parsePagination (pagingUnder p) = .ok [(some (String.ofList (trim p)), { limit := some 1 })] := by
  let c : PagingClause := ⟨some (trimLeft p), "limit".toList, ['1']⟩
  have hdivided : c.Divided := by
    refine ⟨?_, (by decide : '=' ∉ "limit".toList), fun h => nomatch h⟩
    rintro s ⟨⟩
    exact ⟨fun hm => h (trimLeft_subset p hm), fun hm => hequals (trimLeft_subset p hm)⟩
  have hplace : c.place = some (String.ofList (trim p)) := by
    have hgiven : trim (trimLeft p) ≠ [] := by rwa [trim_trimLeft]
    rw [← trim_trimLeft p]
    exact scopeOf_eq_some hgiven
  have hword : c.word = "limit" := show String.ofList (lowerAscii (trim "limit".toList)) = _ by decide
  have hvalue : Number.readInt? (trim ['1']) = some 1 := by decide
  have hsets : c.Sets (.limit 1) := .limit hword hvalue (by decide)
  have hread : readSetting (trimLeft p ++ ':' :: "limit=1".toList) = .ok (some (String.ofList (trim p)), .limit 1) :=
    readSetting_eq_ok_iff.2 ⟨c, hdivided, rfl, hplace, hsets⟩
  rw [parsePagination_eq, segments_pagingUnder hbar hblank, List.mapM_cons, List.mapM_nil, hread]
  simp [gather, about, Setting.apply, ScopeArgs.empty, bind, Except.bind, pure, Except.pure, Except.map,
    List.eraseDups_cons]

/-- With a colon in the prefix the key has one too, and no key is known that has. -/
theorem parsePagination_scoped (hbar : '|' ∉ p) (hequals : '=' ∉ p) (hblank : trim p ≠ []) (h : ':' ∈ p) :
    ∃ e, parsePagination (pagingUnder p) = .error e := by
  have hequals' : '=' ∉ trimLeft p := fun hm => hequals (trimLeft_subset p hm)
  have hcolon : ':' ∈ trimLeft p := (mem_trimLeft_iff (by decide)).2 h
  cases hcut : cut? ':' (trimLeft p) with
  | none => exact absurd hcolon (cut?_eq_none hcut)
  | some parts =>
    obtain ⟨hparts, hscope⟩ := eq_of_cut? hcut
    rw [hparts] at hequals'
    let c : PagingClause := ⟨some parts.1, parts.2 ++ ':' :: "limit".toList, ['1']⟩
    have hdivided : c.Divided := by
      refine ⟨?_, ?_, fun h => nomatch h⟩
      · rintro s ⟨⟩
        exact ⟨hscope, fun hm => hequals' (List.mem_append_left _ hm)⟩
      · have hlimit : '=' ∉ ':' :: "limit".toList := by decide
        intro hm
        rcases List.mem_append.1 hm with hm | hm
        · exact hequals' (List.mem_append_right _ (List.mem_cons_of_mem _ hm))
        · exact hlimit hm
    have htext : c.text = trimLeft p ++ ':' :: "limit=1".toList := by
      rw [hparts]
      simp [PagingClause.text, PagingClause.body, c]
    have hunknown : ¬ c.Known := by
      have hword : ':' ∈ c.word.toList := by
        have hkey : ':' ∈ trim c.key := (mem_trim_iff (by decide)).2 (List.mem_append_right _ List.mem_cons_self)
        rw [PagingClause.word, String.toList_ofList]
        exact List.mem_map.2 ⟨':', hkey, by decide⟩
      rintro (hknown | hknown | hknown) <;> rw [hknown] at hword <;> revert hword <;> decide
    have hread : readSetting (trimLeft p ++ ':' :: "limit=1".toList) =
        .error (.invalidPagination (String.ofList c.text)) := by
      rw [← htext, readSetting_text hdivided, readSettingOf_unknown hunknown]
      rfl
    refine ⟨.invalidPagination (String.ofList c.text), ?_⟩
    rw [parsePagination_eq, segments_pagingUnder hbar hblank, List.mapM_cons, hread]
    rfl

theorem parsePagination_pagingUnder_iff (hbar : '|' ∉ p) (hequals : '=' ∉ p) (hblank : trim p ≠ []) :
    (∃ scopes, parsePagination (pagingUnder p) = .ok scopes) ↔ ':' ∉ p := by
  constructor
  · rintro ⟨scopes, hscopes⟩ hcolon
    obtain ⟨e, he⟩ := parsePagination_scoped hbar hequals hblank hcolon
    cases he.symm.trans hscopes
  · intro hcolon
    exact ⟨_, parsePagination_unscoped hbar hequals hblank hcolon⟩

/-! ## Both together -/

theorem placedAlike_of_unmarked (hbar : '|' ∉ p) (hequals : '=' ∉ p) (hblank : trim p ≠ [])
    (h : ∀ x ∈ p, isMark x = false) : PlacedAlike p := by
  have hfilter := parseFilter_unmarked hbar hblank h
  have hpaging := parsePagination_unscoped hbar hequals hblank ((unmarked_iff hequals).1 h).1
  refine ⟨iff_of_true ⟨_, hfilter, by simp [ConditionOn]⟩ ⟨_, hpaging⟩, ?_⟩
  intro s t hs _ ht
  cases hfilter.symm.trans hs
  cases hpaging.symm.trans ht
  exact ⟨some (String.ofList (trim p)), rfl, rfl⟩

/-- A comparison without a colon has no scope, so the filter places it at the root, and the pagination does not. -/
theorem not_placedAlike_of_compares (hbar : '|' ∉ p) (hequals : '=' ∉ p) (hblank : trim p ≠ []) (hcolon : ':' ∉ p)
    (h : Compares ['c'] p) : ¬ PlacedAlike p := by
  intro halike
  obtain ⟨x, hx, hsign⟩ := h.sign hequals
  obtain ⟨d, hlegible, htext, hcolumn⟩ := h
  have hroot : d.scope = none := by
    rw [Option.eq_none_iff_forall_not_mem]
    intro s hs
    have hcolon' : ':' ∈ trimLeft p := by
      rw [← htext, text_eq_front, front, hs]
      simp
    exact hcolon ((mem_trimLeft_iff (by decide)).1 hcolon')
  have hfilter := (parseFilter_marked hbar hequals hblank ⟨x, hx, isMark_iff.2 (.inr (.inr hsign))⟩).2
    ⟨d, hlegible, htext, rfl⟩
  have hpaging := parsePagination_unscoped hbar hequals hblank hcolon
  obtain ⟨k, hk, hk'⟩ := halike.scope _ _ hfilter ((conditionOn_alone (d.extended _) ['c']).2 hcolumn) hpaging
  have hplace : (d.extended (':' :: "c=1".toList)).placed.1 = none := by
    rw [Clause.placed, Clause.extended, hroot]
    rfl
  have hkeys : Assoc.keys (alone (d.extended (':' :: "c=1".toList))) = [none] := by
    rw [alone, hplace]
    rfl
  cases (hkeys.symm.trans hk).trans hk'.symm

/-- What stands under a prefix, and when a filter and a pagination place it alike. -/
theorem prefix_placed_alike_iff (hbar : '|' ∉ p) (hequals : '=' ∉ p) (hblank : trim p ≠ []) :
    ((∀ x ∈ p, isMark x = false) →
      parseFilter (filterUnder p) = .ok [(some (String.ofList (trim p)), { conditions := [⟨"c", "eq", "1"⟩] })] ∧
      parsePagination (pagingUnder p) = .ok [(some (String.ofList (trim p)), { limit := some 1 })]) ∧
    ((∃ scopes, parsePagination (pagingUnder p) = .ok scopes) ↔ ':' ∉ p) ∧
    ((∃ scopes, parseFilter (filterUnder p) = .ok scopes ∧ ConditionOn "c" scopes) ↔
      (∀ x ∈ p, isMark x = false) ∨ Compares ['c'] p) ∧
    (PlacedAlike p ↔ (∀ x ∈ p, isSign x = false) ∨ ':' ∈ p ∧ ¬ Compares ['c'] p) := by
  have hpaging := parsePagination_pagingUnder_iff hbar hequals hblank
  have hfilter := conditionOn_filterUnder_iff hbar hequals hblank
  refine ⟨fun h => ⟨parseFilter_unmarked hbar hblank h,
    parsePagination_unscoped hbar hequals hblank ((unmarked_iff hequals).1 h).1⟩, hpaging, hfilter, ?_⟩
  by_cases hcolon : ':' ∈ p
  · -- the pagination refuses the prefix, so the filter has to
    have hmarked : ¬ ∀ x ∈ p, isMark x = false := fun h => ((unmarked_iff hequals).1 h).1 hcolon
    have hrefused : ¬ ∃ scopes, parsePagination (pagingUnder p) = .ok scopes := fun h => hpaging.1 h hcolon
    constructor
    · intro halike
      exact .inr ⟨hcolon, fun h => hrefused (halike.accepted.1 (hfilter.2 (.inr h)))⟩
    · intro h
      have hnone : ¬ Compares ['c'] p := by
        intro hcompares
        rcases h with hsigns | ⟨-, hnone⟩
        · obtain ⟨x, hx, hsign⟩ := hcompares.sign hequals
          cases hsign.symm.trans (hsigns x hx)
        · exact hnone hcompares
      have hunread : ¬ ∃ scopes, parseFilter (filterUnder p) = .ok scopes ∧ ConditionOn "c" scopes :=
        fun h => (hfilter.1 h).elim hmarked hnone
      exact ⟨iff_of_false hunread hrefused, fun s t hs hon _ => absurd ⟨s, hs, hon⟩ hunread⟩
  · -- the pagination takes all of the prefix
    constructor
    · intro halike
      rcases hfilter.1 (halike.accepted.2 (hpaging.2 hcolon)) with hunmarked | hcompares
      · exact .inl ((unmarked_iff hequals).1 hunmarked).2
      · exact absurd halike (not_placedAlike_of_compares hbar hequals hblank hcolon hcompares)
    · rintro (hsigns | ⟨hcolon', -⟩)
      · exact placedAlike_of_unmarked hbar hequals hblank ((unmarked_iff hequals).2 ⟨hcolon, hsigns⟩)
      · exact absurd hcolon' hcolon

end

/-- A plain name is placed alike. -/
theorem posts_placed_alike : '|' ∉ "posts".toList ∧ '=' ∉ "posts".toList ∧ trim "posts".toList ≠ [] ∧
    PlacedAlike "posts".toList := by
  have hsigns : ∀ x ∈ "posts".toList, isSign x = false := by decide
  exact ⟨by decide, by decide, by decide,
    (prefix_placed_alike_iff (by decide) (by decide) (by decide)).2.2.2.2 (.inl hsigns)⟩

/-- The filter reads `t>1:c=1` as a condition on `t` at the root, and the pagination takes `t>1` for a scope. No prefix at
all before the colon is refused by the filter, and the pagination takes it for the root. -/
theorem not_placed_alike :
    ('|' ∉ "t>1".toList ∧ '=' ∉ "t>1".toList ∧ ¬ PlacedAlike "t>1".toList) ∧ ¬ PlacedAlike [] := by
  refine ⟨⟨by decide, by decide, fun halike => ?_⟩, fun halike => ?_⟩
  · have hpaging : parsePagination (pagingUnder "t>1".toList) = .ok [(some "t>1", { limit := some 1 })] := by decide
    have hfilter : parseFilter (filterUnder "t>1".toList) =
        .ok [(none, { conditions := [⟨"t", "gt", "1:c=1"⟩] })] := by decide
    obtain ⟨scopes, hscopes, hon⟩ := halike.accepted.2 ⟨_, hpaging⟩
    cases hfilter.symm.trans hscopes
    simp [ConditionOn] at hon
  · have hpaging : parsePagination (pagingUnder []) = .ok [(none, { limit := some 1 })] := by decide
    have hfilter : parseFilter (filterUnder []) = .error (.invalidFilter ":c=1") := by decide
    obtain ⟨scopes, hscopes, -⟩ := halike.accepted.2 ⟨_, hpaging⟩
    cases hfilter.symm.trans hscopes

end Request

end TableGraph
