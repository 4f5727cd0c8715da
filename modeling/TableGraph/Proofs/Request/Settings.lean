import TableGraph.Proofs.Request.Gathering
import TableGraph.Proofs.Text.Pieces

/-! # Segments of a pagination

A segment of a pagination is written `[scope:]key=value`, and a paging clause holds these parts as they are written
(`PagingClause.text`). The text before the first colon is a scope if there is no equals sign in it, so a segment is
divided in one way only (`takeScope_text`). What a segment sets is what its clause sets (`readSetting_eq_ok_iff`), and
a segment that sets nothing has a fault (`readSetting_eq_error_iff`).
-/
namespace TableGraph
open Text

/-- What a segment of a pagination sets for its scope. -/
inductive Setting where
  | limit (n : Int)
  | offset (n : Int)
  | order (column : String) (direction : Direction)

/-- A later limit and a later offset replace the earlier ones; a later order comes behind them. -/
def Setting.apply (a : ScopeArgs String) : Setting → ScopeArgs String
  | .limit n => { a with limit := some n }
  | .offset n => { a with offset := n }
  | .order column direction => { a with order := a.order ++ [(column, direction)] }

def Direction.word : Direction → String
  | .asc => "asc"
  | .desc => "desc"

/-- A segment of a pagination in its parts. -/
structure PagingClause where
  scope : Option (List Char)
  key : List Char
  value : List Char

namespace PagingClause

def body (c : PagingClause) : List Char := c.key ++ '=' :: c.value

def text (c : PagingClause) : List Char :=
  match c.scope with
  | none => c.body
  | some scope => scope ++ ':' :: c.body

/-- The scope that is set; a blank one is the root. -/
def place (c : PagingClause) : Option String := c.scope.bind Request.scopeOf

/-- The first colon before any equals sign ends the scope, and the first equals sign after it ends the key. -/
structure Divided (c : PagingClause) : Prop where
  scope : ∀ s ∈ c.scope, ':' ∉ s ∧ '=' ∉ s
  key : '=' ∉ c.key
  unscoped : c.scope = none → ':' ∉ c.key

/-- The key without the blanks around it, in lower case. -/
def word (c : PagingClause) : String := String.ofList (lowerAscii (trim c.key))

/-- What is set: a count that is an integer and not negative, or an order of a column and maybe a direction. -/
inductive Sets (c : PagingClause) : Setting → Prop where
  | limit {n : Int} : c.word = "limit" → Number.readInt? (trim c.value) = some n → 0 ≤ n → c.Sets (.limit n)
  | offset {n : Int} : c.word = "offset" → Number.readInt? (trim c.value) = some n → 0 ≤ n → c.Sets (.offset n)
  | column {column : List Char} : c.word = "orderby" → words c.value = [column] →
      c.Sets (.order (String.ofList column) .asc)
  | directed {column direction : List Char} {d : Direction} : c.word = "orderby" →
      words c.value = [column, direction] → String.ofList (lowerAscii direction) = d.word →
      c.Sets (.order (String.ofList column) d)

def Known (c : PagingClause) : Prop := c.word = "limit" ∨ c.word = "offset" ∨ c.word = "orderby"

/-- What can be wrong with the value of a known key. -/
inductive Faulty (c : PagingClause) : RequestError → Prop where
  | notInteger : c.word = "limit" ∨ c.word = "offset" → Number.readInt? (trim c.value) = none →
      c.Faulty (.notInteger c.word (String.ofList c.text))
  | negative {n : Int} : c.word = "limit" ∨ c.word = "offset" → Number.readInt? (trim c.value) = some n → n < 0 →
      c.Faulty (.negative c.word (String.ofList c.text))
  | unordered : c.word = "orderby" → (words c.value).length ≠ 1 → (words c.value).length ≠ 2 →
      c.Faulty (.invalidOrder (String.ofList c.text))
  | undirected {column direction : List Char} : c.word = "orderby" → words c.value = [column, direction] →
      (∀ d : Direction, String.ofList (lowerAscii direction) ≠ d.word) →
      c.Faulty (.invalidDirection (String.ofList direction))

/-- The segment is one that sets something. -/
def Legible (c : PagingClause) : Prop := c.Divided ∧ ∃ s, c.Sets s

end PagingClause

/-- What is wrong with a segment of a pagination: it has no known key, or its value is not one for its key. -/
inductive PagingFault (segment : List Char) : RequestError → Prop where
  | shapeless : (¬ ∃ c : PagingClause, c.Divided ∧ c.text = segment ∧ c.Known) →
      PagingFault segment (.invalidPagination (String.ofList segment))
  | value {c : PagingClause} {e : RequestError} : c.Divided → c.text = segment → c.Faulty e → PagingFault segment e

namespace Request
open PagingClause

/-! ## Division -/

/-- Of two separators in a text, the one that comes first stands before the other. -/
theorem mem_front_iff {x y : Char} (hne : x ≠ y) {a r k v : List Char} (h : a ++ x :: r = k ++ y :: v) (hx : x ∉ a)
    (hy : y ∉ k) : y ∈ a ↔ x ∉ k := by
  rcases List.append_eq_append_iff.1 h with ⟨more, hk, hmore⟩ | ⟨more, ha, hmore⟩
  · cases more with
    | nil => exact absurd (List.cons.inj hmore).1 hne
    | cons z more =>
      obtain ⟨rfl, -⟩ := List.cons.inj hmore
      have hxk : x ∈ k := hk ▸ List.mem_append_right a List.mem_cons_self
      have hya : y ∉ a := fun hmem => hy (hk ▸ List.mem_append_left _ hmem)
      exact iff_of_false hya (not_not_intro hxk)
  · cases more with
    | nil => exact absurd (List.cons.inj hmore).1.symm hne
    | cons z more =>
      obtain ⟨rfl, -⟩ := List.cons.inj hmore
      have hya : y ∈ a := ha ▸ List.mem_append_right k List.mem_cons_self
      have hxk : x ∉ k := fun hmem => hx (ha ▸ List.mem_append_left _ hmem)
      exact iff_of_true hya hxk

theorem takeScope_text {c : PagingClause} (hc : c.Divided) : takeScope c.text = (c.place, c.body) := by
  cases hscope : c.scope with
  | some scope =>
    obtain ⟨hcolon, hequals⟩ := hc.scope scope hscope
    rw [text, hscope, takeScope, cut?_append hcolon]
    simp only [if_neg hequals, place, hscope]
    rfl
  | none =>
    have htext : c.text = c.body := by rw [text, hscope]
    have hplace : c.place = none := by rw [place, hscope]; rfl
    rw [htext, hplace, takeScope]
    cases hcut : cut? ':' c.body with
    | none => rfl
    | some p =>
      -- the colon stands in the value, so the equals sign comes before it
      obtain ⟨hbody, hcolon⟩ := eq_of_cut? hcut
      have hequals : '=' ∈ p.1 := (mem_front_iff (by decide) hbody.symm hcolon hc.key).2 (hc.unscoped hscope)
      simp only [if_pos hequals]

theorem cut?_body {c : PagingClause} (hc : c.Divided) : cut? '=' c.body = some (c.key, c.value) := cut?_append hc.key _

/-- A segment has one key only. -/
theorem key_eq_of_text {c d : PagingClause} (hc : c.Divided) (hd : d.Divided) (h : c.text = d.text) :
    c.key = d.key := by
  have hbody : (c.place, c.body) = (d.place, d.body) := by rw [← takeScope_text hc, h, takeScope_text hd]
  have hcut : some (c.key, c.value) = some (d.key, d.value) := by
    rw [← cut?_body hc, (Prod.mk.inj hbody).2, cut?_body hd]
  exact (Prod.mk.inj (Option.some.inj hcut)).1

/-- A segment with an equals sign behind its scope can be divided. -/
theorem exists_divided {segment key value : List Char} (h : cut? '=' (takeScope segment).2 = some (key, value)) :
    ∃ c : PagingClause, c.Divided ∧ c.text = segment := by
  obtain ⟨hbody, hkey⟩ := eq_of_cut? h
  have hunscoped (hsegment : segment = key ++ '=' :: value) (hcolon : ':' ∉ key) :
      ∃ c : PagingClause, c.Divided ∧ c.text = segment :=
    ⟨⟨none, key, value⟩, ⟨(fun _ hs => nomatch hs), hkey, fun _ => hcolon⟩, hsegment.symm⟩
  unfold takeScope at hbody
  split at hbody
  · rename_i head rest hcut
    obtain ⟨hsegment, hcolon⟩ := eq_of_cut? hcut
    split at hbody
    · rename_i hequals
      exact hunscoped hbody ((mem_front_iff (by decide) (hsegment.symm.trans hbody) hcolon hkey).1 hequals)
    · rename_i hequals
      refine ⟨⟨some head, key, value⟩, ⟨?_, hkey, fun h => nomatch h⟩, ?_⟩
      · rintro s ⟨⟩
        exact ⟨hcolon, hequals⟩
      · rw [hsegment, show rest = key ++ '=' :: value from hbody]
        rfl
  · rename_i hcut
    have hsegment : segment = key ++ '=' :: value := hbody
    refine hunscoped hsegment fun hmem => cut?_eq_none hcut ?_
    rw [hsegment]
    exact List.mem_append_left _ hmem

/-! ## Reading -/

/-- What a key and its value set. -/
def readSettingOf (segment key value : List Char) : Except RequestError Setting :=
  match String.ofList (lowerAscii (trim key)) with
  | "limit" => (readCount "limit" segment value).map .limit
  | "offset" => (readCount "offset" segment value).map .offset
  | "orderby" => (readOrder segment value).map fun o => .order o.1 o.2
  | _ => .error (.invalidPagination (String.ofList segment))

/-- What a segment sets, and for which scope. -/
def readSetting (segment : List Char) : Except RequestError (Option String × Setting) :=
  match cut? '=' (takeScope segment).2 with
  | none => .error (.invalidPagination (String.ofList segment))
  | some (key, value) => (readSettingOf segment key value).map fun s => ((takeScope segment).1, s)

theorem readSetting_text {c : PagingClause} (hc : c.Divided) :
    readSetting c.text = (readSettingOf c.text c.key c.value).map fun s => (c.place, s) := by
  rw [readSetting, takeScope_text hc]
  simp only [cut?_body hc]

theorem addPaging_eq (scopes : Scopes) (segment : List Char) :
    addPaging scopes segment = (readSetting segment).map fun p => update scopes p.1 fun a => p.2.apply a := by
  unfold addPaging readSetting
  dsimp only
  cases cut? '=' (takeScope segment).2 with
  | none => rfl
  | some p =>
    unfold readSettingOf
    dsimp only
    generalize String.ofList (lowerAscii (trim p.1)) = word
    split
    · cases readCount "limit" segment p.2 <;> rfl
    · cases readCount "offset" segment p.2 <;> rfl
    · cases readOrder segment p.2 <;> rfl
    · simp_all [Except.map]

theorem place_of_readSetting {segment : List Char} {p : Option String × Setting} (h : readSetting segment = .ok p) :
    p.1 = pagingScope segment := by
  unfold readSetting at h
  split at h
  · cases h
  · obtain ⟨s, -, rfl⟩ := Chain.map_eq_ok.1 h
    rfl

theorem adds_paging : Adds addPaging pagingScope := by
  intro segment
  cases hread : readSetting segment with
  | error e =>
    refine .inl ⟨e, fun scopes => ?_⟩
    rw [addPaging_eq, hread, Except.map]
  | ok p =>
    refine .inr ⟨fun a => p.2.apply (a.getD .empty), rfl, fun scopes => ?_⟩
    rw [addPaging_eq, hread, Except.map, place_of_readSetting hread, update]

theorem parsePagination_eq (raw : List Char) :
    parsePagination raw = ((segments raw).mapM readSetting).map (gather Setting.apply) := by
  have hadd : addPaging = fun scopes segment =>
      (readSetting segment).map fun p => update scopes p.1 fun a => p.2.apply a :=
    funext fun scopes => funext fun segment => addPaging_eq scopes segment
  rw [parsePagination, hadd, Chain.foldlM_read]
  congr 1
  exact funext fun said => foldl_update Setting.apply said

/-! ## Keys and values -/

theorem readCount_ok {key : String} {segment value : List Char} {n : Int} (h : Number.readInt? (trim value) = some n)
    (hn : 0 ≤ n) : readCount key segment value = .ok n := by
  rw [readCount, h]
  exact if_neg (Int.not_lt.2 hn)

theorem readCount_negative {key : String} {segment value : List Char} {n : Int}
    (h : Number.readInt? (trim value) = some n) (hn : n < 0) :
    readCount key segment value = .error (.negative key (String.ofList segment)) := by
  rw [readCount, h]
  exact if_pos hn

theorem readCount_unread {key : String} {segment value : List Char} (h : Number.readInt? (trim value) = none) :
    readCount key segment value = .error (.notInteger key (String.ofList segment)) := by
  rw [readCount, h]

theorem readOrder_column {segment value column : List Char} (h : words value = [column]) :
    readOrder segment value = .ok (String.ofList column, .asc) := by
  rw [readOrder, h]

theorem readOrder_directed {segment value column direction : List Char} (h : words value = [column, direction])
    {d : Direction} (hd : String.ofList (lowerAscii direction) = d.word) :
    readOrder segment value = .ok (String.ofList column, d) := by
  rw [readOrder, h]
  dsimp only
  rw [hd]
  cases d <;> rfl

theorem readOrder_undirected {segment value column direction : List Char} (h : words value = [column, direction])
    (hd : ∀ d : Direction, String.ofList (lowerAscii direction) ≠ d.word) :
    readOrder segment value = .error (.invalidDirection (String.ofList direction)) := by
  rw [readOrder, h]
  dsimp only
  split
  · exact absurd ‹_› (hd .asc)
  · exact absurd ‹_› (hd .desc)
  · rfl

theorem readOrder_unordered {segment value : List Char} (h1 : (words value).length ≠ 1)
    (h2 : (words value).length ≠ 2) : readOrder segment value = .error (.invalidOrder (String.ofList segment)) := by
  unfold readOrder
  split
  · rename_i h
    rw [h] at h1
    exact absurd rfl h1
  · rename_i h
    rw [h] at h2
    exact absurd rfl h2
  · rfl

section
variable {c : PagingClause}

theorem readSettingOf_limit (h : c.word = "limit") :
    readSettingOf c.text c.key c.value = (readCount c.word c.text c.value).map .limit := by
  rw [h, readSettingOf, show String.ofList _ = "limit" from h]
  rfl

theorem readSettingOf_offset (h : c.word = "offset") :
    readSettingOf c.text c.key c.value = (readCount c.word c.text c.value).map .offset := by
  rw [h, readSettingOf, show String.ofList _ = "offset" from h]
  rfl

theorem readSettingOf_order (h : c.word = "orderby") :
    readSettingOf c.text c.key c.value = (readOrder c.text c.value).map fun o => .order o.1 o.2 := by
  rw [readSettingOf, show String.ofList _ = "orderby" from h]
  rfl

theorem readSettingOf_unknown (h : ¬ c.Known) :
    readSettingOf c.text c.key c.value = .error (.invalidPagination (String.ofList c.text)) := by
  unfold readSettingOf
  split
  · exact absurd (.inl ‹_›) h
  · exact absurd (.inr (.inl ‹_›)) h
  · exact absurd (.inr (.inr ‹_›)) h
  · rfl

theorem readSettingOf_of_sets {s : Setting} (h : c.Sets s) : readSettingOf c.text c.key c.value = .ok s := by
  cases h with
  | limit hword hread hn => rw [readSettingOf_limit hword, readCount_ok hread hn, Except.map]
  | offset hword hread hn => rw [readSettingOf_offset hword, readCount_ok hread hn, Except.map]
  | column hword hwords => rw [readSettingOf_order hword, readOrder_column hwords, Except.map]
  | directed hword hwords hd => rw [readSettingOf_order hword, readOrder_directed hwords hd, Except.map]

theorem readSettingOf_of_faulty {e : RequestError} (h : c.Faulty e) :
    readSettingOf c.text c.key c.value = .error e := by
  have hcount (hword : c.word = "limit" ∨ c.word = "offset")
      (h : readCount c.word c.text c.value = .error e) : readSettingOf c.text c.key c.value = .error e := by
    rcases hword with hword | hword
    · rw [readSettingOf_limit hword, h, Except.map]
    · rw [readSettingOf_offset hword, h, Except.map]
  cases h with
  | notInteger hword hread => exact hcount hword (readCount_unread hread)
  | negative hword hread hn => exact hcount hword (readCount_negative hread hn)
  | unordered hword h1 h2 => rw [readSettingOf_order hword, readOrder_unordered h1 h2, Except.map]
  | undirected hword hwords hd => rw [readSettingOf_order hword, readOrder_undirected hwords hd, Except.map]

/-- With a known key something is set, or the value has a fault. -/
theorem sets_or_faulty (h : c.Known) : (∃ s, c.Sets s) ∨ ∃ e, c.Faulty e := by
  have hcount (hword : c.word = "limit" ∨ c.word = "offset") :
      (∃ n, Number.readInt? (trim c.value) = some n ∧ 0 ≤ n) ∨ ∃ e, c.Faulty e := by
    cases hread : Number.readInt? (trim c.value) with
    | none => exact .inr ⟨_, .notInteger hword hread⟩
    | some n =>
      by_cases hn : n < 0
      · exact .inr ⟨_, .negative hword hread hn⟩
      · exact .inl ⟨n, rfl, Int.not_lt.1 hn⟩
  rcases h with hword | hword | hword
  · exact (hcount (.inl hword)).imp_left fun ⟨n, hread, hn⟩ => ⟨_, .limit hword hread hn⟩
  · exact (hcount (.inr hword)).imp_left fun ⟨n, hread, hn⟩ => ⟨_, .offset hword hread hn⟩
  · match hwords : words c.value with
    | [] => exact .inr ⟨_, .unordered hword (by simp [hwords]) (by simp [hwords])⟩
    | [column] => exact .inl ⟨_, .column hword hwords⟩
    | [column, direction] =>
      by_cases hd : ∃ d : Direction, String.ofList (lowerAscii direction) = d.word
      · obtain ⟨d, hd⟩ := hd
        exact .inl ⟨_, .directed hword hwords hd⟩
      · exact .inr ⟨_, .undirected hword hwords fun d h => hd ⟨d, h⟩⟩
    | _ :: _ :: _ :: _ => exact .inr ⟨_, .unordered hword (by simp [hwords]) (by simp [hwords])⟩

end

/-! ## What a segment sets -/

theorem readSetting_eq_ok_iff {segment : List Char} {place : Option String} {s : Setting} :
    readSetting segment = .ok (place, s) ↔
      ∃ c : PagingClause, c.Divided ∧ c.text = segment ∧ c.place = place ∧ c.Sets s := by
  constructor
  · intro h
    cases hcut : cut? '=' (takeScope segment).2 with
    | none =>
      rw [readSetting, hcut] at h
      cases h
    | some p =>
      obtain ⟨c, hc, rfl⟩ := exists_divided hcut
      rw [readSetting_text hc] at h
      obtain ⟨t, ht, he⟩ := Chain.map_eq_ok.1 h
      obtain ⟨hplace, rfl⟩ := Prod.mk.inj he
      by_cases hknown : c.Known
      · rcases sets_or_faulty hknown with ⟨t, hsets⟩ | ⟨e, hfaulty⟩
        · obtain rfl := Except.ok.inj ((readSettingOf_of_sets hsets).symm.trans ht)
          exact ⟨c, hc, rfl, hplace, hsets⟩
        · cases (readSettingOf_of_faulty hfaulty).symm.trans ht
      · cases (readSettingOf_unknown hknown).symm.trans ht
  · rintro ⟨c, hc, rfl, rfl, hsets⟩
    rw [readSetting_text hc, readSettingOf_of_sets hsets, Except.map]

/-- A segment that sets nothing has a fault, and is refused for it. -/
theorem readSetting_eq_error_iff {segment : List Char} {e : RequestError} :
    readSetting segment = .error e ↔ PagingFault segment e := by
  constructor
  · intro h
    cases hcut : cut? '=' (takeScope segment).2 with
    | none =>
      rw [readSetting, hcut] at h
      obtain rfl := Except.error.inj h
      refine .shapeless ?_
      rintro ⟨c, hc, rfl, -⟩
      rw [takeScope_text hc, cut?_body hc] at hcut
      cases hcut
    | some p =>
      obtain ⟨c, hc, rfl⟩ := exists_divided hcut
      rw [readSetting_text hc, Chain.map_eq_error] at h
      by_cases hknown : c.Known
      · rcases sets_or_faulty hknown with ⟨t, hsets⟩ | ⟨fault, hfaulty⟩
        · cases (readSettingOf_of_sets hsets).symm.trans h
        · obtain rfl := Except.error.inj ((readSettingOf_of_faulty hfaulty).symm.trans h)
          exact .value hc rfl hfaulty
      · obtain rfl := Except.error.inj ((readSettingOf_unknown hknown).symm.trans h)
        refine .shapeless ?_
        rintro ⟨d, hd, htext, hd'⟩
        exact hknown (by rwa [Known, word, key_eq_of_text hc hd htext.symm])
  · intro h
    cases h with
    | shapeless hno =>
      cases hcut : cut? '=' (takeScope segment).2 with
      | none => rw [readSetting, hcut]
      | some p =>
        obtain ⟨c, hc, rfl⟩ := exists_divided hcut
        have hunknown : ¬ c.Known := fun hknown => hno ⟨c, hc, rfl, hknown⟩
        rw [readSetting_text hc, readSettingOf_unknown hunknown, Except.map]
    | value hc htext hfaulty =>
      subst htext
      rw [readSetting_text hc, readSettingOf_of_faulty hfaulty, Except.map]

end Request
end TableGraph
