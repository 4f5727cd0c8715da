import TableGraph.Proofs.Request.Clauses
import TableGraph.Proofs.Request.Grouping

/-! # The grammar of filters

A filter is accepted if each of its segments is a clause that can be read, and it comes to what the clauses say by
scope. The grammar asks for clauses with a column that is not blank and with any value. Reading keeps to it but for
two slips, and departs from it exactly if the filter shows one of them and not the other
(`filter_follows_grammar_iff`): a column of blanks after a scope is taken, and a value with a line feed is not.
-/
namespace TableGraph
open Text Request

namespace Clause

/-- What a clause says. -/
def placed (c : Clause) : Placed := c.trimmed.condition

/-- A clause that is divided like this; its column may be blank, but there is one. -/
def Formed (c : Clause) : Prop := c.Divided ∧ c.column ≠ []

theorem Documented.formed {c : Clause} (h : c.Documented) : c.Formed := ⟨h.1, fun hnil => h.2 (by rw [hnil]; rfl)⟩

theorem Legible.formed {c : Clause} (h : c.Legible) : c.Formed := ⟨h.1, h.2.1⟩

/-- Formed clauses can all be read where they all have the documented form exactly if the two slips come together. -/
theorem legible_iff_documented {cs : List Clause} (h : ∀ c ∈ cs, c.Formed) :
    ((∀ c ∈ cs, c.Legible) ↔ ∀ c ∈ cs, c.Documented) ↔ ((∃ c ∈ cs, '\n' ∈ c.value) ↔ ∃ c ∈ cs, trim c.column = []) := by
  have hlegible : (∀ c ∈ cs, c.Legible) ↔ ¬ ∃ c ∈ cs, '\n' ∈ c.value := by
    constructor
    · rintro hall ⟨c, hc, hfeed⟩
      exact (hall c hc).2.2 hfeed
    · intro hno c hc
      exact ⟨(h c hc).1, (h c hc).2, fun hfeed => hno ⟨c, hc, hfeed⟩⟩
  have hdocumented : (∀ c ∈ cs, c.Documented) ↔ ¬ ∃ c ∈ cs, trim c.column = [] := by
    constructor
    · rintro hall ⟨c, hc, hblank⟩
      exact (hall c hc).2 hblank
    · intro hno c hc
      exact ⟨(h c hc).1, fun hblank => hno ⟨c, hc, hblank⟩⟩
  rw [hlegible, hdocumented, not_iff_not]

theorem comparison_inj {c d : Clause} (hc : c.Divided) (hd : d.Divided) (h : c.comparison = d.comparison) :
    c.column = d.column ∧ c.operator = d.operator ∧ c.value = d.value := by
  obtain ⟨htake, hdrop⟩ := takeWhile_unmarked hc.column (head?_behind c.operator c.value)
  obtain ⟨htake', hdrop'⟩ := takeWhile_unmarked hd.column (head?_behind d.operator d.value)
  unfold comparison at h
  rw [h] at htake hdrop
  have hread := Operator.read?_eq_some_iff.2 ⟨rfl, hc.operator⟩
  have hread' := Operator.read?_eq_some_iff.2 ⟨rfl, hd.operator⟩
  rw [← hdrop, hdrop', hread'] at hread
  obtain ⟨hop, hvalue⟩ := Prod.mk.inj (Option.some.inj hread)
  exact ⟨htake.symm.trans htake', hop.symm, hvalue.symm⟩

/-- A text is divided in one way only. -/
theorem text_inj {c d : Clause} (hc : c.Divided) (hd : d.Divided) (h : c.text = d.text) : c = d := by
  have hcolon (c : Clause) (t : List Char) : c.operator.symbol ++ c.value ≠ ':' :: t := by
    obtain ⟨m, r, hsymbol, -, hm⟩ := c.operator.symbol_marked
    rw [hsymbol]
    exact fun he => hm (List.cons.inj he).1
  obtain ⟨htake, hdrop⟩ := at_first_mark hc
  obtain ⟨htake', hdrop'⟩ := at_first_mark hd
  rw [h, htake'] at htake
  rw [h, hdrop'] at hdrop
  have hparts (hscope : c.scope = d.scope) (hcomparison : c.comparison = d.comparison) : c = d := by
    obtain ⟨hcolumn, hop, hvalue⟩ := comparison_inj hc hd hcomparison
    obtain ⟨scope, column, op, value⟩ := c
    obtain ⟨scope', column', op', value'⟩ := d
    simp_all
  cases hscope : c.scope with
  | none =>
    cases hscope' : d.scope with
    | none => exact hparts (hscope.trans hscope'.symm) (by simpa [text, hscope, hscope'] using h)
    | some scope' => exact absurd (by simpa [hscope, hscope'] using hdrop.symm) (hcolon c d.comparison)
  | some scope =>
    cases hscope' : d.scope with
    | none => exact absurd (by simpa [hscope, hscope'] using hdrop) (hcolon d c.comparison)
    | some scope' =>
      simp only [hscope, hscope', Option.getD_some] at htake hdrop
      exact hparts (by rw [hscope, hscope', htake]) (List.cons.inj hdrop).2.symm

theorem eq_of_texts {cs ds : List Clause} (hc : ∀ c ∈ cs, c.Divided) (hd : ∀ d ∈ ds, d.Divided)
    (h : cs.map text = ds.map text) : cs = ds := by
  induction cs generalizing ds with
  | nil => exact (List.map_eq_nil_iff.1 h.symm).symm
  | cons c cs ih =>
    cases ds with
    | nil => cases h
    | cons d ds =>
      obtain ⟨htext, hrest⟩ := List.cons.inj h
      obtain ⟨hc, hcs⟩ := List.forall_mem_cons.1 hc
      obtain ⟨hd, hds⟩ := List.forall_mem_cons.1 hd
      rw [text_inj hc hd htext, ih hcs hds hrest]

end Clause

namespace Request

/-! ## A whole filter -/

theorem head?_segment {raw s : List Char} (h : s ∈ segments raw) : ∀ c ∈ s.head?, isBlank c = false := by
  obtain ⟨piece, -, rfl⟩ := List.mem_map.1 (List.mem_of_mem_filter h)
  exact (tight_trim piece).first

theorem read_texts_iff {segs : List (List Char)} (hsegs : ∀ s ∈ segs, ∀ c ∈ s.head?, isBlank c = false)
    {placed : List Placed} : segs.map readCondition? = placed.map some ↔
      ∃ cs : List Clause, cs.map Clause.text = segs ∧ (∀ c ∈ cs, c.Legible) ∧ cs.map Clause.placed = placed := by
  induction segs generalizing placed with
  | nil =>
    constructor
    · intro h
      exact ⟨[], rfl, (fun _ hc => nomatch hc), (List.map_eq_nil_iff.1 h.symm).symm⟩
    · rintro ⟨cs, htexts, -, rfl⟩
      rw [List.map_eq_nil_iff.1 htexts]
      rfl
  | cons s segs ih =>
    obtain ⟨hs, hrest⟩ := List.forall_mem_cons.1 hsegs
    constructor
    · intro h
      cases placed with
      | nil => cases h
      | cons p placed =>
        obtain ⟨hread, hreads⟩ := List.cons.inj h
        obtain ⟨c, hlegible, htext, hplaced⟩ := (readCondition?_eq_some_iff hs).1 hread
        obtain ⟨cs, htexts, hall, hcs⟩ := (ih hrest).1 hreads
        exact ⟨c :: cs, by rw [List.map_cons, htext, htexts], List.forall_mem_cons.2 ⟨hlegible, hall⟩,
          by rw [List.map_cons, hcs, Clause.placed, hplaced]⟩
    · rintro ⟨cs, htexts, hall, rfl⟩
      cases cs with
      | nil => cases htexts
      | cons c cs =>
        obtain ⟨htext, htexts⟩ := List.cons.inj htexts
        obtain ⟨hlegible, hall⟩ := List.forall_mem_cons.1 hall
        have hread := (readCondition?_eq_some_iff hs).2 ⟨c, hlegible, htext, rfl⟩
        rw [List.map_cons, List.map_cons, List.map_cons, hread, (ih hrest).2 ⟨cs, htexts, hall, rfl⟩]
        rfl

/-- The filter is made of clauses that meet a condition, and says this by scope. -/
def Says (meets : Clause → Prop) (raw : List Char) (scopes : Scopes) : Prop :=
  ∃ cs : List Clause, cs.map Clause.text = segments raw ∧ (∀ c ∈ cs, meets c) ∧ grouped (cs.map Clause.placed) = scopes

theorem parseFilter_ok_iff {raw : List Char} {scopes : Scopes} :
    parseFilter raw = .ok scopes ↔ Says Clause.Legible raw scopes := by
  rw [parseFilter_eq_ok_iff]
  constructor
  · rintro ⟨placed, hread, rfl⟩
    obtain ⟨cs, htexts, hall, rfl⟩ := (read_texts_iff fun s hs => head?_segment hs).1 hread
    exact ⟨cs, htexts, hall, rfl⟩
  · rintro ⟨cs, htexts, hall, rfl⟩
    exact ⟨cs.map Clause.placed, (read_texts_iff fun s hs => head?_segment hs).2 ⟨cs, htexts, hall, rfl⟩, rfl⟩

/-- What a filter of formed clauses says is what these clauses say. -/
theorem says_iff {meets : Clause → Prop} (hmeets : ∀ c, meets c → c.Formed) {raw : List Char} {cs : List Clause}
    (htexts : cs.map Clause.text = segments raw) (hformed : ∀ c ∈ cs, c.Formed) :
    Says meets raw (grouped (cs.map Clause.placed)) ↔ ∀ c ∈ cs, meets c := by
  constructor
  · rintro ⟨ds, htexts', hall, -⟩
    have hdivided : ∀ d ∈ ds, d.Divided := fun d hd => (hmeets d (hall d hd)).1
    rw [Clause.eq_of_texts (fun c hc => (hformed c hc).1) hdivided (htexts.trans htexts'.symm)]
    exact hall
  · intro hall
    exact ⟨cs, htexts, hall, rfl⟩

theorem isSome_readCondition?_iff {raw s : List Char} (hs : s ∈ segments raw) :
    (readCondition? s).isSome = true ↔ ∃ c : Clause, c.Legible ∧ c.text = s := by
  constructor
  · intro h
    obtain ⟨p, hp⟩ := Option.isSome_iff_exists.1 h
    obtain ⟨c, hlegible, htext, -⟩ := (readCondition?_eq_some_iff (head?_segment hs)).1 hp
    exact ⟨c, hlegible, htext⟩
  · rintro ⟨c, hlegible, htext⟩
    rw [(readCondition?_eq_some_iff (head?_segment hs)).2 ⟨c, hlegible, htext, rfl⟩]
    rfl

/-- A filter is accepted exactly if all its segments are clauses that can be read, and then it is what they say by
scope; else it is refused for the first segment that is none. The grammar agrees with this exactly if, the segments
being formed clauses at all, values with a line feed and blank columns come together or not at all: with only the
former the filter is refused against the grammar, and with only the latter it is accepted against it. -/
theorem filter_follows_grammar_iff (raw : List Char) :
    (∀ scopes, parseFilter raw = .ok scopes ↔ Says Clause.Legible raw scopes) ∧
    (∀ e, parseFilter raw = .error e ↔ ∃ before s after, segments raw = before ++ s :: after ∧
      (∀ t ∈ before, ∃ c : Clause, c.Legible ∧ c.text = t) ∧ (¬ ∃ c : Clause, c.Legible ∧ c.text = s) ∧
      e = .invalidFilter (String.ofList s)) ∧
    ((∀ scopes, parseFilter raw = .ok scopes ↔ Says Clause.Documented raw scopes) ↔
      ∀ cs : List Clause, cs.map Clause.text = segments raw → (∀ c ∈ cs, c.Formed) →
        ((∃ c ∈ cs, '\n' ∈ c.value) ↔ ∃ c ∈ cs, trim c.column = [])) := by
  refine ⟨fun scopes => parseFilter_ok_iff, fun e => ?_, ?_⟩
  · rw [parseFilter_eq_error_iff]
    refine exists_congr fun before => exists_congr fun s => exists_congr fun after => and_congr_right fun hsegs => ?_
    have hmem {t : List Char} (ht : t ∈ before ++ s :: after) : t ∈ segments raw := hsegs ▸ ht
    refine and_congr (forall₂_congr fun t ht => ?_) (and_congr ?_ Iff.rfl)
    · exact isSome_readCondition?_iff (hmem (List.mem_append_left _ ht))
    · rw [← isSome_readCondition?_iff (hmem (List.mem_append_right _ List.mem_cons_self)), Option.not_isSome_iff_eq_none]
  · simp only [parseFilter_ok_iff]
    constructor
    · intro h cs htexts hformed
      have hlegible := says_iff (fun _ => Clause.Legible.formed) htexts hformed
      have hdocumented := says_iff (fun _ => Clause.Documented.formed) htexts hformed
      exact (Clause.legible_iff_documented hformed).1 (hlegible.symm.trans ((h _).trans hdocumented))
    · intro h scopes
      constructor
      · rintro ⟨cs, htexts, hall, rfl⟩
        have hformed : ∀ c ∈ cs, c.Formed := fun c hc => (hall c hc).formed
        exact ⟨cs, htexts, ((Clause.legible_iff_documented hformed).2 (h cs htexts hformed)).1 hall, rfl⟩
      · rintro ⟨cs, htexts, hall, rfl⟩
        have hformed : ∀ c ∈ cs, c.Formed := fun c hc => (hall c hc).formed
        exact ⟨cs, htexts, ((Clause.legible_iff_documented hformed).2 (h cs htexts hformed)).2 hall, rfl⟩

/-- A value with a line feed is refused though its segment has the documented form, and a column of blanks after a
scope is accepted though its segment has not. -/
theorem filter_departs :
    (¬ ∀ scopes, parseFilter "a=1\n2".toList = .ok scopes ↔ Says Clause.Documented "a=1\n2".toList scopes) ∧
      ¬ ∀ scopes, parseFilter "a: =5".toList = .ok scopes ↔ Says Clause.Documented "a: =5".toList scopes := by
  constructor
  · intro h
    let c : Clause := ⟨none, ['a'], .eq, ['1', '\n', '2']⟩
    have hdivided : c.Divided := ⟨(fun _ hs => nomatch hs), by decide, (Operator.longest_iff _ _).2 (by decide)⟩
    have hsays : Says Clause.Documented "a=1\n2".toList (grouped [c.placed]) :=
      ⟨[c], by decide, fun d hd => List.mem_singleton.1 hd ▸ ⟨hdivided, by decide⟩, rfl⟩
    have hrefused : parseFilter "a=1\n2".toList = .error (.invalidFilter "a=1\n2") := by decide
    cases hrefused.symm.trans ((h _).2 hsays)
  · intro h
    let c : Clause := ⟨some ['a'], [' '], .eq, ['5']⟩
    have hscope : ∀ t ∈ c.scope, trim t ≠ [] ∧ ∀ x ∈ t, isMark x = false := by
      rintro t ⟨⟩
      decide
    have hformed : ∀ d ∈ [c], d.Formed := fun d hd => by
      obtain rfl := List.mem_singleton.1 hd
      exact ⟨⟨hscope, by decide, (Operator.longest_iff _ _).2 (by decide)⟩, by decide⟩
    have haccepted : parseFilter "a: =5".toList = .ok (grouped [c.placed]) := by decide
    have hall := (says_iff (fun _ => Clause.Documented.formed) (by decide) hformed).1 ((h _).1 haccepted)
    exact (hall c List.mem_cons_self).2 (by decide)

end Request

end TableGraph
