import TableGraph.Proofs.Naming.History
import TableGraph.Proofs.Naming.TypeName

/-! # Which made names are names

Sanitizing always ends in a name and leaves a name as it is (`sanitizing_makes_names`). A name stays one
under a word in front, and under a suffix unless it is a single underscore: then the suffix brings a
second one, and the result is reserved. An admitted text is a name but for the line feed that it may end
with.
-/
namespace TableGraph.Name

theorem isName_iff (s : List Char) : IsName s ↔
    s ≠ [] ∧ s.all isPart = true ∧ (s.head?.all fun c => !c.isDigit) = true ∧ ['_', '_'].isPrefixOf s = false := by
  rw [← Bool.not_eq_true (['_', '_'].isPrefixOf s), List.isPrefixOf_iff_prefix]
  constructor
  · intro h
    refine ⟨h.nonempty, List.all_eq_true.2 h.parts, ?_, h.unreserved⟩
    cases hs : s.head? with
    | none => rfl
    | some c => simpa using h.start c hs
  · rintro ⟨hne, hparts, hstart, hr⟩
    refine ⟨hne, List.all_eq_true.1 hparts, ?_, hr⟩
    intro c hc
    rw [Option.mem_def] at hc
    simpa [hc] using hstart

instance (s : List Char) : Decidable (IsName s) := decidable_of_iff _ (isName_iff s).symm

theorem reserved_iff (s : List Char) : ['_', '_'] <+: s ↔ ∃ r, s = '_' :: '_' :: r := by
  constructor
  · rintro ⟨r, rfl⟩
    exact ⟨r, rfl⟩
  · rintro ⟨r, rfl⟩
    exact ⟨r, rfl⟩

/-! ## Sanitized texts -/

theorem dropReserved_not_reserved (t : List Char) : ¬ ['_', '_'] <+: dropReserved t := by
  induction t with
  | nil => simp [dropReserved]
  | cons c r ih =>
    simp only [dropReserved]
    split
    · exact ih
    · rename_i hc
      rw [reserved_iff]
      rintro ⟨q, he⟩
      obtain ⟨rfl, rfl⟩ := List.cons.inj he
      exact hc ⟨rfl, rfl⟩

/-- Nothing was dropped, or what is left starts with the last underscore. -/
theorem dropReserved_head (t : List Char) : dropReserved t = t ∨ (dropReserved t).head? = some '_' := by
  induction t with
  | nil => exact .inl rfl
  | cons c r ih =>
    simp only [dropReserved]
    split
    · rename_i hc
      right
      rcases ih with he | he
      · rw [he]
        exact hc.2
      · exact he
    · exact .inl rfl

theorem eq_underscore_of_dropReserved {t : List Char} (h : dropReserved t = ['_']) : ∀ c ∈ t, c = '_' := by
  induction t with
  | nil => simp
  | cons c r ih =>
    simp only [dropReserved] at h
    intro d hd
    split at h
    · rename_i hc
      rcases List.mem_cons.1 hd with rfl | hd
      · exact hc.1
      · exact ih h d hd
    · obtain ⟨rfl, rfl⟩ := List.cons.inj h
      exact List.mem_singleton.1 hd

theorem isName_sanitize (s : List Char) : IsName (sanitize s) where
  nonempty := sanitize_ne_nil s
  parts _ hc := isPart_of_mem_sanitize hc
  unreserved := dropReserved_not_reserved _
  start := by
    have hunderscore : '_'.isDigit = false := by decide
    intro c hc
    unfold sanitize at hc
    dsimp only at hc
    generalize s.map (fun c => if isPart c then c else '_') = t at hc
    have hhead : ∀ d ∈ (if t.head?.all Char.isDigit then '_' :: t else t).head?, d.isDigit = false := by
      intro d hd
      split at hd
      · rw [← Option.some.inj hd]
        exact hunderscore
      · rename_i hall
        rw [Option.mem_def] at hd
        simpa [hd] using hall
    rcases dropReserved_head (if t.head?.all Char.isDigit then '_' :: t else t) with he | he
    · rw [he] at hc
      exact hhead c hc
    · rw [he] at hc
      rw [← Option.some.inj hc]
      exact hunderscore

/-- A name is sanitized already. -/
theorem IsName.sanitize_eq {s : List Char} (h : IsName s) : sanitize s = s := by
  have hmap : s.map (fun c => if isPart c then c else '_') = s :=
    (List.map_congr_left fun c hc => if_pos (h.parts c hc)).trans (List.map_id s)
  simp only [sanitize, hmap]
  cases s with
  | nil => exact absurd rfl h.nonempty
  | cons c r =>
    have hdigit : c.isDigit = false := h.start c rfl
    have hunderscores : ¬ (c = '_' ∧ r.head? = some '_') := by
      rintro ⟨rfl, hr⟩
      obtain ⟨t, rfl⟩ := List.head?_eq_some_iff.1 hr
      exact h.unreserved ⟨t, rfl⟩
    simp [hdigit, dropReserved, hunderscores]

theorem sanitize_eq_self_iff {s : List Char} : sanitize s = s ↔ IsName s := by
  constructor
  · intro he
    have hn := isName_sanitize s
    rwa [he] at hn
  · exact IsName.sanitize_eq

/-- Only underscores, and what is no part of a name, sanitize to a single underscore. -/
theorem eq_underscore_of_sanitize {s : List Char} (h : sanitize s = ['_']) :
    ∀ c ∈ s, isPart c = true → c = '_' := by
  have hall := eq_underscore_of_dropReserved h
  intro c hc hpart
  have hm : c ∈ s.map (fun c => if isPart c then c else '_') := by
    refine List.mem_map.2 ⟨c, hc, ?_⟩
    rw [if_pos hpart]
  apply hall
  split
  · exact List.mem_cons_of_mem _ hm
  · exact hm

theorem IsName.eq_underscore {s : List Char} (h : IsName s) (hall : ∀ c ∈ s, c = '_') : s = ['_'] := by
  have hunreserved := h.unreserved
  rw [reserved_iff] at hunreserved
  cases s with
  | nil => exact absurd rfl h.nonempty
  | cons c r =>
    have hc : c = '_' := hall c List.mem_cons_self
    cases r with
    | nil => rw [hc]
    | cons d q =>
      have hd : d = '_' := hall d (List.mem_cons_of_mem c List.mem_cons_self)
      exact absurd ⟨q, by rw [hc, hd]⟩ hunreserved

/-! ## Words in front and suffixes -/

theorem IsName.append {s t : List Char} (hs : IsName s) (hne : s ≠ ['_']) (ht : ∀ c ∈ t, Name.isPart c = true) :
    IsName (s ++ t) where
  nonempty := by simp [hs.nonempty]
  parts c hc := by
    rcases List.mem_append.1 hc with hc | hc
    · exact hs.parts c hc
    · exact ht c hc
  start c hc := by
    rw [List.head?_append_of_ne_nil s hs.nonempty] at hc
    exact hs.start c hc
  unreserved := by
    rw [reserved_iff]
    rintro ⟨r, he⟩
    cases s with
    | nil => exact hs.nonempty rfl
    | cons c q =>
      obtain ⟨hc, he⟩ := List.cons.inj he
      cases q with
      | nil => exact hne (hc ▸ rfl)
      | cons d q =>
        have hd : d = '_' := (List.cons.inj he).1
        exact hs.unreserved ((reserved_iff _).2 ⟨q, by rw [hc, hd]⟩)

/-- After an underscore a suffix leaves a name exactly if the name is more than an underscore. -/
theorem isName_suffixed_iff {s t : List Char} (hs : IsName s) (ht : ∀ c ∈ t, isPart c = true) :
    IsName (s ++ '_' :: t) ↔ s ≠ ['_'] := by
  have hunderscore : isPart '_' = true := by decide
  constructor
  · rintro h rfl
    exact h.unreserved ((reserved_iff _).2 ⟨t, rfl⟩)
  · intro hne
    refine hs.append hne ?_
    intro c hc
    rcases List.mem_cons.1 hc with rfl | hc
    · exact hunderscore
    · exact ht c hc

/-- A word of letters makes a name of whatever parts follow. -/
theorem isName_lead {lead t : List Char} (hne : lead ≠ []) (hlead : ∀ c ∈ lead, c.isAlpha = true)
    (ht : ∀ c ∈ t, isPart c = true) : IsName (lead ++ t) := by
  have hdigit (c : Char) (hc : c.isAlpha = true) : c.isDigit = false := by
    have hascii : c.toNat < 0x80 := by
      have h := isAscii_of_isAlphanum (c := c) (by simp [Char.isAlphanum, hc])
      simpa [Text.isAscii] using h
    exact forall_ascii (p := fun c => c.isAlpha = true → c.isDigit = false) (by decide) hascii hc
  have hunderscore : '_' ∉ lead := by
    intro hm
    have halpha : '_'.isAlpha = false := by decide
    rw [hlead '_' hm] at halpha
    cases halpha
  have hword : IsName lead := by
    refine ⟨hne, ?_, ?_, ?_⟩
    · intro c hc
      simp [isPart, Char.isAlphanum, hlead c hc]
    · intro c hc
      exact hdigit c (hlead c (List.mem_of_head? hc))
    · rintro ⟨r, rfl⟩
      exact hunderscore List.mem_cons_self
  refine hword.append ?_ ht
  rintro rfl
  exact hunderscore List.mem_cons_self

/-! ## Admitted texts -/

theorem isPart_of_isStart {c : Char} (h : isStart c = true) : isPart c = true := by
  simp only [isStart, Bool.or_eq_true, decide_eq_true_eq] at h
  rcases h with h | h
  · simp [isPart, h]
  · simp [isPart, Char.isAlphanum, h]

theorem isDigit_of_isStart {c : Char} (h : isStart c = true) : c.isDigit = false := by
  simp only [isStart, Bool.or_eq_true, decide_eq_true_eq] at h
  rcases h with rfl | h
  · decide
  · have hn : IsName [c] := isName_lead (t := []) (List.cons_ne_nil c []) (by simpa using h) (by simp)
    exact hn.start c rfl

/-- What may stand as a field is a name unless it ends with a line feed. -/
theorem isName_iff_of_isAdmitted {s : List Char} (h : isAdmitted s = true) :
    IsName s ↔ s.getLast? ≠ some '\n' := by
  have hfeed : isPart '\n' = false := by decide
  constructor
  · intro hn he
    have hp := hn.parts '\n' (List.mem_of_getLast? he)
    rw [hfeed] at hp
    cases hp
  · intro hlast
    cases s with
    | nil => cases h
    | cons c r =>
      simp only [isAdmitted, Bool.and_eq_true, Bool.or_eq_true, Bool.not_eq_true', decide_eq_true_eq] at h
      obtain ⟨⟨hstart, hreserved⟩, hrest⟩ := h
      have hparts : ∀ d ∈ r, isPart d = true := by
        rcases hrest with hrest | ⟨hr, -⟩
        · exact List.all_eq_true.1 hrest
        · rw [List.getLast?_cons, hr] at hlast
          exact absurd rfl hlast
      refine ⟨List.cons_ne_nil c r, ?_, ?_, ?_⟩
      · intro d hd
        rcases List.mem_cons.1 hd with rfl | hd
        · exact isPart_of_isStart hstart
        · exact hparts d hd
      · intro d hd
        rw [← Option.some.inj hd]
        exact isDigit_of_isStart hstart
      · intro hp
        rw [List.isPrefixOf_iff_prefix.2 hp] at hreserved
        cases hreserved

end TableGraph.Name

namespace TableGraph
open Name

theorem isName_sanitizeName (s : String) : IsName (sanitizeName s).toList := by
  rw [sanitizeName, String.toList_ofList]
  exact isName_sanitize s.toList

theorem isName_typeNameFor (table : String) : IsName (typeNameFor table).toList := by
  rw [typeNameFor, String.toList_ofList]
  exact isName_sanitize _

theorem eq_underscore_iff {s : String} : s.toList = ['_'] ↔ s = "_" := by
  rw [← String.toList_inj]
  rfl

theorem sanitizeName_eq_self_iff {s : String} : sanitizeName s = s ↔ IsName s.toList := by
  rw [← sanitize_eq_self_iff, ← String.toList_inj, sanitizeName, String.toList_ofList]

/-- Sanitizing makes a name of any text and leaves exactly the names as they are, so to do it twice is to
do it once. The name made for the type of a table is one, too. -/
theorem sanitizing_makes_names (s : String) :
    IsName (sanitizeName s).toList ∧ IsName (typeNameFor s).toList ∧
      (sanitizeName s = s ↔ IsName s.toList) ∧ sanitizeName (sanitizeName s) = sanitizeName s := by
  have hsanitized : IsName (sanitizeName s).toList := isName_sanitizeName s
  have htwice : sanitizeName (sanitizeName s) = sanitizeName s := sanitizeName_eq_self_iff.2 hsanitized
  exact ⟨hsanitized, isName_typeNameFor s, sanitizeName_eq_self_iff, htwice⟩

namespace Namer

/-- The search only adds to a name, and only what may be part of one. -/
theorem extended_eq_append {suffix : Nat → String} (hsuffix : ∀ salt, ∀ c ∈ (suffix salt).toList, isPart c = true)
    (salt : Nat) (name : String) (rounds : Nat) :
    ∃ r, (extended suffix salt name rounds).toList = name.toList ++ r ∧ ∀ c ∈ r, isPart c = true := by
  have hunderscore : isPart '_' = true := by decide
  induction rounds generalizing salt name with
  | zero => exact ⟨[], by rw [extended, List.append_nil], by simp⟩
  | succ rounds ih =>
    obtain ⟨r, he, hr⟩ := ih (salt + 1) (name ++ "_" ++ suffix (salt + 1))
    refine ⟨'_' :: ((suffix (salt + 1)).toList ++ r), ?_, ?_⟩
    · rw [extended, he]
      simp
    · intro c hc
      rcases List.mem_cons.1 hc with rfl | hc
      · exact hunderscore
      · rcases List.mem_append.1 hc with hc | hc
        · exact hsuffix (salt + 1) c hc
        · exact hr c hc

theorem isPart_of_mem_suffix (n : Namer) (parts : List String) : ∀ c ∈ (n.suffix parts).toList, isPart c = true := by
  intro c hc
  rw [suffix, String.toList_ofList] at hc
  simp [isPart, plain_tag n.hashLength parts c hc]

/-- The name chosen is the candidate and what the search adds to it. -/
theorem choose_eq_append (n : Namer) (table column referencedTable : String) :
    ∃ r, (n.choose table column referencedTable).toList = (n.candidate table column referencedTable).toList ++ r ∧
      ∀ c ∈ r, isPart c = true := by
  obtain ⟨rounds, he, -⟩ := freeName_eq_extended (n.takenFor table) (n.salted table column referencedTable) 0
    (n.candidate table column referencedTable)
  rw [choose, he]
  exact extended_eq_append (fun salt => isPart_of_mem_suffix n _) 0 _ rounds

/-- The second choice is a single underscore only for a column and a table that come to one. -/
theorem underscore_of_second {first column : String} (hfirst : IsName first.toList) (hcolumn : IsName column.toList)
    (h : sanitizeName (first ++ "_" ++ column) = "_") : column = "_" ∧ first = "_" := by
  have hs : sanitize (first ++ "_" ++ column).toList = ['_'] := by
    rw [← eq_underscore_iff, sanitizeName, String.toList_ofList] at h
    exact h
  have hall := eq_underscore_of_sanitize hs
  simp only [String.toList_append, List.mem_append] at hall
  constructor
  · rw [← eq_underscore_iff]
    exact hcolumn.eq_underscore fun c hc => hall c (.inr hc) (hcolumn.parts c hc)
  · rw [← eq_underscore_iff]
    exact hfirst.eq_underscore fun c hc => hall c (.inl (.inl hc)) (hfirst.parts c hc)

theorem isName_choose {n : Namer} {table column referencedTable : String} (hcolumn : IsName column.toList)
    (h : column = "_" → sanitizeName referencedTable ≠ "_") :
    IsName (n.choose table column referencedTable).toList := by
  let first := relationCandidate referencedTable
  let second := if first ∈ n.takenFor table then sanitizeName (first ++ "_" ++ column) else first
  have hfirst : IsName first.toList := isName_sanitizeName referencedTable
  have hsecond : IsName second.toList := by
    simp only [second]
    split
    · exact isName_sanitizeName _
    · exact hfirst
  have hunderscore : second = "_" → second ∉ n.takenFor table := by
    intro he
    simp only [second] at he ⊢
    split at he
    · obtain ⟨hc, hf⟩ := underscore_of_second hfirst hcolumn he
      exact absurd hf (h hc)
    · rename_i hfree
      rwa [if_neg hfree]
  have hcandidate : n.candidate table column referencedTable =
      if second ∈ n.takenFor table then second ++ "_" ++ n.suffix [table, column, referencedTable] else second := rfl
  split at hcandidate
  · rename_i htaken
    have hne : second.toList ≠ ['_'] := fun he => hunderscore (eq_underscore_iff.1 he) htaken
    obtain ⟨r, he, hr⟩ := n.choose_eq_append table column referencedTable
    have hname : (n.choose table column referencedTable).toList =
        second.toList ++ '_' :: ((n.suffix [table, column, referencedTable]).toList ++ r) := by
      rw [he, hcandidate]
      simp
    rw [hname]
    refine (isName_suffixed_iff hsecond ?_).2 hne
    intro c hc
    rcases List.mem_append.1 hc with hc | hc
    · exact n.isPart_of_mem_suffix _ c hc
    · exact hr c hc
  · rename_i hfree
    rw [choose, hcandidate, freeName, if_neg hfree]
    exact hsecond

/-- If the column and the table both come to an underscore, and that is taken, the name starts with two. -/
theorem reserved_choose {n : Namer} {table referencedTable : String} (htaken : "_" ∈ n.takenFor table)
    (h : sanitizeName referencedTable = "_") : ['_', '_'] <+: (n.choose table "_" referencedTable).toList := by
  have hjoined : sanitizeName ("_" ++ "_" ++ "_") = "_" := by decide
  have hcandidate : n.candidate table "_" referencedTable = "_" ++ "_" ++ n.suffix [table, "_", referencedTable] := by
    simp only [candidate, relationCandidate, h, htaken, if_true, hjoined]
  obtain ⟨r, he, -⟩ := n.choose_eq_append table "_" referencedTable
  rw [he, hcandidate, reserved_iff]
  exact ⟨(n.suffix [table, "_", referencedTable]).toList ++ r, by simp⟩

end Namer

end TableGraph
