import Mathlib.Data.List.Basic
import TableGraph.Name

/-! # The shape of type names

The name of a table's type is a run of ASCII letters and digits, with at most one underscore, and that
in front (`Plain`). A digest holds none. So the last underscore of a name that ends in a digest is the
one before the digest, and both parts can be read off (`tagged_inj`).
-/
namespace TableGraph.Name

/-- A text of ASCII letters and digits only. -/
def Plain (s : List Char) : Prop := ∀ c ∈ s, c.isAlphanum = true

theorem isAscii_of_isAlphanum {c : Char} (h : c.isAlphanum = true) : Text.isAscii c = true := by
  have hn : c.toNat < 0x80 := by
    change ((decide (65 ≤ c.val ∧ c.val ≤ 90) || (97 ≤ c.val && c.val ≤ 122)) ||
      (48 ≤ c.val && c.val ≤ 57)) = true at h
    simp only [Bool.or_eq_true, Bool.and_eq_true, decide_eq_true_eq, UInt32.le_iff_toNat_le] at h
    have he : c.toNat = c.val.toNat := rfl
    simp at h
    omega
  simpa [Text.isAscii] using hn

/-- What the first 128 characters have, a character below that has. -/
theorem forall_ascii {p : Char → Prop} (hall : ∀ n < 0x80, p (Char.ofNat n)) {c : Char} (hc : c.toNat < 0x80) : p c := by
  have h := hall c.toNat hc
  rwa [Char.ofNat_toNat] at h

theorem isAlphanum_changed {c : Char} (h : c.isAlphanum = true) :
    c.toUpper.isAlphanum = true ∧ c.toLower.isAlphanum = true := by
  have hn : c.toNat < 0x80 := by simpa [Text.isAscii] using isAscii_of_isAlphanum h
  exact forall_ascii (p := fun c => c.isAlphanum = true → c.toUpper.isAlphanum = true ∧ c.toLower.isAlphanum = true)
    (by decide) hn h

theorem isAscii_of_isPart {c : Char} (h : isPart c = true) : c.toNat < 0x80 := by
  simp only [isPart, Bool.or_eq_true, decide_eq_true_eq] at h
  rcases h with rfl | h
  · decide
  · simpa [Text.isAscii] using isAscii_of_isAlphanum h

theorem not_isBlank_of_isPart {c : Char} (h : isPart c = true) : Text.isBlank c = false := by
  exact forall_ascii (p := fun c => isPart c = true → Text.isBlank c = false) (by decide) (isAscii_of_isPart h) h

theorem Plain.not_mem {s : List Char} (h : Plain s) : '_' ∉ s := fun hm => absurd (h '_' hm) (by decide)

theorem Plain.append {s t : List Char} (hs : Plain s) (ht : Plain t) : Plain (s ++ t) := by
  intro c hc
  rcases List.mem_append.1 hc with hc | hc
  · exact hs c hc
  · exact ht c hc

theorem plain_iff {s : List Char} (h : ∀ c ∈ s, isPart c = true) : Plain s ↔ '_' ∉ s := by
  refine ⟨Plain.not_mem, ?_⟩
  intro hu c hc
  have hp := h c hc
  have hne : c ≠ '_' := fun he => hu (he ▸ hc)
  simpa [isPart, hne] using hp

theorem Plain.all_ascii {s : List Char} (h : Plain s) : s.all Text.isAscii = true :=
  List.all_eq_true.2 fun c hc => isAscii_of_isAlphanum (h c hc)

theorem Plain.capitalize {s : List Char} (h : Plain s) : Plain (Text.capitalize s) := by
  cases s with
  | nil => exact h
  | cons c r =>
    have hc : c.isAlphanum = true := h c List.mem_cons_self
    have hr : Plain r := fun d hd => h d (List.mem_cons_of_mem c hd)
    rw [Text.capitalize, Text.titleForm_ascii (isAscii_of_isAlphanum hc), Text.lowerAfter_ascii hr.all_ascii]
    apply Plain.append
    · intro d hd
      rw [List.mem_singleton.1 hd]
      exact (isAlphanum_changed hc).1
    · intro d hd
      obtain ⟨e, he, rfl⟩ := List.mem_map.1 hd
      exact (isAlphanum_changed (hr e he)).2

/-! ## Sanitizing and joining -/

theorem mem_dropReserved {s : List Char} {c : Char} (h : c ∈ dropReserved s) : c ∈ s := by
  induction s with
  | nil => exact h
  | cons d r ih =>
    simp only [dropReserved] at h
    split at h
    · exact List.mem_cons_of_mem d (ih h)
    · exact h

theorem dropReserved_ne_nil {s : List Char} (h : s ≠ []) : dropReserved s ≠ [] := by
  induction s with
  | nil => exact h
  | cons d r ih =>
    simp only [dropReserved]
    split
    · rename_i hd
      apply ih
      rintro rfl
      exact absurd hd.2 (by simp)
    · simp

theorem sanitize_ne_nil (s : List Char) : sanitize s ≠ [] := by
  apply dropReserved_ne_nil
  split
  · simp
  · rename_i h
    intro he
    rw [he] at h
    exact h rfl

theorem isPart_of_mem_sanitize {s : List Char} {c : Char} (h : c ∈ sanitize s) : isPart c = true := by
  have hmap : ∀ d ∈ s.map (fun c => if isPart c then c else '_'), isPart d = true := by
    intro d hd
    obtain ⟨e, -, rfl⟩ := List.mem_map.1 hd
    split
    · assumption
    · decide
  have hm := mem_dropReserved h
  split at hm
  · rcases List.mem_cons.1 hm with rfl | hm
    · decide
    · exact hmap c hm
  · exact hmap c hm

/-- Of letters and digits only a leading digit, or nothing at all, is changed. -/
theorem sanitize_plain {s : List Char} (h : Plain s) :
    sanitize s = if s.head?.all Char.isDigit then '_' :: s else s := by
  have hmap : s.map (fun c => if isPart c then c else '_') = s := by
    refine (List.map_congr_left fun c hc => ?_).trans (List.map_id s)
    simp [isPart, h c hc]
  have hdrop : ∀ t : List Char, '_' ∉ t → dropReserved t = t := by
    intro t ht
    cases t with
    | nil => rfl
    | cons c r =>
      have hc : c ≠ '_' := fun he => ht (he ▸ List.mem_cons_self)
      simp [dropReserved, hc]
  simp only [sanitize, hmap]
  split
  · have hhead : s.head? ≠ some '_' := fun he => h.not_mem (List.mem_of_head? he)
    simp [dropReserved, hhead]
  · exact hdrop s h.not_mem

theorem plain_camel {s : List Char} (h : ∀ c ∈ s, isPart c = true) : Plain (camel true s) := by
  simp only [camel]
  split
  · have hwords : ∀ w ∈ (Text.split '_' s).filter (fun w => !w.isEmpty), Plain w := by
      intro w hw
      have hw := (List.mem_filter.1 hw).1
      exact (plain_iff fun c hc => h c (Text.mem_of_mem_split hw hc)).2 (Text.not_mem_of_mem_split hw)
    split
    · exact fun c hc => absurd hc List.not_mem_nil
    · rename_i w ws he
      rw [he] at hwords
      apply Plain.append
      · exact (hwords w List.mem_cons_self).capitalize
      · intro c hc
        obtain ⟨v, hv, hc⟩ := List.mem_flatMap.1 hc
        exact (hwords v (List.mem_cons_of_mem w hv)).capitalize c hc
  · rename_i hu
    have hs : Plain s := (plain_iff h).2 hu
    cases s with
    | nil => exact hs
    | cons c r =>
      have hc : c.isAlphanum = true := hs c List.mem_cons_self
      simp only [if_true, Text.upperForm_ascii (isAscii_of_isAlphanum hc)]
      intro d hd
      rcases List.mem_cons.1 hd with rfl | hd
      · exact (isAlphanum_changed hc).1
      · exact hs d (List.mem_cons_of_mem c hd)

/-- A type name is letters and digits, but for an underscore that it may start with. -/
theorem plain_tail_typeName (table : List Char) : Plain (typeName table).tail := by
  have hc : Plain (camel true (sanitize table)) := plain_camel fun c => isPart_of_mem_sanitize
  rw [typeName, sanitize_plain hc]
  split
  · exact hc
  · exact fun c hm => hc c (List.mem_of_mem_tail hm)

theorem typeName_ne_nil (table : List Char) : typeName table ≠ [] := sanitize_ne_nil _

/-! ## Digests -/

theorem exists_digit_of_mem_hex {bytes : List UInt8} {c : Char} (hc : c ∈ Digest.hex bytes) :
    ∃ n < 16, c = Nat.digitChar n := by
  obtain ⟨b, -, hb⟩ := List.mem_flatMap.1 hc
  have hlt : b.toNat < 256 := b.toNat_lt
  simp only [Digest.hexByte, List.mem_cons, List.not_mem_nil, or_false] at hb
  rcases hb with rfl | rfl
  · exact ⟨_, by omega, rfl⟩
  · exact ⟨_, by omega, rfl⟩

theorem exists_digit_of_mem_tag {length : Int} {parts : List String} {c : Char} (hc : c ∈ tag length parts) :
    ∃ n < 16, c = Nat.digitChar n := by
  have hm : c ∈ Digest.ofBytes ("\x1f".intercalate parts).toUTF8.toList := List.mem_of_mem_take hc
  unfold Digest.ofBytes at hm
  exact exists_digit_of_mem_hex hm

theorem plain_tag (length : Int) (parts : List String) : Plain (tag length parts) := by
  have hdigit : ∀ n < 16, (Nat.digitChar n).isAlphanum = true := by decide
  intro c hc
  obtain ⟨n, hn, rfl⟩ := exists_digit_of_mem_tag hc
  exact hdigit n hn

/-- A digest after an underscore can be taken off again. -/
theorem tagged_inj {a b g h : List Char} (hg : Plain g) (hh : Plain h) :
    a ++ '_' :: g = b ++ '_' :: h ↔ a = b ∧ g = h := by
  constructor
  · intro he
    rcases List.append_eq_append_iff.1 he with ⟨m, rfl, hm⟩ | ⟨m, rfl, hm⟩
    · cases m with
      | nil => simpa using hm
      | cons c m =>
        obtain ⟨-, rfl⟩ := List.cons.inj hm
        exact absurd (List.mem_append_right m List.mem_cons_self) hg.not_mem
    · cases m with
      | nil => simpa using hm.symm
      | cons c m =>
        obtain ⟨-, rfl⟩ := List.cons.inj hm
        exact absurd (List.mem_append_right m List.mem_cons_self) hh.not_mem
  · rintro ⟨rfl, rfl⟩
    rfl

end TableGraph.Name
