/-! # Ascending lists

`ascending key l` holds the members of `l` in ascending order of their keys, one for each key. It
is the canonical form of `l` as a set when no two members share a key: neither the order nor the
repetition of members shows in it.
-/
namespace TableGraph
variable {α : Type}

/-- Puts a member where it belongs, unless there is one with its key. -/
def insertAscending (key : α → List String) (a : α) : List α → List α
  | [] => [a]
  | b :: r =>
    if key a < key b then a :: b :: r
    else if key b < key a then b :: insertAscending key a r
    else b :: r

def ascending (key : α → List String) (l : List α) : List α := l.foldr (insertAscending key) []

theorem mem_of_mem_insertAscending {key : α → List String} {a x : α} {l : List α}
    (h : x ∈ insertAscending key a l) : x = a ∨ x ∈ l := by
  induction l with
  | nil => simpa [insertAscending] using h
  | cons b r ih => grind [insertAscending]

theorem mem_of_mem_ascending {key : α → List String} {x : α} {l : List α} (h : x ∈ ascending key l) :
    x ∈ l := by
  induction l with
  | nil => simp [ascending] at h
  | cons a r ih =>
    rcases mem_of_mem_insertAscending h with rfl | h
    · exact List.mem_cons_self
    · exact List.mem_cons_of_mem _ (ih h)

theorem pairwise_insertAscending {key : α → List String} {a : α} {l : List α}
    (h : l.Pairwise fun b c => key b < key c) :
    (insertAscending key a l).Pairwise fun b c => key b < key c := by
  induction l with
  | nil => simp [insertAscending]
  | cons b r ih =>
    obtain ⟨hb, hr⟩ := List.pairwise_cons.1 h
    simp only [insertAscending]
    split
    · rename_i hab
      refine List.pairwise_cons.2 ⟨?_, h⟩
      intro c hc
      rcases List.mem_cons.1 hc with rfl | hc
      · exact hab
      · exact List.lt_trans hab (hb c hc)
    · split
      · rename_i hba
        refine List.pairwise_cons.2 ⟨?_, ih hr⟩
        intro c hc
        rcases mem_of_mem_insertAscending hc with rfl | hc
        · exact hba
        · exact hb c hc
      · exact h

theorem pairwise_ascending (key : α → List String) (l : List α) :
    (ascending key l).Pairwise fun a b => key a < key b := by
  induction l with
  | nil => exact List.Pairwise.nil
  | cons a r ih => exact pairwise_insertAscending ih

/-- Every key of a list occurs in its canonical form. -/
theorem exists_mem_insertAscending (key : α → List String) (a x : α) {l : List α} (h : x = a ∨ x ∈ l) :
    ∃ y ∈ insertAscending key a l, key y = key x := by
  induction l with
  | nil =>
    rcases h with rfl | h
    · exact ⟨x, List.mem_singleton.2 rfl, rfl⟩
    · cases h
  | cons b r ih =>
    simp only [insertAscending]
    split
    · exact ⟨x, List.mem_cons.2 h, rfl⟩
    · rename_i hab
      split
      · rcases h with rfl | h
        · obtain ⟨y, hy, he⟩ := ih (.inl rfl)
          exact ⟨y, List.mem_cons_of_mem _ hy, he⟩
        · rcases List.mem_cons.1 h with rfl | h
          · exact ⟨x, List.mem_cons_self, rfl⟩
          · obtain ⟨y, hy, he⟩ := ih (.inr h)
            exact ⟨y, List.mem_cons_of_mem _ hy, he⟩
      · rename_i hba
        have he : key b = key a := Std.le_antisymm (Std.not_lt.1 hab) (Std.not_lt.1 hba)
        rcases h with rfl | h
        · exact ⟨b, List.mem_cons_self, he⟩
        · exact ⟨x, h, rfl⟩

theorem mem_ascending_iff {key : α → List String} (hkey : ∀ a b, key a = key b → a = b) {x : α} {l : List α} :
    x ∈ ascending key l ↔ x ∈ l := by
  refine ⟨mem_of_mem_ascending, fun h => ?_⟩
  induction l with
  | nil => simp at h
  | cons a r ih =>
    have hx : x = a ∨ x ∈ ascending key r := (List.mem_cons.1 h).imp_right ih
    obtain ⟨y, hy, he⟩ := exists_mem_insertAscending key a x hx
    exact hkey y x he ▸ hy

end TableGraph
