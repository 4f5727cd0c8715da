import TableGraph.Proofs.Request.Settings

/-! # Fragments of a request

A filter and a pagination are made of segments, and each is meant for one scope. If the segments of some scopes are
taken out of the strings of a request, what is left can be read, and says what the request said but for these scopes
(`get_without`), since a segment changes the arguments of its own scope only.
-/
namespace TableGraph.Request
open Text

/-- A text without the segments of some scopes. -/
def without (scopeOf : List Char → Option String) (dropped : Option String → Bool) (raw : List Char) : List Char :=
  ['|'].intercalate ((split '|' raw).filter fun piece => !dropped (scopeOf (trim piece)))

theorem segments_without (scopeOf : List Char → Option String) (dropped : Option String → Bool) (raw : List Char) :
    segments (without scopeOf dropped raw) = (segments raw).filter fun s => !dropped (scopeOf s) := by
  let kept := (split '|' raw).filter fun piece => !dropped (scopeOf (trim piece))
  have hkept : segments (without scopeOf dropped raw) = (kept.map trim).filter fun s => !s.isEmpty := by
    cases hk : kept with
    | nil =>
      rw [segments, without, show (split '|' raw).filter _ = [] from hk]
      rfl
    | cons w rest =>
      have hbars : ∀ w ∈ kept, '|' ∉ w := fun w hw => not_mem_of_mem_split (List.mem_of_mem_filter hw)
      have hsplit := split_intercalate (hk ▸ List.cons_ne_nil w rest : kept ≠ []) hbars
      rw [segments, without, hsplit, hk]
  rw [hkept, segments, List.filter_map, List.filter_map, List.filter_map, List.filter_filter, List.filter_filter]
  congr 1
  exact List.filter_congr fun piece _ => Bool.and_comm _ _

theorem get_change (scopes : Scopes) (scope k : Option String)
    {change : Option (ScopeArgs String) → ScopeArgs String} (h : change none = change (some .empty)) :
    RequestArgs.get ⟨Assoc.change scopes scope change⟩ k =
      if scope = k then change (some (RequestArgs.get ⟨scopes⟩ k)) else RequestArgs.get ⟨scopes⟩ k := by
  simp only [RequestArgs.get, Assoc.change, Assoc.get?_put]
  split
  · rename_i hk
    subst hk
    cases scopes.get? scope with
    | none => exact h
    | some a => rfl
  · rfl

section Fold
variable {add : Scopes → List Char → Except RequestError Scopes} {scopeOf : List Char → Option String}
  {dropped : Option String → Bool}

/-- The segments that are not dropped do the same to the other scopes if nothing is there for the dropped ones. -/
theorem Adds.foldlM_without (h : Adds add scopeOf) {segs : List (List Char)} {scopes fewer after : Scopes}
    (hfewer : ∀ k, RequestArgs.get ⟨fewer⟩ k = if dropped k then .empty else RequestArgs.get ⟨scopes⟩ k)
    (hafter : segs.foldlM add scopes = .ok after) :
    ∃ left, (segs.filter fun s => !dropped (scopeOf s)).foldlM add fewer = .ok left ∧
      ∀ k, RequestArgs.get ⟨left⟩ k = if dropped k then .empty else RequestArgs.get ⟨after⟩ k := by
  induction segs generalizing scopes fewer with
  | nil => exact ⟨fewer, rfl, Except.ok.inj hafter ▸ hfewer⟩
  | cons s rest ih =>
    obtain ⟨next, hnext, hafter⟩ := Chain.bind_eq_ok.1 ((List.foldlM_cons ..).symm.trans hafter)
    rcases h s with ⟨e, he⟩ | ⟨change, hnone, hchange⟩
    · cases (he scopes).symm.trans hnext
    · obtain rfl := Except.ok.inj ((hchange scopes).symm.trans hnext)
      by_cases hs : dropped (scopeOf s) = true
      · have hrest : (s :: rest).filter (fun s => !dropped (scopeOf s)) = rest.filter fun s => !dropped (scopeOf s) := by
          simp [hs]
        rw [hrest]
        refine ih (fun k => ?_) hafter
        rw [hfewer, get_change _ _ _ hnone]
        by_cases hk : scopeOf s = k
        · rw [← hk, if_pos hs, if_pos hs]
        · rw [if_neg hk]
      · have hrest : (s :: rest).filter (fun s => !dropped (scopeOf s)) =
            s :: rest.filter fun s => !dropped (scopeOf s) := by simp [hs]
        rw [hrest, List.foldlM_cons, hchange]
        refine ih (fun k => ?_) hafter
        rw [get_change _ _ _ hnone, get_change _ _ _ hnone, hfewer]
        by_cases hk : scopeOf s = k
        · rw [← hk, if_pos rfl, if_neg hs, if_neg hs, if_pos rfl]
        · rw [if_neg hk, if_neg hk]

end Fold

/-- What is left of a request without the fragments of some scopes says for all other scopes what it said before, and
nothing for these. -/
theorem get_without {filter pagination : List Char} {r : RequestArgs} (h : parse filter pagination = .ok r)
    (dropped : Option String → Bool) :
    ∃ left, parse (without filterScope dropped filter) (without pagingScope dropped pagination) = .ok left ∧
      ∀ k, left.get k = if dropped k then .empty else r.get k := by
  obtain ⟨conditions, hconditions, h⟩ := Chain.bind_eq_ok.1 h
  obtain ⟨paging, hpaging, h⟩ := Chain.bind_eq_ok.1 h
  obtain rfl := Except.ok.inj h
  have hnil (k : Option String) : RequestArgs.get ⟨[]⟩ k = if dropped k then .empty else RequestArgs.get ⟨[]⟩ k := by
    split <;> rfl
  obtain ⟨fewer, hfewer, hget⟩ := adds_condition.foldlM_without hnil hconditions
  obtain ⟨less, hless, hget'⟩ := adds_paging.foldlM_without hnil hpaging
  have hfilter : parseFilter (without filterScope dropped filter) = .ok fewer := by
    rw [parseFilter, segments_without, hfewer]
  have hpagination : parsePagination (without pagingScope dropped pagination) = .ok less := by
    rw [parsePagination, segments_without, hless]
  refine ⟨(RequestArgs.mk fewer).overlay ⟨less⟩, by rw [parse, hfilter, hpagination]; rfl, fun k => ?_⟩
  have hleft : RequestArgs.Apart ⟨less⟩ := adds_paging.nodup hless
  have hall : RequestArgs.Apart ⟨paging⟩ := adds_paging.nodup hpaging
  rw [RequestArgs.get_overlay hleft, RequestArgs.get_overlay hall, hget, hget']
  split
  · exact ScopeArgs.merged_empty _
  · rfl

end TableGraph.Request
