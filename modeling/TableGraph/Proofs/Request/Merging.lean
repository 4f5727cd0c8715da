import Mathlib.Data.List.Induction
import TableGraph.Proofs.Store.Chains
import TableGraph.Request.Pagination

/-! # Merging request arguments

The arguments of a request are kept by scope. A segment of a string changes the arguments of its own scope only
(`Adds`), and no scope is kept twice (`apart_parse`), so laying arguments over others merges them scope by scope
(`get_overlay`), and may be done in parts (`overlay_assoc`). Of fragments that are merged one after the other all
conditions hold, while the last offset and the last order that are set count (`mergedAll_eq`).
-/
namespace TableGraph

namespace ScopeArgs
variable {ν : Type}

def mergedAll (fragments : List (ScopeArgs ν)) : ScopeArgs ν := fragments.foldl merged empty

/-- The last offset that is not zero. -/
def lastOffset (fragments : List (ScopeArgs ν)) : Int :=
  ((fragments.map (·.offset)).filter fun n => n ≠ 0).getLast?.getD 0

/-- The last order that is not empty. -/
def lastOrder (fragments : List (ScopeArgs ν)) : List (String × Direction) :=
  ((fragments.map (·.order)).filter fun order => !order.isEmpty).getLast?.getD []

def lastLimit (fragments : List (ScopeArgs ν)) : Option Int := (fragments.filterMap (·.limit)).getLast?

theorem mergedAll_concat (fragments : List (ScopeArgs ν)) (a : ScopeArgs ν) :
    mergedAll (fragments ++ [a]) = (mergedAll fragments).merged a :=
  List.foldl_append

theorem mergedAll_append (fragments more : List (ScopeArgs ν)) :
    mergedAll (fragments ++ more) = (mergedAll fragments).merged (mergedAll more) := by
  induction more using List.reverseRecOn with
  | nil => rw [List.append_nil, mergedAll, mergedAll, List.foldl_nil, merged_empty]
  | append_singleton more a ih => rw [← List.append_assoc, mergedAll_concat, ih, mergedAll_concat, merged_assoc]

theorem mergedAll_eq (fragments : List (ScopeArgs ν)) :
    mergedAll fragments =
      ⟨fragments.flatMap (·.conditions), lastLimit fragments, lastOffset fragments, lastOrder fragments⟩ := by
  induction fragments using List.reverseRecOn with
  | nil => rfl
  | append_singleton fragments a ih =>
    rw [mergedAll_concat, ih]
    obtain ⟨conditions, limit, offset, order⟩ := a
    simp only [merged, mk.injEq]
    refine ⟨?_, ?_, ?_, ?_⟩
    · simp
    · cases limit <;> simp [lastLimit]
    · by_cases h : offset = 0
      · simp [lastOffset, h]
      · simp [lastOffset, h]
    · cases order with
      | nil => simp [lastOrder]
      | cons o rest => simp [lastOrder]

end ScopeArgs

namespace RequestArgs

/-- No scope is kept twice. -/
def Apart (r : RequestArgs) : Prop := (Assoc.keys r.scopes).Nodup

theorem nodup_join {scopes : Scopes} (h : scopes.keys.Nodup) (scope : Option String) (args : ScopeArgs String) :
    (join scopes scope args).keys.Nodup :=
  Assoc.nodup_put h scope _

theorem Apart.overlay {r : RequestArgs} (h : r.Apart) (s : RequestArgs) : (r.overlay s).Apart := by
  obtain ⟨scopes⟩ := r
  obtain ⟨later⟩ := s
  induction later generalizing scopes with
  | nil => exact h
  | cons p rest ih => exact ih (join scopes p.1 p.2) (nodup_join h p.1 p.2)

theorem get_of_not_mem {scopes : Scopes} {k : Option String} (h : k ∉ scopes.keys) : get ⟨scopes⟩ k = .empty := by
  rw [get, Assoc.get?_eq_none_iff.2 h, Option.getD_none]

/-- Arguments laid over others are merged with them scope by scope. -/
theorem get_overlay {s : RequestArgs} (h : s.Apart) (r : RequestArgs) (k : Option String) :
    (r.overlay s).get k = (r.get k).merged (s.get k) := by
  obtain ⟨scopes⟩ := r
  obtain ⟨later⟩ := s
  induction later generalizing scopes with
  | nil => exact (ScopeArgs.merged_empty _).symm
  | cons p rest ih =>
    obtain ⟨hp, hrest⟩ := List.nodup_cons.1 h
    have hstep := ih (join scopes p.1 p.2) hrest
    change (overlay ⟨join scopes p.1 p.2⟩ ⟨rest⟩).get k = _
    rw [hstep, get_join]
    by_cases hk : p.1 = k
    · subst hk
      -- no later fragment is of this scope
      have hlast : get ⟨rest⟩ p.1 = .empty := get_of_not_mem hp
      have hfirst : get ⟨p :: rest⟩ p.1 = p.2 := by simp [get, Assoc.get?_cons]
      rw [if_pos rfl, hlast, hfirst, ScopeArgs.merged_empty]
    · have hsame : get ⟨p :: rest⟩ k = get ⟨rest⟩ k := by simp [get, Assoc.get?_cons, hk]
      rw [if_neg hk, hsame]

/-! ## Fragments laid over one after the other -/

theorem mem_keys_join {scopes : Scopes} {k : Option String} (scope : Option String) (args : ScopeArgs String) :
    k ∈ (join scopes scope args).keys ↔ k ∈ scopes.keys ∨ k = scope := by
  rw [join, Assoc.change, Assoc.keys_put]
  split
  · exact ⟨.inl, fun h => h.elim id fun he => he ▸ ‹_›⟩
  · simp

theorem join_join (scopes : Scopes) (k : Option String) (a b : ScopeArgs String) :
    join (join scopes k a) k b = join scopes k (a.merged b) := by
  rw [join, Assoc.change, join, Assoc.change, Assoc.get?_put, if_pos rfl, Assoc.put_put, join, Assoc.change]
  cases scopes.get? k with
  | none => rfl
  | some c => exact congrArg (Assoc.put scopes k) (ScopeArgs.merged_assoc c a b)

theorem join_comm {scopes : Scopes} {j k : Option String} (hne : j ≠ k) (hk : k ∈ scopes.keys)
    (a b : ScopeArgs String) : join (join scopes j a) k b = join (join scopes k b) j a := by
  simp only [join, Assoc.change, Assoc.get?_put, if_neg hne, if_neg (Ne.symm hne)]
  exact Assoc.put_comm hne hk _ _

/-- Where its scope is there already, a fragment may be joined before those of other scopes or after them. -/
theorem join_overlay {s : RequestArgs} {k : Option String} (hs : k ∉ Assoc.keys s.scopes) {scopes : Scopes}
    (hk : k ∈ scopes.keys) (a : ScopeArgs String) :
    (RequestArgs.mk (join scopes k a)).overlay s = ⟨join ((RequestArgs.mk scopes).overlay s).scopes k a⟩ := by
  obtain ⟨later⟩ := s
  induction later generalizing scopes with
  | nil => rfl
  | cons p rest ih =>
    obtain ⟨hp, hrest⟩ := List.ne_and_not_mem_of_not_mem_cons hs
    have hstep := ih ((mem_keys_join p.1 p.2).2 (.inl hk)) hrest
    rwa [join_comm (Ne.symm hp) hk] at hstep

/-- A fragment joined to what is laid over a request is joined to what comes of it. -/
theorem overlay_join {scopes : Scopes} (h : scopes.keys.Nodup) (r : RequestArgs) (k : Option String)
    (a : ScopeArgs String) : r.overlay ⟨join scopes k a⟩ = ⟨join (r.overlay ⟨scopes⟩).scopes k a⟩ := by
  induction scopes generalizing r with
  | nil => rfl
  | cons p rest ih =>
    obtain ⟨hp, hrest⟩ := List.nodup_cons.1 h
    by_cases hk : p.1 = k
    · subst hk
      have hjoin : join (p :: rest) p.1 a = (p.1, p.2.merged a) :: rest := by
        simp [join, Assoc.change, Assoc.get?_cons, Assoc.put]
      have hfirst : r.overlay ⟨(p.1, p.2.merged a) :: rest⟩ =
          (RequestArgs.mk (join (join r.scopes p.1 p.2) p.1 a)).overlay ⟨rest⟩ := by
        rw [join_join]
        rfl
      rw [hjoin, hfirst]
      exact join_overlay hp ((mem_keys_join p.1 p.2).2 (.inr rfl)) a
    · have hjoin : join (p :: rest) k a = p :: join rest k a := by
        simp [join, Assoc.change, Assoc.get?_cons, Assoc.put, hk]
      rw [hjoin]
      exact ih hrest ⟨join r.scopes p.1 p.2⟩

theorem overlay_assoc {s : RequestArgs} (h : s.Apart) (r t : RequestArgs) :
    (r.overlay s).overlay t = r.overlay (s.overlay t) := by
  obtain ⟨later⟩ := t
  induction later using List.reverseRecOn with
  | nil => rfl
  | append_singleton later p ih =>
    have hlast (u : RequestArgs) : u.overlay ⟨later ++ [p]⟩ = ⟨join (u.overlay ⟨later⟩).scopes p.1 p.2⟩ :=
      congrArg RequestArgs.mk List.foldl_append
    rw [hlast, hlast, ih, overlay_join (h.overlay ⟨later⟩)]

end RequestArgs

namespace Request

/-! ## What a segment changes -/

theorem addCondition_of_read {s : List Char} {c : Option String × Condition String}
    (h : readCondition? s = some c) (scopes : Scopes) :
    addCondition scopes s = .ok (RequestArgs.join scopes c.1 { conditions := [c.2] }) := by
  obtain ⟨scope, condition⟩ := c
  rw [addCondition, h]

theorem addCondition_of_unread {s : List Char} (h : readCondition? s = none) (scopes : Scopes) :
    addCondition scopes s = .error (.invalidFilter (String.ofList s)) := by
  rw [addCondition, h]

/-- The scope that a segment of a filter is meant for. -/
def filterScope (segment : List Char) : Option String := (readCondition? segment).bind Prod.fst

/-- The scope that a segment of a pagination is meant for. -/
def pagingScope (segment : List Char) : Option String := (takeScope segment).1

/-- A segment is refused whatever is there already, or it changes the arguments of its own scope, which count as
empty ones where there are none. -/
def Adds (add : Scopes → List Char → Except RequestError Scopes) (scopeOf : List Char → Option String) : Prop :=
  ∀ segment, (∃ e, ∀ scopes, add scopes segment = .error e) ∨
    ∃ change : Option (ScopeArgs String) → ScopeArgs String, change none = change (some .empty) ∧
      ∀ scopes, add scopes segment = .ok (Assoc.change scopes (scopeOf segment) change)

theorem adds_condition : Adds addCondition filterScope := by
  intro segment
  cases hread : readCondition? segment with
  | none => exact .inl ⟨_, addCondition_of_unread hread⟩
  | some c =>
    have hscope : filterScope segment = c.1 := by rw [filterScope, hread, Option.bind_some]
    exact .inr ⟨_, (ScopeArgs.empty_merged _).symm, fun scopes => hscope ▸ addCondition_of_read hread scopes⟩

theorem Adds.nodup {add : Scopes → List Char → Except RequestError Scopes} {scopeOf : List Char → Option String}
    (h : Adds add scopeOf) {segs : List (List Char)} {scopes : Scopes}
    (hscopes : segs.foldlM add [] = .ok scopes) : scopes.keys.Nodup := by
  have hnil : (Assoc.keys ([] : Scopes)).Nodup := List.nodup_nil
  refine Chain.foldlM_keeps (P := fun scopes : Scopes => scopes.keys.Nodup) ?_ hnil hscopes
  intro before segment after hbefore hadd
  rcases h segment with ⟨e, he⟩ | ⟨change, -, hchange⟩
  · cases (he before).symm.trans hadd
  · rw [← Except.ok.inj ((hchange before).symm.trans hadd)]
    exact Assoc.nodup_put hbefore _ _

/-- The arguments read from strings keep no scope twice. -/
theorem apart_parse {filter pagination : List Char} {r : RequestArgs} (h : parse filter pagination = .ok r) :
    r.Apart := by
  obtain ⟨conditions, hc, h⟩ := Chain.bind_eq_ok.1 h
  obtain ⟨paging, -, h⟩ := Chain.bind_eq_ok.1 h
  rw [← Except.ok.inj h]
  exact RequestArgs.Apart.overlay (adds_condition.nodup hc) _

end Request

end TableGraph
