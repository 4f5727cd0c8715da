import TableGraph.Proofs.Request.Gathering

/-! # Conditions by scope

The conditions of a filter are kept by scope: a scope has its place from its first condition, and under it stand
all of its conditions in their order (`grouped`). That is what adding them one by one comes to (`foldl_join`), and
a filter is read by adding what each of its segments says (`parseFilter_eq_ok_iff`), up to the first one that says
nothing (`parseFilter_eq_error_iff`).
-/
namespace TableGraph

namespace Request

/-- A condition with its scope. -/
abbrev Placed := Option String × Condition String

/-- The conditions of a scope, in their order. -/
def conditionsOf (cs : List Placed) (k : Option String) : ScopeArgs String :=
  { conditions := (cs.filter fun c => c.1 = k).map Prod.snd }

/-- The scopes that have conditions, in the order in which they first come. -/
def scopesOf (cs : List Placed) : List (Option String) := (cs.map Prod.fst).eraseDups

/-- Conditions kept by scope. -/
def grouped (cs : List Placed) : Scopes := (scopesOf cs).map fun k => (k, conditionsOf cs k)

theorem keys_grouped (cs : List Placed) : (grouped cs).keys = scopesOf cs := by
  simp [grouped, Assoc.keys, Function.comp_def]

theorem mem_scopesOf {cs : List Placed} {k : Option String} : k ∈ scopesOf cs ↔ ∃ c ∈ cs, c.1 = k := by
  rw [scopesOf, List.mem_eraseDups, List.mem_map]

theorem foldl_merged (conditions : List (Condition String)) (a : ScopeArgs String) :
    conditions.foldl (fun a c => a.merged { conditions := [c] }) a = a.merged { conditions := conditions } := by
  induction conditions generalizing a with
  | nil => exact (ScopeArgs.merged_empty a).symm
  | cons c rest ih =>
    rw [List.foldl_cons, ih, ScopeArgs.merged_assoc]
    rfl

/-- To keep conditions by scope is to gather what they say. -/
theorem grouped_eq_gather (cs : List Placed) : grouped cs = gather (fun a c => a.merged { conditions := [c] }) cs := by
  refine List.map_congr_left fun k _ => ?_
  rw [foldl_merged, ScopeArgs.empty_merged]
  rfl

/-- What is kept for a scope are its conditions in their order, and nothing about paging. -/
theorem get_grouped (cs : List Placed) (k : Option String) : RequestArgs.get ⟨grouped cs⟩ k = conditionsOf cs k := by
  rw [grouped_eq_gather, get_gather, foldl_merged, ScopeArgs.empty_merged]
  rfl

theorem grouped_singleton (c : Placed) : grouped [c] = [(c.1, { conditions := [c.2] })] := by
  simp [grouped, scopesOf, conditionsOf, List.eraseDups_cons]

theorem join_eq_update (scopes : Scopes) (scope : Option String) (args : ScopeArgs String) :
    RequestArgs.join scopes scope args = update scopes scope fun a => a.merged args := by
  refine congrArg (Assoc.change scopes scope) (funext fun a => ?_)
  cases a with
  | none => exact (ScopeArgs.empty_merged args).symm
  | some a => rfl

/-- Conditions that are added one by one are kept by scope. -/
theorem foldl_join (cs : List Placed) :
    cs.foldl (fun scopes c => RequestArgs.join scopes c.1 { conditions := [c.2] }) [] = grouped cs ∧
      (scopesOf cs).Nodup := by
  refine ⟨?_, nodup_eraseDups _⟩
  simp only [join_eq_update, grouped_eq_gather]
  exact foldl_update (fun a c => a.merged { conditions := [c] }) cs

/-! ## Reading a filter -/

/-- The condition of a segment with its scope. -/
def readPlaced (segment : List Char) : Except RequestError Placed :=
  match readCondition? segment with
  | some c => .ok c
  | none => .error (.invalidFilter (String.ofList segment))

theorem readPlaced_eq_ok_iff {segment : List Char} {c : Placed} :
    readPlaced segment = .ok c ↔ readCondition? segment = some c := by
  unfold readPlaced
  cases readCondition? segment with
  | none => simp
  | some d => simp

theorem readPlaced_eq_error_iff {segment : List Char} {e : RequestError} : readPlaced segment = .error e ↔
    readCondition? segment = none ∧ e = .invalidFilter (String.ofList segment) := by
  unfold readPlaced
  cases readCondition? segment with
  | none => simp [eq_comm]
  | some d => simp

theorem mapM_readPlaced_eq_ok_iff {segs : List (List Char)} {cs : List Placed} :
    segs.mapM readPlaced = .ok cs ↔ segs.map readCondition? = cs.map some := by
  induction segs generalizing cs with
  | nil =>
    constructor
    · intro h
      rw [← Except.ok.inj h]
      rfl
    · intro h
      rw [List.map_eq_nil_iff.1 h.symm]
      rfl
  | cons s segs ih =>
    rw [Chain.mapM_cons_ok]
    constructor
    · rintro ⟨c, rest, hc, hrest, rfl⟩
      rw [List.map_cons, List.map_cons, readPlaced_eq_ok_iff.1 hc, ih.1 hrest]
    · intro h
      cases cs with
      | nil => cases h
      | cons c rest =>
        obtain ⟨hc, hrest⟩ := List.cons.inj h
        exact ⟨c, rest, readPlaced_eq_ok_iff.2 hc, ih.2 hrest, rfl⟩

/-- A filter is read one segment after the other, and the conditions read are kept by scope. -/
theorem parseFilter_eq (raw : List Char) : parseFilter raw = ((segments raw).mapM readPlaced).map grouped := by
  have hadd : addCondition = fun scopes segment =>
      (readPlaced segment).map fun c => RequestArgs.join scopes c.1 { conditions := [c.2] } := by
    funext scopes segment
    unfold addCondition readPlaced
    cases readCondition? segment <;> rfl
  rw [parseFilter, hadd, Chain.foldlM_read]
  congr 1
  exact funext fun cs => (foldl_join cs).1

/-- A filter is read if every segment says a condition, and comes to these conditions by scope. -/
theorem parseFilter_eq_ok_iff {raw : List Char} {scopes : Scopes} :
    parseFilter raw = .ok scopes ↔
      ∃ cs : List Placed, (segments raw).map readCondition? = cs.map some ∧ grouped cs = scopes := by
  rw [parseFilter_eq, Chain.map_eq_ok]
  simp only [mapM_readPlaced_eq_ok_iff]

/-- A filter is refused for the first segment that says none. -/
theorem parseFilter_eq_error_iff {raw : List Char} {e : RequestError} :
    parseFilter raw = .error e ↔ ∃ before s after, segments raw = before ++ s :: after ∧
      (∀ t ∈ before, (readCondition? t).isSome) ∧ readCondition? s = none ∧ e = .invalidFilter (String.ofList s) := by
  rw [parseFilter_eq, Chain.map_eq_error, Chain.mapM_eq_error_iff]
  simp only [readPlaced_eq_ok_iff, readPlaced_eq_error_iff, Option.isSome_iff_exists]

end Request
end TableGraph
