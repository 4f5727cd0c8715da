import Mathlib.Data.List.Induction
import TableGraph.Proofs.Request.Merging

/-! # What is said by scope

Each segment of a string says something about one scope. What segments say is gathered by scope: a scope has its place
from the first that is said about it, and its arguments are what all that is said about it comes to, in this order
(`gather`). Updating the arguments for one segment after the other comes to the same (`foldl_update`).
-/
namespace TableGraph.Request

theorem eraseDups_concat {α : Type} [BEq α] [LawfulBEq α] (l : List α) (a : α) :
    (l ++ [a]).eraseDups = if a ∈ l then l.eraseDups else l.eraseDups ++ [a] := by
  rw [List.eraseDups_append]
  by_cases h : a ∈ l
  · simp only [List.removeAll, List.filter_cons, List.filter_nil, List.elem_eq_mem, h, decide_true, if_true]
    exact List.append_nil _
  · simp only [List.removeAll, List.filter_cons, List.filter_nil, List.elem_eq_mem, h, decide_false, if_false]
    rfl

theorem nodup_eraseDups {α : Type} [BEq α] [LawfulBEq α] (l : List α) : l.eraseDups.Nodup := by
  induction l using List.reverseRecOn with
  | nil => exact List.nodup_nil
  | append_singleton l a ih =>
    rw [eraseDups_concat]
    split
    · exact ih
    · rename_i h
      refine List.nodup_append.2 ⟨ih, by simp, fun b hb c hc he => h ?_⟩
      rw [← List.mem_singleton.1 hc, ← he]
      exact List.mem_eraseDups.1 hb

section
variable {α : Type} (say : ScopeArgs String → α → ScopeArgs String)

/-- What is said about a scope, in its order. -/
def about (said : List (Option String × α)) (k : Option String) : List α := (said.filter fun p => p.1 = k).map Prod.snd

theorem about_concat (said : List (Option String × α)) (p : Option String × α) (k : Option String) :
    about (said ++ [p]) k = if k = p.1 then about said k ++ [p.2] else about said k := by
  rw [about, List.filter_append, List.map_append]
  by_cases h : k = p.1
  · simp [about, h]
  · simp [about, h, Ne.symm h]

theorem about_of_not_mem {said : List (Option String × α)} {k : Option String} (h : k ∉ said.map Prod.fst) :
    about said k = [] := by
  have hno : ∀ p ∈ said, p.1 ≠ k := fun p hp he => h (List.mem_map.2 ⟨p, hp, he⟩)
  rw [about, show said.filter (fun p => p.1 = k) = [] by simpa using hno, List.map_nil]

/-- What is said, by scope. -/
def gather (said : List (Option String × α)) : Scopes :=
  (said.map Prod.fst).eraseDups.map fun k => (k, (about said k).foldl say .empty)

theorem keys_gather (said : List (Option String × α)) : (gather say said).keys = (said.map Prod.fst).eraseDups := by
  simp [gather, Assoc.keys, Function.comp_def]

theorem get_gather (said : List (Option String × α)) (k : Option String) :
    RequestArgs.get ⟨gather say said⟩ k = (about said k).foldl say .empty := by
  by_cases hk : k ∈ said.map Prod.fst
  · rw [RequestArgs.get, gather, Assoc.get?_map (List.mem_eraseDups.2 hk)]
    rfl
  · have hkeys : k ∉ (gather say said).keys := by rwa [keys_gather, List.mem_eraseDups]
    rw [RequestArgs.get_of_not_mem hkeys, about_of_not_mem hk]
    rfl

/-- One more thing that is said changes the arguments of its scope. -/
theorem gather_concat (said : List (Option String × α)) (p : Option String × α) :
    gather say (said ++ [p]) = update (gather say said) p.1 fun a => say a p.2 := by
  have hnow : ((gather say said).get? p.1).getD .empty = (about said p.1).foldl say .empty := get_gather say said p.1
  have hlast : (about (said ++ [p]) p.1).foldl say .empty = say ((about said p.1).foldl say .empty) p.2 := by
    rw [about_concat, if_pos rfl, List.foldl_append]
    rfl
  have hother {k : Option String} (hk : k ≠ p.1) : about (said ++ [p]) k = about said k := by
    rw [about_concat, if_neg hk]
  rw [update, Assoc.change, hnow, ← hlast, gather, List.map_append, List.map_singleton, eraseDups_concat]
  by_cases hp : p.1 ∈ said.map Prod.fst
  · rw [if_pos hp, gather, Assoc.put_map (nodup_eraseDups _) (List.mem_eraseDups.2 hp)]
    refine List.map_congr_left fun k _ => ?_
    by_cases hk : k = p.1
    · rw [if_pos hk, hk]
    · rw [if_neg hk, hother hk]
  · have hkeys : p.1 ∉ (gather say said).keys := by rwa [keys_gather, List.mem_eraseDups]
    rw [if_neg hp, Assoc.put_of_not_mem hkeys, List.map_append]
    congr 1
    refine List.map_congr_left fun k hk => ?_
    rw [hother fun he => hp (he ▸ List.mem_eraseDups.1 hk)]

theorem foldl_update (said : List (Option String × α)) :
    said.foldl (fun scopes p => update scopes p.1 fun a => say a p.2) [] = gather say said := by
  induction said using List.reverseRecOn with
  | nil => rfl
  | append_singleton said p ih => rw [List.foldl_append, ih, gather_concat, List.foldl_cons, List.foldl_nil]

end

end TableGraph.Request
