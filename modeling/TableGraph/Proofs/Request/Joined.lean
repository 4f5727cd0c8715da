import TableGraph.Proofs.Request.Grouping
import TableGraph.Proofs.Text.Pieces

/-! # Filters put together

Two filters with a bar between them are one filter, and it says what the second one says laid over what the first
one says (`parseFilter_joined`). For its segments are those of the first and then those of the second, and conditions
that are kept by scope may be gathered in two parts (`grouped_append`).
-/
namespace TableGraph.Request
open Text

theorem segments_joined (a b : List Char) : segments (a ++ '|' :: b) = segments a ++ segments b := by
  rw [segments, split_joined, List.map_append, List.filter_append]
  rfl

/-- The fragments that conditions are, each for its scope. -/
def fragmentsOf (cs : List Placed) : Scopes := cs.map fun c => (c.1, { conditions := [c.2] })

theorem grouped_eq_overlay (cs : List Placed) :
    RequestArgs.mk (grouped cs) = RequestArgs.empty.overlay ⟨fragmentsOf cs⟩ := by
  rw [← (foldl_join cs).1, RequestArgs.overlay, fragmentsOf, List.foldl_map]
  rfl

theorem grouped_append (cs ds : List Placed) :
    RequestArgs.mk (grouped (cs ++ ds)) = (RequestArgs.mk (grouped cs)).overlay ⟨grouped ds⟩ := by
  have hempty : RequestArgs.empty.Apart := List.nodup_nil
  calc RequestArgs.mk (grouped (cs ++ ds))
    _ = RequestArgs.empty.overlay ⟨fragmentsOf cs ++ fragmentsOf ds⟩ := by
      rw [grouped_eq_overlay, fragmentsOf, List.map_append]
      rfl
    _ = (RequestArgs.empty.overlay ⟨fragmentsOf cs⟩).overlay ⟨fragmentsOf ds⟩ :=
      congrArg RequestArgs.mk List.foldl_append
    _ = ((RequestArgs.mk (grouped cs)).overlay .empty).overlay ⟨fragmentsOf ds⟩ := by
      rw [← grouped_eq_overlay]
      rfl
    _ = (RequestArgs.mk (grouped cs)).overlay (RequestArgs.empty.overlay ⟨fragmentsOf ds⟩) :=
      RequestArgs.overlay_assoc hempty _ _
    _ = (RequestArgs.mk (grouped cs)).overlay ⟨grouped ds⟩ := by rw [← grouped_eq_overlay]

/-- The second filter is read after the first one, and laid over it. -/
theorem parseFilter_joined_eq (a b : List Char) : parseFilter (a ++ '|' :: b) = do
    let first ← parseFilter a
    let second ← parseFilter b
    return ((RequestArgs.mk first).overlay ⟨second⟩).scopes := by
  rw [parseFilter_eq, parseFilter_eq, parseFilter_eq, segments_joined, List.mapM_append]
  cases (segments a).mapM readPlaced with
  | error e => rfl
  | ok cs =>
    cases (segments b).mapM readPlaced with
    | error e => rfl
    | ok ds => exact congrArg (fun r => Except.ok (RequestArgs.scopes r)) (grouped_append cs ds)

/-- Two filters put together are accepted exactly if both are, and then say what the second one says laid over what the
first one says. Otherwise they are refused for the first one, if it is refused, and else for the second one. -/
theorem parseFilter_joined (a b : List Char) :
    (∀ scopes, parseFilter (a ++ '|' :: b) = .ok scopes ↔ ∃ first second, parseFilter a = .ok first ∧
      parseFilter b = .ok second ∧ RequestArgs.mk scopes = (RequestArgs.mk first).overlay ⟨second⟩) ∧
    ∀ e, parseFilter (a ++ '|' :: b) = .error e ↔
      parseFilter a = .error e ∨ (∃ first, parseFilter a = .ok first) ∧ parseFilter b = .error e := by
  rw [parseFilter_joined_eq]
  constructor
  · intro scopes
    constructor
    · intro h
      obtain ⟨first, hfirst, h⟩ := Chain.bind_eq_ok.1 h
      obtain ⟨second, hsecond, h⟩ := Chain.bind_eq_ok.1 h
      exact ⟨first, second, hfirst, hsecond, congrArg RequestArgs.mk (Except.ok.inj h).symm⟩
    · rintro ⟨first, second, hfirst, hsecond, h⟩
      rw [hfirst, hsecond]
      exact congrArg (fun r => Except.ok (RequestArgs.scopes r)) h.symm
  · intro e
    constructor
    · intro h
      rcases Chain.bind_eq_error.1 h with hfirst | ⟨first, hfirst, h⟩
      · exact .inl hfirst
      · rcases Chain.bind_eq_error.1 h with hsecond | ⟨second, -, h⟩
        · exact .inr ⟨⟨first, hfirst⟩, hsecond⟩
        · cases h
    · rintro (hfirst | ⟨⟨first, hfirst⟩, hsecond⟩)
      · rw [hfirst]
        rfl
      · rw [hfirst, hsecond]
        rfl

end TableGraph.Request
