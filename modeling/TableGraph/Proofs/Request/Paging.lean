import TableGraph.Proofs.Request.Settings

/-! # The grammar of paginations

A pagination is accepted if each of its segments sets something, and comes to what they set by scope: the last limit,
the last offset and all orders (`settled`). Otherwise it is refused for the first segment that has a fault
(`pagination_follows_grammar`).
-/
namespace TableGraph

namespace Setting

def limit? : Setting → Option Int
  | limit n => some n
  | _ => none

def offset? : Setting → Option Int
  | offset n => some n
  | _ => none

def order? : Setting → Option (String × Direction)
  | order column direction => some (column, direction)
  | _ => none

/-- What settings made one after the other come to. -/
theorem foldl_apply (settings : List Setting) : settings.foldl apply .empty =
    { conditions := []
      limit := (settings.filterMap limit?).getLast?
      offset := (settings.filterMap offset?).getLast?.getD 0
      order := settings.filterMap order? } := by
  induction settings using List.reverseRecOn with
  | nil => rfl
  | append_singleton settings s ih =>
    rw [List.foldl_append, ih, List.foldl_cons, List.foldl_nil]
    cases s <;> simp [apply, limit?, offset?, order?]

end Setting

namespace Request

/-- Clauses with what each of them sets. -/
abbrev PagingClauses := List (PagingClause × Setting)

namespace PagingClauses

/-- What is set for a scope, in its order. -/
def of (cs : PagingClauses) (k : Option String) : List Setting := (cs.filter fun c => c.1.place = k).map Prod.snd

/-- The last limit that is set for a scope. -/
def limit? (cs : PagingClauses) (k : Option String) : Option Int := ((cs.of k).filterMap Setting.limit?).getLast?

/-- The last offset that is set for a scope. -/
def offset? (cs : PagingClauses) (k : Option String) : Option Int := ((cs.of k).filterMap Setting.offset?).getLast?

/-- The last limit and the last offset of a scope, and all its orders. -/
def args (cs : PagingClauses) (k : Option String) : ScopeArgs String where
  conditions := []
  limit := cs.limit? k
  offset := (cs.offset? k).getD 0
  order := (cs.of k).filterMap Setting.order?

/-- The arguments of the scopes that are set, in the order in which they first come, and of no others. -/
def settled (cs : PagingClauses) : Scopes := (cs.map fun c => c.1.place).eraseDups.map fun k => (k, cs.args k)

/-- The segments of a pagination are these clauses, and set this. -/
def Spell (cs : PagingClauses) (raw : List Char) : Prop :=
  (cs.map fun c => c.1.text) = segments raw ∧ ∀ c ∈ cs, c.1.Divided ∧ c.1.Sets c.2

theorem about_places (cs : PagingClauses) (k : Option String) :
    about (cs.map fun c => (c.1.place, c.2)) k = cs.of k := by
  rw [about, of, List.filter_map, List.map_map]
  rfl

theorem settled_eq_gather (cs : PagingClauses) :
    cs.settled = gather Setting.apply (cs.map fun c => (c.1.place, c.2)) := by
  rw [settled, gather, List.map_map]
  refine List.map_congr_left fun k _ => ?_
  rw [about_places, Setting.foldl_apply]
  rfl

/-- A scope that is not set has the empty arguments. -/
theorem get_settled (cs : PagingClauses) (k : Option String) : RequestArgs.get ⟨cs.settled⟩ k = cs.args k := by
  rw [settled_eq_gather, get_gather, about_places, Setting.foldl_apply]
  rfl

end PagingClauses

open PagingClauses

theorem mapM_readSetting_eq_ok_iff {segs : List (List Char)} {said : List (Option String × Setting)} :
    segs.mapM readSetting = .ok said ↔ ∃ cs : PagingClauses, (cs.map fun c => c.1.text) = segs ∧
      (∀ c ∈ cs, c.1.Divided ∧ c.1.Sets c.2) ∧ (cs.map fun c => (c.1.place, c.2)) = said := by
  induction segs generalizing said with
  | nil =>
    constructor
    · intro h
      exact ⟨[], rfl, (fun _ hc => nomatch hc), Except.ok.inj h⟩
    · rintro ⟨cs, htexts, -, rfl⟩
      rw [List.map_eq_nil_iff.1 htexts]
      rfl
  | cons s segs ih =>
    rw [Chain.mapM_cons_ok]
    constructor
    · rintro ⟨⟨place, set⟩, rest, hread, hrest, rfl⟩
      obtain ⟨c, hc, rfl, rfl, hsets⟩ := readSetting_eq_ok_iff.1 hread
      obtain ⟨cs, rfl, hcs, rfl⟩ := ih.1 hrest
      exact ⟨(c, set) :: cs, rfl, List.forall_mem_cons.2 ⟨⟨hc, hsets⟩, hcs⟩, rfl⟩
    · rintro ⟨cs, htexts, hcs, rfl⟩
      cases cs with
      | nil => cases htexts
      | cons c cs =>
        obtain ⟨htext, htexts⟩ := List.cons.inj htexts
        obtain ⟨⟨hc, hsets⟩, hcs⟩ := List.forall_mem_cons.1 hcs
        exact ⟨_, _, readSetting_eq_ok_iff.2 ⟨c.1, hc, htext, rfl, hsets⟩, ih.2 ⟨cs, htexts, hcs, rfl⟩, rfl⟩

theorem parsePagination_ok_iff {raw : List Char} {scopes : Scopes} :
    parsePagination raw = .ok scopes ↔ ∃ cs : PagingClauses, cs.Spell raw ∧ cs.settled = scopes := by
  rw [parsePagination_eq, Chain.map_eq_ok]
  constructor
  · rintro ⟨said, hsaid, rfl⟩
    obtain ⟨cs, htexts, hcs, rfl⟩ := mapM_readSetting_eq_ok_iff.1 hsaid
    exact ⟨cs, ⟨htexts, hcs⟩, settled_eq_gather cs⟩
  · rintro ⟨cs, ⟨htexts, hcs⟩, rfl⟩
    exact ⟨_, mapM_readSetting_eq_ok_iff.2 ⟨cs, htexts, hcs, rfl⟩, (settled_eq_gather cs).symm⟩

theorem exists_readSetting_iff {segment : List Char} :
    (∃ p, readSetting segment = .ok p) ↔ ∃ c : PagingClause, c.Legible ∧ c.text = segment := by
  constructor
  · rintro ⟨⟨place, s⟩, h⟩
    obtain ⟨c, hc, htext, -, hsets⟩ := readSetting_eq_ok_iff.1 h
    exact ⟨c, ⟨hc, s, hsets⟩, htext⟩
  · rintro ⟨c, ⟨hc, s, hsets⟩, htext⟩
    exact ⟨_, readSetting_eq_ok_iff.2 ⟨c, hc, htext, rfl, hsets⟩⟩

theorem not_legible_of_fault {segment : List Char} {e : RequestError} (h : PagingFault segment e) :
    ¬ ∃ c : PagingClause, c.Legible ∧ c.text = segment := by
  intro hlegible
  obtain ⟨p, hp⟩ := exists_readSetting_iff.2 hlegible
  cases (readSetting_eq_error_iff.2 h).symm.trans hp

/-- A pagination is accepted exactly if all its segments are clauses that set something, and then comes to what they
set by scope. Otherwise it is refused for the first segment that is none, with what is wrong with it. -/
theorem pagination_follows_grammar (raw : List Char) :
    (∀ scopes, parsePagination raw = .ok scopes ↔ ∃ cs : PagingClauses, cs.Spell raw ∧ cs.settled = scopes) ∧
    ∀ e, parsePagination raw = .error e ↔ ∃ before s after, segments raw = before ++ s :: after ∧
      (∀ t ∈ before, ∃ c : PagingClause, c.Legible ∧ c.text = t) ∧
      (¬ ∃ c : PagingClause, c.Legible ∧ c.text = s) ∧ PagingFault s e := by
  refine ⟨fun scopes => parsePagination_ok_iff, fun e => ?_⟩
  rw [parsePagination_eq, Chain.map_eq_error, Chain.mapM_eq_error_iff]
  simp only [exists_readSetting_iff, readSetting_eq_error_iff]
  constructor
  · rintro ⟨before, s, after, hsegs, hbefore, hfault⟩
    exact ⟨before, s, after, hsegs, hbefore, not_legible_of_fault hfault, hfault⟩
  · rintro ⟨before, s, after, hsegs, hbefore, -, hfault⟩
    exact ⟨before, s, after, hsegs, hbefore, hfault⟩

end Request
end TableGraph
