import TableGraph.Proofs.Request.Grammar
import TableGraph.Proofs.Request.Settings

/-! # Arguments without a fault

Whatever the strings of a request are, the arguments read from them name only operators that there are, and neither
a limit nor an offset in them is negative (`sound_parse`). Merging arguments keeps this, and so does laying them over
others.
-/
namespace TableGraph

namespace ScopeArgs

/-- Every operator is one of those that there are, and no count is negative. -/
structure Sound (a : ScopeArgs String) : Prop where
  operators : ∀ c ∈ a.conditions, ∃ op : Operator, c.op = op.name
  limit : ∀ n ∈ a.limit, 0 ≤ n
  offset : 0 ≤ a.offset

theorem sound_empty : (empty : ScopeArgs String).Sound where
  operators _ hc := nomatch hc
  limit _ hn := nomatch hn
  offset := Int.le_refl 0

theorem Sound.merged {a b : ScopeArgs String} (ha : a.Sound) (hb : b.Sound) : (a.merged b).Sound where
  operators c hc := (List.mem_append.1 hc).elim (ha.operators c) (hb.operators c)
  limit n hn := by
    cases hlimit : b.limit with
    | none =>
      rw [ScopeArgs.merged, hlimit] at hn
      exact ha.limit n hn
    | some m =>
      rw [ScopeArgs.merged, hlimit] at hn
      exact hb.limit n (hlimit ▸ hn)
  offset := by
    simp only [ScopeArgs.merged]
    split
    · exact ha.offset
    · exact hb.offset

end ScopeArgs

/-- The arguments of every scope are without a fault. -/
def Scopes.Sound (scopes : Scopes) : Prop := ∀ p ∈ scopes, p.2.Sound

namespace RequestArgs

def Sound (r : RequestArgs) : Prop := r.scopes.Sound

theorem sound_empty : RequestArgs.empty.Sound := fun _ hp => nomatch hp

theorem Sound.get {r : RequestArgs} (h : r.Sound) (k : Option String) : (r.get k).Sound := by
  unfold RequestArgs.get
  cases hk : r.scopes.get? k with
  | none => exact ScopeArgs.sound_empty
  | some a => exact h _ (Assoc.mem_of_get? hk)

theorem Sound.forRoot {r : RequestArgs} (h : r.Sound) (table : Option String) : (r.forRoot table).Sound :=
  (h.get none).merged (h.get table)

theorem sound_put {scopes : Scopes} (h : scopes.Sound) (k : Option String) {a : ScopeArgs String} (ha : a.Sound) :
    Scopes.Sound (scopes.put k a) := by
  intro p hp
  rcases Assoc.mem_put hp with rfl | hp
  · exact ha
  · exact h p hp

theorem sound_join {scopes : Scopes} (h : scopes.Sound) (k : Option String) {a : ScopeArgs String} (ha : a.Sound) :
    (join scopes k a).Sound := by
  refine sound_put h k ?_
  cases hk : scopes.get? k with
  | none => exact ha
  | some b => exact (h _ (Assoc.mem_of_get? hk)).merged ha

theorem Sound.overlay {r s : RequestArgs} (hr : r.Sound) (hs : s.Sound) : (r.overlay s).Sound := by
  obtain ⟨scopes⟩ := r
  obtain ⟨later⟩ := s
  induction later generalizing scopes with
  | nil => exact hr
  | cons p rest ih =>
    obtain ⟨hp, hrest⟩ := List.forall_mem_cons.1 hs
    exact ih (join scopes p.1 p.2) (sound_join hr p.1 hp) hrest

end RequestArgs

namespace Request

/-- A filter says nothing but conditions, each with the operator of its clause. -/
theorem sound_parseFilter {raw : List Char} {scopes : Scopes} (h : parseFilter raw = .ok scopes) : scopes.Sound := by
  obtain ⟨cs, -, -, rfl⟩ := parseFilter_ok_iff.1 h
  intro p hp
  obtain ⟨k, -, rfl⟩ := List.mem_map.1 hp
  refine ⟨fun c hc => ?_, (fun _ hn => nomatch hn), Int.le_refl 0⟩
  obtain ⟨placed, hplaced, rfl⟩ := List.mem_map.1 hc
  obtain ⟨clause, -, rfl⟩ := List.mem_map.1 (List.mem_of_mem_filter hplaced)
  exact ⟨clause.operator, rfl⟩

theorem sound_update {scopes : Scopes} (h : scopes.Sound) (scope : Option String)
    {f : ScopeArgs String → ScopeArgs String} (hf : ∀ a, a.Sound → (f a).Sound) : (update scopes scope f).Sound :=
  RequestArgs.sound_put h scope (hf _ (RequestArgs.Sound.get (r := ⟨scopes⟩) h scope))

theorem sound_apply {a : ScopeArgs String} (ha : a.Sound) {c : PagingClause} {s : Setting} (h : c.Sets s) :
    (s.apply a).Sound := by
  cases h with
  | limit _ _ hn => exact ⟨ha.operators, by rintro m ⟨⟩; exact hn, ha.offset⟩
  | offset _ _ hn => exact ⟨ha.operators, ha.limit, hn⟩
  | column => exact ⟨ha.operators, ha.limit, ha.offset⟩
  | directed => exact ⟨ha.operators, ha.limit, ha.offset⟩

theorem sound_addPaging {scopes after : Scopes} {segment : List Char} (h : scopes.Sound)
    (hadd : addPaging scopes segment = .ok after) : after.Sound := by
  rw [addPaging_eq] at hadd
  obtain ⟨⟨place, s⟩, hread, rfl⟩ := Chain.map_eq_ok.1 hadd
  obtain ⟨c, -, -, -, hsets⟩ := readSetting_eq_ok_iff.1 hread
  exact sound_update h place fun a ha => sound_apply ha hsets

/-- What can be read is without a fault. -/
theorem sound_parse {filter pagination : List Char} {r : RequestArgs} (h : parse filter pagination = .ok r) :
    r.Sound := by
  obtain ⟨conditions, hconditions, h⟩ := Chain.bind_eq_ok.1 h
  obtain ⟨paging, hpaging, h⟩ := Chain.bind_eq_ok.1 h
  have hnil : Scopes.Sound [] := fun _ hp => nomatch hp
  have hcounts : paging.Sound := Chain.foldlM_keeps (fun _ _ _ hb he => sound_addPaging hb he) hnil hpaging
  rw [← Except.ok.inj h]
  exact RequestArgs.Sound.overlay (sound_parseFilter hconditions) hcounts

end Request

end TableGraph
