import TableGraph.Proofs.Resolver.Descent

/-! # Arguments laid over one another

On the way to a nested field the arguments of each level are laid over those from above. They may be laid together in
any groups: a layering of the levels comes to the levels laid over one another one by one (`Layering.whole_eq`), and
that is, scope by scope, what the levels say merged in their order (`get_overlaid`). So what a nested field asks for
does not depend on the groups (`layerings_agree`).
-/
namespace TableGraph

namespace RequestArgs

/-- Requests laid over one another one by one. -/
def overlaid (requests : List RequestArgs) : RequestArgs := requests.foldl overlay empty

theorem overlaid_concat (requests : List RequestArgs) (r : RequestArgs) :
    overlaid (requests ++ [r]) = (overlaid requests).overlay r :=
  List.foldl_append

theorem apart_overlaid (requests : List RequestArgs) : (overlaid requests).Apart := by
  induction requests using List.reverseRecOn with
  | nil => exact List.nodup_nil
  | append_singleton requests r ih =>
    rw [overlaid_concat]
    exact ih.overlay r

theorem overlay_empty (r : RequestArgs) : r.overlay empty = r := rfl

theorem empty_overlay {r : RequestArgs} (h : r.Apart) : empty.overlay r = r := by
  obtain ⟨scopes⟩ := r
  induction scopes using List.reverseRecOn with
  | nil => rfl
  | append_singleton scopes p ih =>
    have hkeys : (Assoc.keys scopes ++ [p.1]).Nodup := by
      rw [← List.map_singleton, Assoc.keys, ← List.map_append]
      exact h
    have hscopes : (RequestArgs.mk scopes).Apart := (List.nodup_append.1 hkeys).1
    -- the scope of the last fragment is not there yet, so the fragment comes behind the others
    have hnew : p.1 ∉ Assoc.keys scopes := by
      intro hmem
      exact (List.nodup_append.1 hkeys).2.2 p.1 hmem p.1 (List.mem_singleton.2 rfl) rfl
    calc empty.overlay ⟨scopes ++ [p]⟩
      _ = ⟨join (empty.overlay ⟨scopes⟩).scopes p.1 p.2⟩ := congrArg RequestArgs.mk List.foldl_append
      _ = ⟨join scopes p.1 p.2⟩ := by rw [ih hscopes]
      _ = ⟨scopes ++ [p]⟩ := by
        rw [join, Assoc.change, Assoc.get?_eq_none_iff.2 hnew, Assoc.put_of_not_mem hnew]

theorem overlaid_cons {r : RequestArgs} (h : r.Apart) (requests : List RequestArgs) :
    overlaid (r :: requests) = requests.foldl overlay r := by
  rw [overlaid, List.foldl_cons, empty_overlay h]

theorem overlaid_append (requests more : List RequestArgs) :
    overlaid (requests ++ more) = (overlaid requests).overlay (overlaid more) := by
  induction more using List.reverseRecOn with
  | nil => rw [List.append_nil]; rfl
  | append_singleton more r ih =>
    rw [← List.append_assoc, overlaid_concat, ih, overlaid_concat, overlay_assoc (apart_overlaid more)]

/-- For every scope the fragments of requests that are laid over one another are merged in their order. -/
theorem get_overlaid {requests : List RequestArgs} (h : ∀ r ∈ requests, r.Apart) (k : Option String) :
    (overlaid requests).get k = ScopeArgs.mergedAll (requests.map fun r => r.get k) := by
  induction requests using List.reverseRecOn with
  | nil => rfl
  | append_singleton requests r ih =>
    have hr : r.Apart := h r (List.mem_append_right _ (List.mem_singleton.2 rfl))
    have hrest : ∀ s ∈ requests, s.Apart := fun s hs => h s (List.mem_append_left _ hs)
    rw [overlaid_concat, get_overlay hr, ih hrest, List.map_append, List.map_singleton, ScopeArgs.mergedAll_concat]

end RequestArgs

/-- The groups in which requests are laid over one another. -/
inductive Layering where
  | layer (r : RequestArgs)
  | laid (below above : Layering)

namespace Layering

/-- The requests from below to above. -/
def layers : Layering → List RequestArgs
  | layer r => [r]
  | laid below above => below.layers ++ above.layers

/-- What the requests come to, each group by itself first. -/
def whole : Layering → RequestArgs
  | layer r => r
  | laid below above => below.whole.overlay above.whole

/-- Whatever the groups are, the requests come to the same as one by one. -/
theorem whole_eq {g : Layering} (h : ∀ r ∈ g.layers, r.Apart) : g.whole = RequestArgs.overlaid g.layers := by
  induction g with
  | layer r =>
    have hr : r.Apart := h r (List.mem_singleton.2 rfl)
    exact (RequestArgs.empty_overlay hr).symm
  | laid below above ihbelow ihabove =>
    have hbelow := ihbelow fun r hr => h r (List.mem_append_left _ hr)
    have habove := ihabove fun r hr => h r (List.mem_append_right _ hr)
    rw [whole, hbelow, habove, layers, RequestArgs.overlaid_append]

end Layering

namespace Resolver
variable {ι : Type} {r : Resolver ι}

/-- The arguments of each level of a chain, from the root request down. The bare ones of a field go by its name. -/
def levels (root : RequestArgs) (hops : List Hop) : List RequestArgs :=
  root :: hops.map fun h => ownScope h.relation.field h.own

theorem apart_levels {root : RequestArgs} (hroot : root.Apart) (hops : List Hop) : ∀ s ∈ levels root hops, s.Apart := by
  refine List.forall_mem_cons.2 ⟨hroot, fun s hs => ?_⟩
  obtain ⟨h, -, rfl⟩ := List.mem_map.1 hs
  exact apart_ownScope (apart_requestArgs h.parsed) h.relation.field

/-- What a row carries are the arguments of all levels. -/
theorem carried_eq_overlaid {root : RequestArgs} (hroot : root.Apart) (hops : List Hop) :
    carried root hops = RequestArgs.overlaid (levels root hops) := by
  rw [levels, RequestArgs.overlaid_cons hroot, List.foldl_map]
  rfl

theorem apart_of_reaches {root : RequestArgs} {hops : List Hop} {v : Value} (h : Reaches r root hops v) :
    root.Apart := by
  induction h with
  | item hroot _ _ _ => exact apart_requestArgs hroot
  | first hroot _ => exact apart_requestArgs hroot
  | hop _ _ ih => exact ih

/-- A nested field asks for what any layering of the levels above it and its own has under its name. -/
theorem calls_of_layering {root : RequestArgs} {hops : List Hop} {v : Value} (hv : Reaches r root hops v) {h : Hop}
    {g : Layering} (hg : g.layers = levels root (hops ++ [h])) (hkey : (v.member h.relation.column).isNull = false)
    {σ : Type} (answer : (c : Call) → σ → Except Failure c.Answer × σ) (s : σ) :
    let scope := callScope (g.whole.forScope h.relation.field)
    ((r.related h.relation v h.args).run answer s).calls =
      [.select (some h.relation.referencedTable) { scope with
        conditions := scope.conditions ++ [⟨h.relation.referencedColumn, "eq", v.member h.relation.column⟩]
        limit := some 1 }] := by
  intro scope
  obtain ⟨hconnected, rfl | ⟨row, rfl⟩⟩ := record_of_reaches hv
  · cases hkey
  · have hroot := apart_of_reaches hv
    have hwhole : g.whole = passedOn h.relation (carried root hops) h.own := by
      have hapart : ∀ s ∈ g.layers, s.Apart := hg ▸ apart_levels hroot (hops ++ [h])
      rw [Layering.whole_eq hapart, hg, ← carried_eq_overlaid hroot]
      exact List.foldl_append
    rw [calls_related hconnected hkey, asked, ← hwhole]
    rfl

end Resolver

open Resolver

/-- Merging of fragments is associative with the empty fragment as identity, and so is laying requests over one another
with the empty request; the latter merges the fragments of each scope, where a scope that is not there counts as one
with the empty fragment. Hence requests may be laid together in any groups. In particular a field reached over a chain
of relations asks for what any layering of the levels has under its name, and that is merged from what the levels say
for it. -/
theorem layerings_agree {ν : Type} (a b c : ScopeArgs ν) {x y : RequestArgs} (hx : x.Apart) (hy : y.Apart)
    (z : RequestArgs) :
    ((a.merged b).merged c = a.merged (b.merged c) ∧ a.merged .empty = a ∧ ScopeArgs.empty.merged a = a) ∧
    ((x.overlay y).overlay z = x.overlay (y.overlay z) ∧ x.overlay .empty = x ∧ RequestArgs.empty.overlay x = x) ∧
    (∀ k, (x.overlay y).get k = (x.get k).merged (y.get k)) ∧
    (∀ g : Layering, (∀ r ∈ g.layers, r.Apart) →
      g.whole = RequestArgs.overlaid g.layers ∧
        ∀ k, g.whole.get k = ScopeArgs.mergedAll (g.layers.map fun r => r.get k)) ∧
    ∀ (ι : Type) (r : Resolver ι) (root : RequestArgs) (hops : List Hop) (v : Value), Reaches r root hops v →
      ∀ (h : Hop) (g : Layering), g.layers = levels root (hops ++ [h]) →
        g.whole.forScope h.relation.field =
            ScopeArgs.mergedAll (contributors root (hops ++ [h]) h.relation.field) ∧
          ((v.member h.relation.column).isNull = false →
            ∀ (σ : Type) (answer : (c : Call) → σ → Except Failure c.Answer × σ) (s : σ),
              let scope := callScope (g.whole.forScope h.relation.field)
              ((r.related h.relation v h.args).run answer s).calls =
                [.select (some h.relation.referencedTable) { scope with
                  conditions :=
                    scope.conditions ++ [⟨h.relation.referencedColumn, "eq", v.member h.relation.column⟩]
                  limit := some 1 }]) := by
  refine ⟨⟨ScopeArgs.merged_assoc a b c, ScopeArgs.merged_empty a, ScopeArgs.empty_merged a⟩,
    ⟨RequestArgs.overlay_assoc hy x z, RequestArgs.overlay_empty x, RequestArgs.empty_overlay hx⟩,
    RequestArgs.get_overlay hy x, fun g hg => ?_, fun ι r root hops v hv h g hg => ⟨?_, ?_⟩⟩
  · have hwhole := Layering.whole_eq hg
    refine ⟨hwhole, fun k => ?_⟩
    rw [hwhole, RequestArgs.get_overlaid hg]
  · have hroot := apart_of_reaches hv
    have hapart : ∀ s ∈ g.layers, s.Apart := hg ▸ apart_levels hroot (hops ++ [h])
    rw [Layering.whole_eq hapart, hg, ← carried_eq_overlaid hroot]
    exact forScope_carried root (hops ++ [h]) h.relation.field
  · intro hkey σ answer s
    exact calls_of_layering hv hg hkey answer s

/-- The arguments of two nested levels laid together before they are laid over those of the root. -/
def folderLayering : Layering :=
  .laid (.layer rootFolderRequest)
    (.laid (.layer (ownScope "parent" smallParent.own)) (.layer (ownScope "parent" deepParent.own)))

/-- The parent of a parent is asked for under the conditions of all three levels, though only the last two have been
laid together. -/
theorem layerings_of_folder :
    let small : RequestArgs := smallParent.own
    let deep : RequestArgs := deepParent.own
    let folder := Value.record [("id", .int 7), ("parent_id", .int 7)] (carried rootFolderRequest [smallParent])
    rootFolderRequest.Apart ∧ small.Apart ∧
      (rootFolderRequest.overlay small).overlay deep = rootFolderRequest.overlay (small.overlay deep) ∧
      folderLayering.layers = levels rootFolderRequest [smallParent, deepParent] ∧
      ((({ connected := true } : Resolver Unit).related parentFolder folder deepParent.args).run folderAnswer ()).calls =
        [.select (some "folders") {
          conditions :=
            [⟨"depth", "gt", .text "1"⟩, ⟨"depth", "gt", .text "2"⟩, ⟨"size", "lt", .text "9"⟩,
              ⟨"depth", "gt", .text "4"⟩, ⟨"id", "eq", .int 7⟩]
          limit := some 1
          offset := 3
          order := [("name", .asc)] }] := by
  intro small deep folder
  let r : Resolver Unit := { connected := true }
  have hroot : rootFolderRequest.Apart := (by decide : (Assoc.keys rootFolderRequest.scopes).Nodup)
  have hsmall : small.Apart := apart_requestArgs smallParent.parsed
  let first := Value.record [("id", .int 7), ("parent_id", .int 7)] rootFolderRequest
  have hfirst : MayGive (r.first (some "folders") rootFolderArgs) first := ⟨Unit, folderAnswer, (), rfl⟩
  have hparent : MayGive (r.related smallParent.relation first smallParent.args) folder := ⟨Unit, folderAnswer, (), rfl⟩
  have hreached : Reaches r rootFolderRequest [smallParent] folder := .hop (.first rfl hfirst) hparent
  obtain ⟨-, ⟨hassoc, -⟩, -, -, hnested⟩ :=
    layerings_agree (ν := String) { limit := some 5 } { offset := 2 } .empty hroot hsmall deep
  have hlayers : folderLayering.layers = levels rootFolderRequest [smallParent, deepParent] := rfl
  obtain ⟨-, hasked⟩ := hnested Unit r rootFolderRequest [smallParent] folder hreached deepParent folderLayering hlayers
  exact ⟨hroot, hsmall, hassoc, hlayers, hasked rfl Unit folderAnswer ()⟩

end TableGraph
