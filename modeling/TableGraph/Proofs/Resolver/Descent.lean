import TableGraph.Proofs.Request.Merging
import TableGraph.Proofs.Resolver.Related
import TableGraph.Proofs.Work

/-! # Relations followed in a chain

A row carries the arguments of its request, and following a relation hands them on with the field's own
arguments merged in. So what is asked at the end of a chain comes from the root request and from all
levels above, each with its fragment for the field asked (`contributors`); nothing else of any level has
a part in it (`chain_asks_once`).
-/
namespace TableGraph

namespace Resolver
variable {ι : Type}

/-- One level of a chain: the relation followed, and the field's own arguments with what was read from
their strings. -/
structure Hop where
  relation : Relation
  args : Args
  own : RequestArgs
  parsed : requestArgs args = .ok own

/-- Work that may come to a value, on some database. -/
def MayGive (w : Work ι Value) (v : Value) : Prop :=
  ∃ (σ : Type) (answer : (c : Call) → σ → Except Failure c.Answer × σ) (s : σ), (w.run answer s).result = .ok v

/-- A value reached from a request: an item of a page, a first row, or what a relation leads to from a
value reached. The database may be another one at every level. -/
inductive Reaches (r : Resolver ι) (root : RequestArgs) : List Hop → Value → Prop where
  | item {table : Option String} {args : Args} {page v : Value} {items : List Value} :
      requestArgs args = .ok root → MayGive (r.page table args) page → page.member "items" = .list items →
        v ∈ items → Reaches r root [] v
  | first {table : Option String} {args : Args} {v : Value} :
      requestArgs args = .ok root → MayGive (r.first table args) v → Reaches r root [] v
  | hop {hops : List Hop} {v w : Value} {h : Hop} :
      Reaches r root hops v → MayGive (r.related h.relation v h.args) w → Reaches r root (hops ++ [h]) w

/-- The fragments for a field, from the root request down. At its own level a field's bare fragment
comes after the one scoped by its name. -/
def contributors (root : RequestArgs) (hops : List Hop) (field : String) : List (ScopeArgs String) :=
  root.forScope field :: hops.flatMap fun h =>
    h.own.forScope field :: if h.relation.field = field then [h.own.get none] else []

/-- The arguments that a row at the end of a chain carries. -/
def carried (root : RequestArgs) (hops : List Hop) : RequestArgs :=
  hops.foldl (fun request h => passedOn h.relation request h.own) root

/-! ## The arguments carried -/

theorem apart_requestArgs {args : Args} {own : RequestArgs} (h : requestArgs args = .ok own) : own.Apart :=
  Request.apart_parse (Chain.mapError_eq_ok.1 h)

theorem apart_ownScope {own : RequestArgs} (h : own.Apart) (field : String) : (ownScope field own).Apart := by
  unfold ownScope
  cases own.scopes.get? none with
  | none => exact h
  | some bare => exact RequestArgs.nodup_join (h.sublist (List.filter_sublist.map Prod.fst)) _ _

theorem get_ownScope_other {field other : String} (hne : field ≠ other) (own : RequestArgs) :
    (ownScope field own).forScope other = own.forScope other := by
  have hkey : ¬ (some field = some other) := fun he => hne (Option.some.inj he)
  unfold ownScope RequestArgs.forScope
  cases hbare : own.scopes.get? none with
  | none => rfl
  | some bare =>
    dsimp only
    rw [RequestArgs.get_join, if_neg hkey]
    simp [RequestArgs.get, Assoc.get?_drop]

/-- What is passed on for a field: what was inherited for it, then its own fragments under its name, then the bare
ones. -/
theorem get_passedOn {args : Args} {own : RequestArgs} (hown : requestArgs args = .ok own) (rel : Relation)
    (inherited : RequestArgs) : (passedOn rel inherited own).get (some rel.field) =
      (inherited.get (some rel.field)).merged ((own.get (some rel.field)).merged (own.get none)) := by
  rw [passedOn, RequestArgs.get_overlay (apart_ownScope (apart_requestArgs hown) rel.field), get_ownScope]

/-- For other fields the bare ones have no part in it. -/
theorem get_passedOn_other {args : Args} {own : RequestArgs} (hown : requestArgs args = .ok own) {rel : Relation}
    {field : String} (hne : rel.field ≠ field) (inherited : RequestArgs) :
    (passedOn rel inherited own).get (some field) = (inherited.get (some field)).merged (own.get (some field)) := by
  rw [passedOn, RequestArgs.get_overlay (apart_ownScope (apart_requestArgs hown) rel.field)]
  exact congrArg (ScopeArgs.merged _) (get_ownScope_other hne own)

theorem mergedAll_hop (h : Hop) (field : String) :
    ScopeArgs.mergedAll (h.own.forScope field :: if h.relation.field = field then [h.own.get none] else []) =
      (ownScope h.relation.field h.own).forScope field := by
  by_cases hf : h.relation.field = field
  · subst hf
    rw [if_pos rfl]
    exact (congrArg (fun a => a.merged (h.own.get none)) (ScopeArgs.empty_merged _)).trans
      (get_ownScope h.relation.field h.own).symm
  · rw [if_neg hf, get_ownScope_other hf]
    exact ScopeArgs.empty_merged _

/-- What a row carries for a field is merged from the fragments for it, from the root request down. -/
theorem forScope_carried (root : RequestArgs) (hops : List Hop) (field : String) :
    (carried root hops).forScope field = ScopeArgs.mergedAll (contributors root hops field) := by
  -- from the end of the chain, since it is the last level that is laid over what is carried so far
  induction hops using List.reverseRecOn with
  | nil => exact (ScopeArgs.empty_merged _).symm
  | append_singleton hops h ih =>
    have hown := apart_ownScope (apart_requestArgs h.parsed) h.relation.field
    have hcarried : carried root (hops ++ [h]) = (carried root hops).overlay (ownScope h.relation.field h.own) :=
      List.foldl_append
    have hcontributors : contributors root (hops ++ [h]) field = contributors root hops field ++
        (h.own.forScope field :: if h.relation.field = field then [h.own.get none] else []) := by
      simp [contributors]
    rw [hcarried, hcontributors, ScopeArgs.mergedAll_append, mergedAll_hop, ← ih]
    exact RequestArgs.get_overlay hown (carried root hops) (some field)

/-! ## The rows reached -/

section Reached
variable {r : Resolver ι}

theorem connected_of_mayGive {w : Work ι Value} {v : Value} (h : MayGive (r.requireConnection w) v) :
    r.connected = true ∧ MayGive w v := by
  obtain ⟨σ, answer, s, h⟩ := h
  unfold requireConnection at h
  split at h
  · rename_i hconnected
    exact ⟨hconnected, σ, answer, s, h⟩
  · cases h

theorem mayGive_orNull {loss : Loss} {w : Work ι Value} {v : Value} (h : MayGive (.orNull loss w) v) :
    v = .null ∨ MayGive w v := by
  obtain ⟨σ, answer, s, h⟩ := h
  rcases Work.result_of_orNull h with hnull | h
  · exact .inl hnull
  · exact .inr ⟨σ, answer, s, h⟩

theorem mayGive_ofExcept {α : Type} {x : Except Failure α} {k : α → Work ι Value} {v : Value}
    (h : MayGive (.ofExcept x >>= k) v) : ∃ a, x = .ok a ∧ MayGive (k a) v := by
  cases x with
  | ok a => exact ⟨a, rfl, h⟩
  | error e =>
    obtain ⟨σ, answer, s, h⟩ := h
    cases h

theorem mayGive_firstOf {table : Option String} {scope : ScopeArgs Value} {request : RequestArgs} {v : Value}
    (h : MayGive (firstOf (ι := ι) table scope request) v) : v = .null ∨ ∃ row, v = .record row request := by
  obtain ⟨σ, answer, s, h⟩ := h
  change (Work.run answer (.ask (.select table { scope with limit := some 1 }) _) s).result = _ at h
  rw [Work.run_ask] at h
  cases hanswer : (answer (.select table { scope with limit := some 1 }) s).1 with
  | error e =>
    rw [hanswer] at h
    cases h
  | ok rows =>
    rw [hanswer] at h
    rcases headD_records (Except.ok.inj h) with hnull | ⟨row, -, hv⟩
    · exact .inl hnull
    · exact .inr ⟨row, hv⟩

theorem mayGive_pageOf {table : Option String} {scope : ScopeArgs String} {request : RequestArgs} {v : Value}
    (h : MayGive (r.pageOf table scope request) v) :
    ∃ total rows, v = .map [("total", .int total), ("items", .list (records request rows))] := by
  obtain ⟨σ, answer, s, h⟩ := h
  rw [pageOf, Work.run_both] at h
  obtain ⟨⟨total, rows⟩, -, h⟩ := Chain.bind_eq_ok.1 h
  exact ⟨total, rows, (Except.ok.inj h).symm⟩

/-- A page is null, or its items are rows with the arguments that were read. -/
theorem page_of_mayGive {table : Option String} {args : Args} {v : Value} (h : MayGive (r.page table args) v) :
    v = .null ∨ ∃ request total rows, requestArgs args = .ok request ∧
      v = .map [("total", .int total), ("items", .list (records request rows))] := by
  rcases mayGive_orNull (connected_of_mayGive h).2 with rfl | h
  · exact .inl rfl
  · obtain ⟨request, hrequest, h⟩ := mayGive_ofExcept h
    obtain ⟨total, rows, rfl⟩ := mayGive_pageOf h
    exact .inr ⟨request, total, rows, hrequest, rfl⟩

/-- A first row is null, or it carries the arguments that were read. -/
theorem first_of_mayGive {table : Option String} {args : Args} {v : Value} (h : MayGive (r.first table args) v) :
    v = .null ∨ ∃ request row, requestArgs args = .ok request ∧ v = .record row request := by
  rcases mayGive_orNull (connected_of_mayGive h).2 with rfl | h
  · exact .inl rfl
  · obtain ⟨request, hrequest, h⟩ := mayGive_ofExcept h
    rcases mayGive_firstOf h with rfl | ⟨row, rfl⟩
    · exact .inl rfl
    · exact .inr ⟨request, row, hrequest, rfl⟩

/-- The items of a page are rows that carry the page's request. -/
theorem item_of_page {table : Option String} {args : Args} {root : RequestArgs} {page v : Value} {items : List Value}
    (hroot : requestArgs args = .ok root) (h : MayGive (r.page table args) page)
    (hitems : page.member "items" = .list items) (hv : v ∈ items) :
    r.connected = true ∧ ∃ row, v = .record row root := by
  refine ⟨(connected_of_mayGive h).1, ?_⟩
  rcases page_of_mayGive h with rfl | ⟨request, total, rows, hrequest, rfl⟩
  · cases hitems
  · obtain rfl : root = request := Except.ok.inj (hroot.symm.trans hrequest)
    obtain rfl : records root rows = items := by
      injection hitems
    obtain ⟨row, -, rfl⟩ := List.mem_map.1 hv
    exact ⟨row, rfl⟩

theorem record_of_first {table : Option String} {args : Args} {root : RequestArgs} {v : Value}
    (hroot : requestArgs args = .ok root) (h : MayGive (r.first table args) v) :
    r.connected = true ∧ (v = .null ∨ ∃ row, v = .record row root) := by
  refine ⟨(connected_of_mayGive h).1, ?_⟩
  rcases first_of_mayGive h with hnull | ⟨request, row, hrequest, hv⟩
  · exact .inl hnull
  · obtain rfl : root = request := Except.ok.inj (hroot.symm.trans hrequest)
    exact .inr ⟨row, hv⟩

/-- Following a relation gives null, or a row of which the parent has the key. The row carries the arguments that come
with the parent, and over them those of the field. -/
theorem related_of_mayGive {rel : Relation} {parent : Value} {args : Args} {w : Value}
    (h : MayGive (r.related rel parent args) w) : w = .null ∨
      r.connected = true ∧ (parent.member rel.column).isNull = false ∧ ∃ own inherited row,
        requestArgs args = .ok own ∧ inheritedArgs parent = .ok inherited ∧
        w = .record row (passedOn rel inherited own) := by
  unfold related at h
  dsimp only at h
  split at h
  · obtain ⟨σ, answer, s, h⟩ := h
    exact .inl (Except.ok.inj h).symm
  · rename_i hkey
    obtain ⟨hconnected, h⟩ := connected_of_mayGive h
    rcases mayGive_orNull h with hnull | h
    · exact .inl hnull
    · obtain ⟨own, hown, h⟩ := mayGive_ofExcept h
      obtain ⟨inherited, hinherited, h⟩ := mayGive_ofExcept h
      rcases mayGive_firstOf h with hnull | ⟨row, hrow⟩
      · exact .inl hnull
      · exact .inr ⟨hconnected, Bool.not_eq_true _ ▸ hkey, own, inherited, row, hown, hinherited, hrow⟩

theorem record_of_related {h : Hop} {row : Row} {inherited : RequestArgs} {w : Value}
    (hw : MayGive (r.related h.relation (.record row inherited) h.args) w) :
    w = .null ∨ ∃ found, w = .record found (passedOn h.relation inherited h.own) := by
  rcases related_of_mayGive hw with hnull | ⟨-, -, own, request, found, hown, hrequest, hfound⟩
  · exact .inl hnull
  · obtain rfl : h.own = own := Except.ok.inj (h.parsed.symm.trans hown)
    obtain rfl : inherited = request := Except.ok.inj hrequest
    exact .inr ⟨found, hfound⟩

theorem null_of_related {rel : Relation} {args : Args} {w : Value} (hw : MayGive (r.related rel .null args) w) :
    w = .null := by
  obtain ⟨σ, answer, s, hw⟩ := hw
  exact (Except.ok.inj hw).symm

/-- Whatever a chain leads to is null, or a row that carries the arguments of the root request and of all
levels passed. -/
theorem record_of_reaches {root : RequestArgs} {hops : List Hop} {v : Value} (h : Reaches r root hops v) :
    r.connected = true ∧ (v = .null ∨ ∃ row, v = .record row (carried root hops)) := by
  induction h with
  | item hroot hpage hitems hv =>
    obtain ⟨hconnected, row, rfl⟩ := item_of_page hroot hpage hitems hv
    exact ⟨hconnected, .inr ⟨row, rfl⟩⟩
  | first hroot hfirst => exact record_of_first hroot hfirst
  | @hop hops v w h _ hw ih =>
    obtain ⟨hconnected, rfl | ⟨row, rfl⟩⟩ := ih
    · exact ⟨hconnected, .inl (null_of_related hw)⟩
    · have hcarried : carried root (hops ++ [h]) = passedOn h.relation (carried root hops) h.own := List.foldl_append
      rw [hcarried]
      exact ⟨hconnected, record_of_related hw⟩

/-! ## What is asked -/

theorem calls_firstOf {σ : Type} (answer : (c : Call) → σ → Except Failure c.Answer × σ) (table : Option String)
    (scope : ScopeArgs Value) (request : RequestArgs) (s : σ) :
    ((firstOf (ι := ι) table scope request).run answer s).calls = [.select table { scope with limit := some 1 }] := by
  let call : Call := .select table { scope with limit := some 1 }
  change (Work.run answer (.ask call _) s).calls = [call]
  rw [Work.run_ask, Work.Outcome.calls_precededBy_call]
  congr 1
  cases (answer call s).1 <;> rfl

/-- Following a relation from a parent with the key asks one thing. -/
theorem calls_related_of {rel : Relation} {parent : Value} {args : Args} {own inherited : RequestArgs}
    (hconnected : r.connected = true) (hkey : (parent.member rel.column).isNull = false)
    (hown : requestArgs args = .ok own) (hinherited : inheritedArgs parent = .ok inherited) {σ : Type}
    (answer : (c : Call) → σ → Except Failure c.Answer × σ) (s : σ) :
    let scope := callScope ((passedOn rel inherited own).forScope rel.field)
    ((r.related rel parent args).run answer s).calls =
      [.select (some rel.referencedTable) { scope with
        conditions := scope.conditions ++ [Store.StoredTable.keyed rel.referencedColumn (parent.member rel.column)]
        limit := some 1 }] := by
  intro scope
  unfold related requireConnection
  simp only [hkey, hconnected, hown, hinherited, if_true, Bool.false_eq_true, if_false]
  rw [Work.calls_orNull]
  exact calls_firstOf answer _ _ _ s

theorem calls_related {h : Hop} {row : Row} {inherited : RequestArgs} (hconnected : r.connected = true)
    (hkey : (keyValue h.relation row).isNull = false) {σ : Type}
    (answer : (c : Call) → σ → Except Failure c.Answer × σ) (s : σ) :
    ((r.related h.relation (.record row inherited) h.args).run answer s).calls =
      [.select (some h.relation.referencedTable) (asked h.relation row inherited h.own)] := by
  have hmember : ((Value.record row inherited).member h.relation.column).isNull = false := hkey
  exact calls_related_of hconnected hmember h.parsed rfl answer s

end Reached

end Resolver

open Resolver

/-- At the end of a chain of relations from a row of a page or from a first row, following one more relation
from a row with a key asks the database exactly once, for one row of the referenced table. The conditions
are those of the fragments for the field, from the root request down and at the field's own level its bare
ones last, and then the key. The offset and the order are the last ones that a fragment sets. -/
theorem chain_asks_once {ι : Type} {r : Resolver ι} {root : RequestArgs} {hops : List Hop} {v : Value}
    (hv : Reaches r root hops v) (h : Hop) (hkey : (v.member h.relation.column).isNull = false) {σ : Type}
    (answer : (c : Call) → σ → Except Failure c.Answer × σ) (s : σ) :
    let fragments := contributors root (hops ++ [h]) h.relation.field
    ((r.related h.relation v h.args).run answer s).calls =
      [.select (some h.relation.referencedTable) {
        conditions := (fragments.flatMap fun a => a.conditions.map Condition.toCall) ++
          [⟨h.relation.referencedColumn, "eq", v.member h.relation.column⟩]
        limit := some 1
        offset := ScopeArgs.lastOffset fragments
        order := ScopeArgs.lastOrder fragments }] := by
  intro fragments
  obtain ⟨hconnected, rfl | ⟨row, rfl⟩⟩ := record_of_reaches hv
  · cases hkey
  · have hscope : (passedOn h.relation (carried root hops) h.own).forScope h.relation.field =
        ScopeArgs.mergedAll fragments := by
      have hcarried : carried root (hops ++ [h]) = passedOn h.relation (carried root hops) h.own := List.foldl_append
      rw [← hcarried]
      exact forScope_carried root (hops ++ [h]) h.relation.field
    rw [calls_related hconnected hkey, asked, hscope, ScopeArgs.mergedAll_eq]
    simp only [callScope, List.map_flatMap]
    rfl

def parentFolder : Relation := ⟨"Folders", "parent", "folders", "parent_id", "folders", "id"⟩

def rootFolderArgs : Args := [("filter", .text "parent:depth>1|name=etc"), ("pagination", .text "parent:orderby=name")]

def rootFolderRequest : RequestArgs where
  scopes :=
    [(some "parent", { conditions := [⟨"depth", "gt", "1"⟩], order := [("name", .asc)] }),
      (none, { conditions := [⟨"name", "eq", "etc"⟩] })]

/-- The bare condition comes first in the string, and yet last among the fragments. -/
def smallParent : Hop where
  relation := parentFolder
  args := [("filter", .text "size<9|parent:depth>2"), ("pagination", .text "offset=3")]
  own :=
    { scopes :=
        [(none, { conditions := [⟨"size", "lt", "9"⟩], offset := 3 }),
          (some "parent", { conditions := [⟨"depth", "gt", "2"⟩] })] }
  parsed := by decide +kernel

def deepParent : Hop where
  relation := parentFolder
  args := [("filter", .text "parent:depth>4|owner:name=root")]
  own :=
    { scopes :=
        [(some "parent", { conditions := [⟨"depth", "gt", "4"⟩] }),
          (some "owner", { conditions := [⟨"name", "eq", "root"⟩] })] }
  parsed := by decide +kernel

/-- Every folder is in the folder 7. -/
def folderAnswer (c : Call) (s : Unit) : Except Failure c.Answer × Unit :=
  match c with
  | .select .. => (.ok [[("id", .int 7), ("parent_id", .int 7)]], s)
  | _ => (.error (.database .general), s)

/-- From a first folder over its parent to the parent of that, with the same field at both levels. -/
theorem grandparent_asked :
    let r : Resolver Unit := { connected := true }
    let folder := Value.record [("id", .int 7), ("parent_id", .int 7)] (carried rootFolderRequest [smallParent])
    Reaches r rootFolderRequest [smallParent] folder ∧
      ((r.related parentFolder folder deepParent.args).run folderAnswer ()).calls =
        [.select (some "folders") {
          conditions :=
            [⟨"depth", "gt", .text "1"⟩, ⟨"depth", "gt", .text "2"⟩, ⟨"size", "lt", .text "9"⟩,
              ⟨"depth", "gt", .text "4"⟩, ⟨"id", "eq", .int 7⟩]
          limit := some 1
          offset := 3
          order := [("name", .asc)] }] := by
  intro r folder
  let first := Value.record [("id", .int 7), ("parent_id", .int 7)] rootFolderRequest
  have hfirst : MayGive (r.first (some "folders") rootFolderArgs) first := ⟨Unit, folderAnswer, (), rfl⟩
  have hstart : Reaches r rootFolderRequest [] first := .first rfl hfirst
  have hparent : MayGive (r.related smallParent.relation first smallParent.args) folder :=
    ⟨Unit, folderAnswer, (), rfl⟩
  have hreached : Reaches r rootFolderRequest [smallParent] folder := .hop hstart hparent
  exact ⟨hreached, chain_asks_once hreached deepParent rfl folderAnswer ()⟩

end TableGraph
