import TableGraph.Proofs.Request.Paging
import TableGraph.Proofs.Resolver.Pages
import TableGraph.Proofs.Resolver.RootFragments

/-! # Which offset a select takes

An offset may be set for a field by several fragments, and each fragment keeps the last one that it sets. Of the
fragments the later one counts, but an offset of zero is the same to it as none. So the offset that should count is
taken if it is not zero, or if no fragment before sets another one (`last_offset_taken_iff`).
-/
namespace TableGraph

/-- How many rows a select passes over. -/
def Call.offset? : Call → Option Int
  | .select _ a => some a.offset
  | _ => none

namespace ScopeArgs
variable {ν : Type}

theorem offset_merged_eq_zero_iff (a b : ScopeArgs ν) : (a.merged b).offset = 0 ↔ b.offset = 0 ∧ a.offset = 0 := by
  by_cases h : b.offset = 0
  · simp [merged, h]
  · simp [merged, h]

/-- The later offset is kept, but one of zero only if there is no other before. -/
theorem offset_merged_iff (a b : ScopeArgs ν) : (a.merged b).offset = b.offset ↔ (b.offset = 0 → a.offset = 0) := by
  by_cases h : b.offset = 0
  · simp [merged, h]
  · simp [merged, h]

end ScopeArgs

namespace Resolver
open Request
variable {ι : Type} {r : Resolver ι}

/-- Whatever the database answers, one select is asked for, and it starts from this offset. -/
def SelectsFrom (w : Work ι Value) (n : Int) : Prop :=
  ∀ (σ : Type) (answer : (c : Call) → σ → Except Failure c.Answer × σ) (s : σ),
    (w.run answer s).calls.filterMap Call.offset? = [n]

theorem SelectsFrom.iff_eq {w : Work ι Value} {m : Int} (h : SelectsFrom w m) (n : Int) : SelectsFrom w n ↔ m = n := by
  constructor
  · intro hn
    let answer (c : Call) (s : Unit) : Except Failure c.Answer × Unit := (.error (.database .general), s)
    exact (List.cons.inj ((h Unit answer ()).symm.trans (hn Unit answer ()))).1
  · rintro rfl
    exact h

theorem selectsFrom_related (hconnected : r.connected = true) {rel : Relation} {parent : Value} {args : Args}
    {own inherited : RequestArgs} (hkey : (parent.member rel.column).isNull = false) (hown : requestArgs args = .ok own)
    (hinherited : inheritedArgs parent = .ok inherited) :
    SelectsFrom (r.related rel parent args) ((passedOn rel inherited own).forScope rel.field).offset := by
  intro σ answer s
  rw [calls_related_of hconnected hkey hown hinherited]
  rfl

theorem selectsFrom_page (hconnected : r.connected = true) (table : Option String) {args : Args} {request : RequestArgs}
    (hrequest : requestArgs args = .ok request) : SelectsFrom (r.page table args) (request.forRoot table).offset := by
  intro σ answer s
  let calls : List Call := [pageCount table (request.forRoot table), r.pageSelect table (request.forRoot table)]
  have hcalls : ((r.page table args).run answer s).calls = calls := by
    rw [page_eq r table hconnected hrequest, Work.run_both, Work.Outcome.calls_precededBy, Work.calls_orNull]
    rfl
  rw [hcalls]
  rfl

theorem selectsFrom_first (hconnected : r.connected = true) (table : Option String) {args : Args}
    {request : RequestArgs} (hrequest : requestArgs args = .ok request) :
    SelectsFrom (r.first table args) (request.forRoot table).offset := by
  intro σ answer s
  rw [first, requireConnection, if_pos hconnected, hrequest, Work.calls_orNull]
  exact congrArg (List.filterMap Call.offset?) (calls_firstOf answer table _ request s)

/-! ## Offsets of fragments -/

/-- The offset of a scope is the last one that the pagination sets for it; the filter sets none. -/
theorem offset_requestArgs {args : Args} {request : RequestArgs} (h : requestArgs args = .ok request)
    {cs : PagingClauses} (hcs : cs.Spell (argText args "pagination")) (k : Option String) :
    (request.get k).offset = (cs.offset? k).getD 0 := by
  rw [requestArgs_eq, Chain.mapError_eq_ok] at h
  obtain ⟨conditions, hconditions, h⟩ := Chain.bind_eq_ok.1 h
  obtain ⟨paging, hpaging, h⟩ := Chain.bind_eq_ok.1 h
  obtain rfl := Except.ok.inj h
  obtain rfl : cs.settled = paging := Except.ok.inj ((parsePagination_ok_iff.2 ⟨cs, hcs, rfl⟩).symm.trans hpaging)
  have hnone : (RequestArgs.get ⟨conditions⟩ k).offset = 0 := by rw [get_parseFilter hconditions]
  have hapart : RequestArgs.Apart ⟨cs.settled⟩ := adds_paging.nodup hpaging
  rw [RequestArgs.get_overlay hapart, PagingClauses.get_settled, ScopeArgs.merged, hnone]
  exact ite_eq_right_iff.2 fun h => h.symm

/-- The offset that a field's own fragments set, the bare ones or else those under its name, counts if it is not zero,
or if there is no other one. -/
theorem offset_passedOn_iff {args : Args} {own : RequestArgs} (hown : requestArgs args = .ok own) {cs : PagingClauses}
    (hcs : cs.Spell (argText args "pagination")) {rel : Relation} {n : Int}
    (hlast : (cs.offset? none <|> cs.offset? (some rel.field)) = some n) (inherited : RequestArgs) :
    ((passedOn rel inherited own).forScope rel.field).offset = n ↔
      (n = 0 → (cs.offset? (some rel.field)).getD 0 = 0 ∧ (inherited.forScope rel.field).offset = 0) := by
  have hbare := offset_requestArgs hown hcs none
  have hscoped := offset_requestArgs hown hcs (some rel.field)
  rw [RequestArgs.forScope, get_passedOn hown, ← hscoped]
  cases hset : cs.offset? none with
  | some m =>
    rw [hset] at hlast hbare
    obtain rfl : (own.get none).offset = n := hbare.trans (Option.some.inj hlast)
    rw [← ScopeArgs.offset_merged_eq_zero_iff, ← ScopeArgs.merged_assoc]
    exact ScopeArgs.offset_merged_iff _ _
  | none =>
    have hlast : cs.offset? (some rel.field) = some n := by rwa [hset] at hlast
    rw [hset] at hbare
    rw [hlast] at hscoped
    have hsame : ((own.get (some rel.field)).merged (own.get none)).offset = n := (if_pos hbare).trans hscoped
    rw [← hsame, ScopeArgs.offset_merged_iff, hsame, hscoped]
    exact ⟨fun h hzero => ⟨hzero, h hzero⟩, fun h hzero => (h hzero).2⟩

theorem offset_forRoot_iff {args : Args} {request : RequestArgs} (hrequest : requestArgs args = .ok request)
    {cs : PagingClauses} (hcs : cs.Spell (argText args "pagination")) {table : String} {n : Int}
    (hlast : cs.offset? (some table) = some n) :
    (request.forRoot (some table)).offset = n ↔ (n = 0 → (cs.offset? none).getD 0 = 0) := by
  have hbare := offset_requestArgs hrequest hcs none
  have hscoped := offset_requestArgs hrequest hcs (some table)
  rw [hlast] at hscoped
  obtain rfl : (request.get (some table)).offset = n := hscoped
  rw [← hbare]
  exact ScopeArgs.offset_merged_iff _ _

end Resolver

open Resolver Request

/-- The last offset that a relation field's own pagination sets for the field, by a bare segment or else by one scoped
by the field, is the offset of the select for it exactly if it is not zero, or if neither the field's scope nor the
inherited request sets another one. The last offset that a root request sets for the table is that of the select for
the page or the first row exactly if it is not zero, or if no bare segment sets another one. -/
theorem last_offset_taken_iff {ι : Type} (r : Resolver ι) (hconnected : r.connected = true) :
    (∀ (rel : Relation) (parent : Value) (args : Args) (own inherited : RequestArgs) (cs : PagingClauses) (n : Int),
      (parent.member rel.column).isNull = false → requestArgs args = .ok own → inheritedArgs parent = .ok inherited →
      cs.Spell (argText args "pagination") → (cs.offset? none <|> cs.offset? (some rel.field)) = some n →
      (SelectsFrom (r.related rel parent args) n ↔
        (n = 0 → (cs.offset? (some rel.field)).getD 0 = 0 ∧ (inherited.forScope rel.field).offset = 0))) ∧
    ∀ (table : String) (args : Args) (request : RequestArgs) (cs : PagingClauses) (n : Int),
      requestArgs args = .ok request → cs.Spell (argText args "pagination") → cs.offset? (some table) = some n →
      (SelectsFrom (r.page (some table) args) n ↔ (n = 0 → (cs.offset? none).getD 0 = 0)) ∧
      (SelectsFrom (r.first (some table) args) n ↔ (n = 0 → (cs.offset? none).getD 0 = 0)) := by
  constructor
  · intro rel parent args own inherited cs n hkey hown hinherited hcs hlast
    rw [(selectsFrom_related hconnected hkey hown hinherited).iff_eq]
    exact offset_passedOn_iff hown hcs hlast inherited
  · intro table args request cs n hrequest hcs hlast
    rw [(selectsFrom_page hconnected (some table) hrequest).iff_eq,
      (selectsFrom_first hconnected (some table) hrequest).iff_eq]
    exact ⟨offset_forRoot_iff hrequest hcs hlast, offset_forRoot_iff hrequest hcs hlast⟩

/-- A segment that sets an offset. -/
def startAt (scope : Option String) (n : Nat) : PagingClause × Setting :=
  (⟨scope.map String.toList, "offset".toList, Number.natText n⟩, .offset n)

theorem startAt_sets {scope : Option String} (hscope : ∀ s ∈ scope, ':' ∉ s.toList ∧ '=' ∉ s.toList) {n : Nat}
    (hn : (Number.natText n).length ≤ Number.maxDigits) :
    (startAt scope n).1.Divided ∧ (startAt scope n).1.Sets (startAt scope n).2 := by
  have hword : (startAt scope n).1.word = "offset" := by
    change String.ofList (Text.lowerAscii (Text.trim "offset".toList)) = "offset"
    decide
  have hread : Number.readInt? (Text.trim (startAt scope n).1.value) = some (n : Int) := by
    rw [startAt, trim_natText, Number.readInt?_natText, if_pos hn]
  refine ⟨⟨?_, ?_, fun _ => ?_⟩, .offset hword hread (Int.natCast_nonneg n)⟩
  · intro s hs
    obtain ⟨t, ht, rfl⟩ := Option.map_eq_some_iff.1 hs
    exact hscope t ht
  · exact show '=' ∉ "offset".toList by decide
  · exact show ':' ∉ "offset".toList by decide

/-- Two segments that set offsets. -/
theorem spell_startAt {j k : Option String} {m n : Nat} {raw : List Char}
    (hj : ∀ s ∈ j, ':' ∉ s.toList ∧ '=' ∉ s.toList) (hk : ∀ s ∈ k, ':' ∉ s.toList ∧ '=' ∉ s.toList)
    (hm : (Number.natText m).length ≤ Number.maxDigits) (hn : (Number.natText n).length ≤ Number.maxDigits)
    (htexts : [(startAt j m).1.text, (startAt k n).1.text] = segments raw) :
    PagingClauses.Spell [startAt j m, startAt k n] raw :=
  ⟨htexts, List.forall_mem_cons.2 ⟨startAt_sets hj hm, List.forall_mem_singleton.2 (startAt_sets hk hn)⟩⟩

/-- The own fragments of a field count, and the bare one most of all; the scoped one counts at the root. -/
theorem author_offset_taken :
    let r : Resolver Unit := { connected := true }
    let inherited : RequestArgs := ⟨[(some "authors", { offset := 5 })]⟩
    let own : Args := [("pagination", .text "offset=7|authors:offset=2")]
    let root : Args := [("pagination", .text "posts:offset=3|offset=5")]
    SelectsFrom (r.related authorOfPosts (.record [("author_id", .int 1)] inherited) own) 7 ∧
      SelectsFrom (r.page (some "posts") root) 3 ∧ SelectsFrom (r.first (some "posts") root) 3 := by
  intro r inherited own root
  have hown : PagingClauses.Spell [startAt none 7, startAt (some "authors") 2] (argText own "pagination") :=
    spell_startAt (by decide) (by decide) (by decide) (by decide) (by decide +kernel)
  have hroot : PagingClauses.Spell [startAt (some "posts") 3, startAt none 5] (argText root "pagination") :=
    spell_startAt (by decide) (by decide) (by decide) (by decide) (by decide +kernel)
  let ownRequest : RequestArgs := ⟨[(none, { offset := 7 }), (some "authors", { offset := 2 })]⟩
  let rootRequest : RequestArgs := ⟨[(some "posts", { offset := 3 }), (none, { offset := 5 })]⟩
  obtain ⟨hfield, htable⟩ := last_offset_taken_iff r rfl
  have hauthor := hfield authorOfPosts (.record [("author_id", .int 1)] inherited) own ownRequest inherited _ 7 rfl
    (by decide +kernel) rfl hown (by decide +kernel)
  obtain ⟨hpage, hfirst⟩ := htable "posts" root rootRequest _ 3 (by decide +kernel) hroot (by decide +kernel)
  exact ⟨hauthor.2 (by decide), hpage.2 (by decide), hfirst.2 (by decide)⟩

/-- The offset that comes with the post stands for its author although the field sets one of zero, and so does the bare
offset of a root request although its table sets one of zero. -/
theorem zero_offset_passed_over :
    let r : Resolver Unit := { connected := true }
    let above : Args := [("pagination", .text "authors:offset=5")]
    let inherited : RequestArgs := ⟨[(some "authors", { offset := 5 })]⟩
    let own : Args := [("pagination", .text "offset=0")]
    let root : Args := [("pagination", .text "offset=5|posts:offset=0")]
    let post : Value := .record [("author_id", .int 1)] inherited
    let author := r.related authorOfPosts post own
    requestArgs above = .ok inherited ∧
      (∃ cs : PagingClauses, cs.Spell (argText own "pagination") ∧ cs.offset? none = some 0) ∧
      SelectsFrom author 5 ∧ ¬ SelectsFrom author 0 ∧
      (∃ cs : PagingClauses, cs.Spell (argText root "pagination") ∧ cs.offset? (some "posts") = some 0) ∧
      SelectsFrom (r.first (some "posts") root) 5 ∧ ¬ SelectsFrom (r.first (some "posts") root) 0 ∧
      SelectsFrom (r.page (some "posts") root) 5 ∧ ¬ SelectsFrom (r.page (some "posts") root) 0 := by
  intro r above inherited own root post author
  have hown : PagingClauses.Spell [startAt none 0] (argText own "pagination") :=
    ⟨by decide +kernel, List.forall_mem_singleton.2 (startAt_sets (by decide) (by decide))⟩
  have hroot : PagingClauses.Spell [startAt none 5, startAt (some "posts") 0] (argText root "pagination") :=
    spell_startAt (by decide) (by decide) (by decide) (by decide) (by decide +kernel)
  let ownRequest : RequestArgs := ⟨[(none, { offset := 0 })]⟩
  let rootRequest : RequestArgs := ⟨[(none, { offset := 5 }), (some "posts", { offset := 0 })]⟩
  have hrequest : requestArgs root = .ok rootRequest := by decide +kernel
  have hownRequest : requestArgs own = .ok ownRequest := by decide +kernel
  have hkey : (post.member authorOfPosts.column).isNull = false := rfl
  have hinherited : inheritedArgs post = .ok inherited := rfl
  have hauthor : SelectsFrom author 5 := selectsFrom_related rfl hkey hownRequest hinherited
  have hfirst : SelectsFrom (r.first (some "posts") root) 5 := selectsFrom_first rfl (some "posts") hrequest
  have hpage : SelectsFrom (r.page (some "posts") root) 5 := selectsFrom_page rfl (some "posts") hrequest
  have hne : (5 : Int) ≠ 0 := by decide
  rw [hauthor.iff_eq 0, hfirst.iff_eq 0, hpage.iff_eq 0]
  exact ⟨by decide +kernel, ⟨_, hown, by decide⟩, hauthor, hne, ⟨_, hroot, by decide⟩, hfirst, hne, hpage, hne⟩

end TableGraph
