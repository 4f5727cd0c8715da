import TableGraph.Proofs.Catalog.Relations
import TableGraph.Proofs.Naming.Validity
import TableGraph.Proofs.Request.Fragments
import TableGraph.Proofs.Request.Reading
import TableGraph.Proofs.Resolver.Sessions

/-! # How far the fragments of the root reach

A root request is restricted by its bare fragments and by those scoped by the table's name. Fields below it that are
called without arguments of their own look for the fragments under their own names only. So the bare fragments never
reach them, and those under the table's name reach exactly the fields of that name (`root_fragments_stay_iff`). No
relation of the table itself has it, but one of another table, further down, may.
-/
namespace TableGraph

namespace Resolver
open Errand
variable {ι σ : Type}

/-! ## Rows with and without fragments -/

/-- A row that carries a request, or null. -/
def carrying (request : RequestArgs) (row : Option Row) : Value := row.elim .null fun row => .record row request

theorem headD_records_eq (request : RequestArgs) (rows : List Row) :
    (records request rows).headD .null = carrying request rows.head? := by
  cases rows <;> rfl

theorem passedOn_empty (rel : Relation) (request : RequestArgs) : passedOn rel request .empty = request := rfl

/-- A relation followed without arguments of its own. -/
theorem related_bare (r : Resolver ι) (rel : Relation) (row : Row) (request : RequestArgs) :
    r.related rel (carrying request (some row)) [] =
      if (keyValue rel row).isNull then .done (.ok .null)
      else r.requireConnection (.orNull (.relation rel.type rel.field) do
        let rows ← .request (.select (some rel.referencedTable) (asked rel row request .empty))
        return carrying request rows.head?) := by
  change (if (keyValue rel row).isNull then _ else r.requireConnection (.orNull (.relation rel.type rel.field)
    (firstOf (some rel.referencedTable) (asked rel row request .empty) request))) = _
  simp only [firstOf, headD_records_eq]
  rfl

variable {r : Resolver ι}

/-- From a row with the key it asks once. -/
theorem run_related_bare (hconnected : r.connected = true) {rel : Relation} {row : Row}
    (hkey : (keyValue rel row).isNull = false) (request : RequestArgs)
    (answer : (c : Call) → σ → Except Failure c.Answer × σ) (s : σ) :
    let c : Call := .select (some rel.referencedTable) (asked rel row request .empty)
    (r.related rel (carrying request (some row)) []).run answer s =
      Work.Outcome.contained (.relation rel.type rel.field)
        ⟨(answer c s).1.map fun rows => carrying request rows.head?, (answer c s).2, [.call c]⟩ := by
  intro c
  rw [related_bare, hkey, requireConnection, if_pos hconnected, if_neg Bool.false_ne_true, Work.run_contained]
  congr 1
  change Work.run answer (.ask c _) s = _
  rw [Work.run_ask]
  cases (answer c s).1 <;> rfl

/-- Two requests that say the same under the name of a relation lead to the same rows by the same questions. -/
theorem related_alike {rel : Relation} {request other : RequestArgs}
    (h : other.get (some rel.field) = request.get (some rel.field)) (row : Option Row)
    (answer : (c : Call) → σ → Except Failure c.Answer × σ) (s : σ) :
    ∃ (found : Except Failure (Option Row)) (after : σ) (trace : List (Work.Happening ι)),
      (r.related rel (carrying request row) []).run answer s = ⟨found.map (carrying request), after, trace⟩ ∧
      (r.related rel (carrying other row) []).run answer s = ⟨found.map (carrying other), after, trace⟩ := by
  cases row with
  | none => exact ⟨.ok none, s, [], rfl, rfl⟩
  | some row =>
    have hscope : asked rel row other .empty = asked rel row request .empty := by
      simp only [asked, passedOn_empty, RequestArgs.forScope, h]
    cases hkey : (keyValue rel row).isNull with
    | true =>
      rw [related_bare, related_bare, hkey]
      exact ⟨.ok none, s, [], rfl, rfl⟩
    | false =>
      cases hconnected : r.connected with
      | false =>
        rw [related_bare, related_bare, hkey, requireConnection, requireConnection, hconnected]
        exact ⟨.error (.config .noConnection), s, [], rfl, rfl⟩
      | true =>
        rw [run_related_bare hconnected hkey, run_related_bare hconnected hkey, hscope]
        let c : Call := .select (some rel.referencedTable) (asked rel row request .empty)
        cases hanswer : (answer c s).1 with
        | ok rows => exact ⟨.ok rows.head?, (answer c s).2, [.call c], rfl, rfl⟩
        | error e =>
          cases hdata : e.isData with
          | true =>
            exact ⟨.ok none, (answer c s).2, [.call c] ++ [.event (.lost (.relation rel.type rel.field) e)],
              Work.Outcome.contained_of_data rfl hdata, Work.Outcome.contained_of_data rfl hdata⟩
          | false =>
            exact ⟨.error e, (answer c s).2, [.call c], Work.Outcome.contained_of_stays rfl hdata,
              Work.Outcome.contained_of_stays rfl hdata⟩

/-! ## Down a path -/

/-- Relations followed one after the other, without arguments of their own: what is asked for each. A failure that
stays ends it. -/
def descend (r : Resolver ι) (answer : (c : Call) → σ → Except Failure c.Answer × σ) :
    List Relation → Value → σ → List (List Call)
  | [], _, _ => []
  | rel :: path, v, s =>
    let o := (r.related rel v []).run answer s
    o.calls :: match o.result with
      | .ok w => descend r answer path w o.state
      | .error _ => []

/-- What is asked on a path depends on what the request says under the names on it, and on nothing else of it. -/
theorem descend_congr {path : List Relation} {request other : RequestArgs}
    (h : ∀ rel ∈ path, other.get (some rel.field) = request.get (some rel.field)) (row : Option Row)
    (answer : (c : Call) → σ → Except Failure c.Answer × σ) (s : σ) :
    descend r answer path (carrying other row) s = descend r answer path (carrying request row) s := by
  induction path generalizing row s with
  | nil => rfl
  | cons rel path ih =>
    obtain ⟨hrel, hpath⟩ := List.forall_mem_cons.1 h
    obtain ⟨found, after, trace, hrun, hother⟩ := related_alike (r := r) hrel row answer s
    rw [descend, descend, hrun, hother]
    cases found with
    | error e => rfl
    | ok row => exact congrArg (List.cons _) (ih hpath row after)

/-! ## Root requests -/

/-- A value handed out by a root request on a table: a first row, a page or an item of it. -/
def HandedOut (r : Resolver ι) (table : String) (args : Args) (v : Value) : Prop :=
  ∃ (σ : Type) (answer : (c : Call) → σ → Except Failure c.Answer × σ) (s : σ) (q : Errand),
    (q = .page (some table) args ∨ q = .first (some table) args) ∧ Gives (q, (q.work r).run answer s) v

/-- A row that is handed out carries what was read from the arguments. -/
theorem parsed_of_handedOut {table : String} {args : Args} {row : Row} {request : RequestArgs}
    (h : HandedOut r table args (.record row request)) : requestArgs args = .ok request := by
  obtain ⟨σ, answer, s, q, hq, hgives⟩ := h
  rcases hq with rfl | rfl
  · cases hgives with
    | result h =>
      rcases page_of_mayGive ⟨σ, answer, s, h⟩ with he | ⟨_, _, _, -, he⟩ <;> cases he
    | item h hitems hv =>
      rcases page_of_mayGive ⟨σ, answer, s, h⟩ with rfl | ⟨read, total, rows, hread, rfl⟩
      · cases hitems
      · obtain rfl := Value.list.inj hitems
        obtain ⟨_, -, he⟩ := List.mem_map.1 hv
        exact (Value.record.inj he).2 ▸ hread
  · cases hgives with
    | result h =>
      rcases first_of_mayGive ⟨σ, answer, s, h⟩ with he | ⟨read, _, hread, he⟩
      · cases he
      · exact (Value.record.inj he).2 ▸ hread

/-- The text of an argument, empty if it is not given. -/
def argText (args : Args) (name : String) : List Char := ((args.get? name).getD .null).givenText.toList

theorem requestArgs_eq (args : Args) :
    requestArgs args = (Request.parse (argText args "filter") (argText args "pagination")).mapError .request := rfl

/-- The arguments of a request without the fragments of some scopes. -/
def stripped (dropped : Option String → Bool) (args : Args) : Args :=
  (args.put "filter" (.text (String.ofList (Request.without Request.filterScope dropped (argText args "filter"))))).put
    "pagination" (.text (String.ofList (Request.without Request.pagingScope dropped (argText args "pagination"))))

theorem requestArgs_stripped {args : Args} {request : RequestArgs} (h : requestArgs args = .ok request)
    (dropped : Option String → Bool) :
    ∃ left, requestArgs (stripped dropped args) = .ok left ∧
      ∀ k, left.get k = if dropped k then .empty else request.get k := by
  obtain ⟨left, hleft, hget⟩ := Request.get_without (Chain.mapError_eq_ok.1 h) dropped
  have hfilter : argText (stripped dropped args) "filter" =
      Request.without Request.filterScope dropped (argText args "filter") := by
    rw [argText, stripped, Assoc.get?_put, if_neg (by decide), Assoc.get?_put, if_pos rfl, Option.getD_some,
      toList_givenText, String.toList_ofList]
  have hpagination : argText (stripped dropped args) "pagination" =
      Request.without Request.pagingScope dropped (argText args "pagination") := by
    rw [argText, stripped, Assoc.get?_put, if_pos rfl, Option.getD_some, toList_givenText, String.toList_ofList]
  refine ⟨left, ?_, hget⟩
  rw [requestArgs_eq, hfilter, hpagination]
  exact Chain.mapError_eq_ok.2 hleft

/-- Taking the fragments of some scopes out of a root request on a table, and keeping the row handed out, changes
nothing of what is asked along a path below it, whatever the request, the row and the database are. -/
def Unaffected (r : Resolver ι) (table : String) (path : List Relation) (dropped : Option String → Bool) : Prop :=
  ∀ (args : Args) (request : RequestArgs) (row : Row), HandedOut r table args (.record row request) →
    ∃ left, requestArgs (stripped dropped args) = .ok left ∧
      ∀ (σ : Type) (answer : (c : Call) → σ → Except Failure c.Answer × σ) (s : σ),
        descend r answer path (.record row left) s = descend r answer path (.record row request) s

/-- Fragments whose scopes are no names on a path have no part in what is asked along it. -/
theorem unaffected_of_apart {table : String} {path : List Relation} {dropped : Option String → Bool}
    (h : ∀ rel ∈ path, dropped (some rel.field) = false) : Unaffected r table path dropped := by
  intro args request row hout
  obtain ⟨left, hleft, hget⟩ := requestArgs_stripped (parsed_of_handedOut hout) dropped
  refine ⟨left, hleft, fun σ answer s => descend_congr (fun rel hrel => ?_) (some row) answer s⟩
  rw [hget, h rel hrel]
  rfl

/-- A path of relations of compiled tables, which starts at a table and goes on from the table referred to. -/
def Leads (tables : List TableTypes) : String → List Relation → Prop
  | _, [] => True
  | table, rel :: path => (∃ t ∈ tables, t.table = table ∧ rel ∈ t.relations) ∧ Leads tables rel.referencedTable path

/-! ## A request that leaks -/

/-- A database where every table has one row, the same in all of them. -/
def everywhere (row : Row) (c : Call) (s : Unit) : Except Failure c.Answer × Unit :=
  match c with
  | .count .. => (.ok 1, s)
  | .select .. => (.ok [row], s)
  | _ => (.error (.database .general), s)

theorem descend_everywhere (hconnected : r.connected = true) {path : List Relation} {row : Row}
    (hkeys : ∀ rel ∈ path, (keyValue rel row).isNull = false) (request : RequestArgs) :
    descend r (everywhere row) path (carrying request (some row)) () =
      path.map fun rel => [.select (some rel.referencedTable) (asked rel row request .empty)] := by
  induction path with
  | nil => rfl
  | cons rel path ih =>
    obtain ⟨hkey, hkeys⟩ := List.forall_mem_cons.1 hkeys
    rw [descend, run_related_bare hconnected hkey, List.map_cons, ← ih hkeys]
    rfl

/-- A row with all keys of a path. -/
def keyed (path : List Relation) : Row := path.map fun rel => (rel.column, .int 1)

theorem keyValue_keyed {path : List Relation} {rel : Relation} (h : rel ∈ path) :
    (keyValue rel (keyed path)).isNull = false := by
  have hkey : (keyed path).get? rel.column = some (.int 1) := by
    have hmap : keyed path = (path.map (·.column)).map fun column => (column, Value.int 1) := by
      rw [keyed, List.map_map]
      rfl
    rw [hmap]
    exact Assoc.get?_map (List.mem_map_of_mem h) _
  rw [keyValue, hkey]
  rfl

/-- A filter of one condition under the name of a table. -/
def marked (table : String) : Clause := ⟨some table.toList, "leak".toList, .eq, ['1']⟩

def markedArgs (table : String) : Args := [("filter", .text (String.ofList (Clause.written [marked table])))]

def markedRequest (table : String) : RequestArgs := ⟨[(some table, { conditions := [⟨"leak", "eq", "1"⟩] })]⟩

theorem marked_writable {table : String} (h : Name.IsName table.toList) : (marked table).Writable where
  scope := by
    rintro s ⟨⟩
    exact Request.plain_of_parts h.nonempty h.parts
  column := Request.plain_of_parts (s := "leak".toList) (by decide) (by decide)
  value := show ∀ x ∈ ['1'], x ≠ '|' ∧ x ≠ '\n' by decide
  ending := show ∀ x ∈ ['1'].getLast?, Text.isBlank x = false by decide
  operator := by
    rintro (h | h) <;> cases h

theorem requestArgs_marked {table : String} (h : Name.IsName table.toList) :
    requestArgs (markedArgs table) = .ok (markedRequest table) := by
  have hwritable : ∀ c ∈ [marked table], c.Writable := fun c hc => List.mem_singleton.1 hc ▸ marked_writable h
  have hcondition : (marked table).condition = (some table, ⟨"leak", "eq", "1"⟩) := by
    simp [marked, Clause.condition, Operator.name]
  rw [markedArgs, requestArgs_filter, String.toList_ofList, Request.parse, Request.parseFilter_written_eq hwritable,
    List.map_singleton, hcondition, Request.grouped_singleton]
  rfl

/-- The condition is asked for by every field of the name. -/
theorem leaks (rel : Relation) (row : Row) {left : RequestArgs} (hleft : left.get (some rel.field) = .empty) :
    asked rel row left .empty ≠ asked rel row (markedRequest rel.field) .empty := by
  intro he
  have hmarked : (markedRequest rel.field).get (some rel.field) = { conditions := [⟨"leak", "eq", "1"⟩] } := by
    simp [RequestArgs.get, markedRequest, Assoc.get?_cons]
  have hlength := congrArg (fun a => a.conditions.length) he
  simp only [asked, passedOn_empty, RequestArgs.forScope, hleft, hmarked, callScope, List.length_append,
    List.length_map] at hlength
  cases hlength

theorem handedOut_marked (hconnected : r.connected = true) {table : String} (h : Name.IsName table.toList) (row : Row) :
    HandedOut r table (markedArgs table) (.record row (markedRequest table)) := by
  refine ⟨Unit, everywhere row, (), .first (some table) (markedArgs table), .inr rfl, .result ?_⟩
  simp only [work, Resolver.first, requireConnection, hconnected, if_true, requestArgs_marked h]
  rfl

/-- A field of the name, wherever it is on a path, is asked with the condition. -/
theorem descend_marked_ne (hconnected : r.connected = true) {path : List Relation} {row : Row}
    (hkeys : ∀ rel ∈ path, (keyValue rel row).isNull = false) {rel : Relation} (hrel : rel ∈ path)
    {left : RequestArgs} (hleft : left.get (some rel.field) = .empty) :
    descend r (everywhere row) path (.record row left) () ≠
      descend r (everywhere row) path (.record row (markedRequest rel.field)) () := by
  intro h
  change descend _ _ _ (carrying left (some _)) _ = descend _ _ _ (carrying _ (some _)) _ at h
  rw [descend_everywhere hconnected hkeys, descend_everywhere hconnected hkeys] at h
  have hcall := List.map_inj_left.1 h rel hrel
  exact leaks rel row hleft (Call.select.inj (List.cons.inj hcall).1).2

/-- A field of the table's name, wherever it is on the path, is asked with the fragments under that name. -/
theorem affected_of_field (hconnected : r.connected = true) {table : String} (htable : Name.IsName table.toList)
    {path : List Relation} {rel : Relation} (hrel : rel ∈ path) (hfield : rel.field = table) :
    ¬ Unaffected r table path (fun scope => scope = none ∨ scope = some table) := by
  subst hfield
  intro h
  obtain ⟨left, hleft, hsame⟩ := h _ _ _ (handedOut_marked hconnected htable (keyed path))
  obtain ⟨left', hleft', hget⟩ := requestArgs_stripped (requestArgs_marked htable)
    fun scope => scope = none ∨ scope = some rel.field
  obtain rfl := Except.ok.inj (hleft.symm.trans hleft')
  have hempty : left.get (some rel.field) = .empty := by
    rw [hget]
    simp
  exact descend_marked_ne hconnected (fun _ => keyValue_keyed) hrel hempty (hsame Unit (everywhere (keyed path)) ())

/-- No relation of a table with a valid name has that name as its field. -/
theorem field_ne_of_leads {hashLength : Int} {schema : Schema} {table : String} (htable : Name.IsName table.toList)
    {rel : Relation} {path : List Relation} (h : Leads (Generated.build hashLength schema).tables table (rel :: path)) :
    rel.field ≠ table := by
  obtain ⟨⟨t, ht, hname, hmem⟩, -⟩ := h
  have hclear := (Generated.relation_clear ht hmem).2
  rwa [hname, sanitizeName, htable.sanitize_eq, String.ofList_toList] at hclear

end Resolver

open Resolver Errand

/-- Of a root request on a table with a valid name, the bare fragments change nothing of what is asked below the row
handed out, and those under the name of the table change nothing either exactly if no relation on the path, after
the first, has that name as its field. The first one never has, nor has any other relation of the table itself. -/
theorem root_fragments_stay_iff {ι : Type} (r : Resolver ι) (hconnected : r.connected = true) (hashLength : Int)
    (schema : Schema) {table : String} (htable : Name.IsName table.toList) {path : List Relation}
    (hpath : Leads (Generated.build hashLength schema).tables table path) :
    Unaffected r table path (fun scope => scope = none) ∧
      (Unaffected r table path (fun scope => scope = none ∨ scope = some table) ↔
        ∀ rel ∈ path.tail, rel.field ≠ table) := by
  refine ⟨unaffected_of_apart fun rel _ => rfl, ?_, ?_⟩
  · intro h rel hrel hfield
    exact affected_of_field hconnected htable (List.mem_of_mem_tail hrel) hfield h
  · intro h
    refine unaffected_of_apart fun rel hrel => ?_
    have hfield : rel.field ≠ table := by
      cases path with
      | nil => cases hrel
      | cons first rest =>
        rcases List.mem_cons.1 hrel with rfl | hrel
        · exact field_ne_of_leads htable hpath
        · exact h rel hrel
    simp [hfield]

/-- Posts have an author, and authors have a best post. -/
def bestPostSchema : Schema :=
  let column (name : String) : SchemaColumn := ⟨name, "INTEGER", true, false, .text⟩
  ⟨[⟨"posts", [column "id", column "author_id"], [⟨"author_id", "authors", "id"⟩], true⟩,
    ⟨"authors", [column "id", column "best_id"], [⟨"best_id", "posts", "id"⟩], true⟩]⟩

def authorOfPosts : Relation := ⟨"Posts", "authors", "posts", "author_id", "authors", "id"⟩

def bestOfAuthors : Relation := ⟨"Authors", "posts", "authors", "best_id", "posts", "id"⟩

theorem leads_to_best :
    Leads (Generated.build 8 bestPostSchema).tables "posts" [authorOfPosts, bestOfAuthors] :=
  ⟨by decide +kernel, by decide +kernel, trivial⟩

/-- The author of a post is found whatever is said about the posts. -/
theorem authors_unaffected :
    let r : Resolver Unit := { connected := true }
    Unaffected r "posts" [authorOfPosts] (fun scope => scope = none ∨ scope = some "posts") := by
  intro r
  have hpath : Leads (Generated.build 8 bestPostSchema).tables "posts" [authorOfPosts] :=
    ⟨leads_to_best.1, trivial⟩
  exact (root_fragments_stay_iff r rfl 8 bestPostSchema (by decide) hpath).2.2 fun _ h => nomatch h

/-- The best post of the author of the post 7 is looked for among the posts with the number 7. -/
theorem best_post_affected :
    let r : Resolver Unit := { connected := true }
    let path := [authorOfPosts, bestOfAuthors]
    let args : Args := [("filter", .text "posts:id=7")]
    let dropped : Option String → Bool := fun scope => scope = none ∨ scope = some "posts"
    let row : Row := [("id", .int 7), ("author_id", .int 1), ("best_id", .int 9)]
    let request : RequestArgs := ⟨[(some "posts", { conditions := [⟨"id", "eq", "7"⟩] })]⟩
    let author : Call := .select (some "authors") { conditions := [⟨"id", "eq", .int 1⟩], limit := some 1 }
    Leads (Generated.build 8 bestPostSchema).tables "posts" path ∧
      HandedOut r "posts" args (.record row request) ∧ requestArgs (stripped dropped args) = .ok .empty ∧
      descend r (everywhere row) path (.record row request) () =
        [[author], [.select (some "posts")
          { conditions := [⟨"id", "eq", .text "7"⟩, ⟨"id", "eq", .int 9⟩], limit := some 1 }]] ∧
      descend r (everywhere row) path (.record row .empty) () =
        [[author], [.select (some "posts") { conditions := [⟨"id", "eq", .int 9⟩], limit := some 1 }]] ∧
      ¬ Unaffected r "posts" path dropped := by
  intro r path args dropped row request author
  have hrequest : requestArgs args = .ok request := by decide +kernel
  have hleft : requestArgs (stripped dropped args) = .ok .empty := by decide +kernel
  have hout : HandedOut r "posts" args (.record row request) := by
    refine ⟨Unit, everywhere row, (), .first (some "posts") args, .inr rfl, .result ?_⟩
    simp only [work, Resolver.first, requireConnection, r, if_true, hrequest]
    rfl
  refine ⟨leads_to_best, hout, hleft, rfl, rfl, fun h => ?_⟩
  obtain ⟨left, hparsed, hsame⟩ := h args request row hout
  obtain rfl := Except.ok.inj (hparsed.symm.trans hleft)
  have hcalls := hsame Unit (everywhere row) ()
  have hconditions := congrArg (fun calls => calls.map fun level => level.map fun c => c.conditions.length) hcalls
  cases hconditions

end TableGraph
