import TableGraph.Proofs.Concurrency.Calls
import TableGraph.Proofs.Resolver.Pages

/-! # The total of a page while others write

A page asks how many rows there are and which ones, each by itself, and others may write in between. What they have
written to the table there is what the two answers can differ by (`page_drifts`): with the total taken first, there
are no more items than the total and the writes in between; with the items taken first, no more than the total and
the updates in between. So without such writes the total is at least the number of items.
-/
namespace TableGraph

/-- A question that writes to a table. -/
def Call.writesTo (name : String) : Call → Bool
  | .insert (some table) _ => Store.sameName table name
  | .update (some table) _ _ => Store.sameName table name
  | _ => false

/-- A question that overwrites rows of a table. -/
def Call.updates (name : String) : Call → Bool
  | .update (some table) _ _ => Store.sameName table name
  | _ => false

theorem Call.writesTo_of_updates {name : String} {c : Call} (h : c.updates name = true) : c.writesTo name = true := by
  unfold updates at h
  split at h
  · exact h
  · cases h

namespace Work
variable {ι : Type} {σ : Type} {answer : (c : Call) → σ → Except Failure c.Answer × σ}

/-- How many questions of some sort were answered in some turns. -/
def answeredIn (sort : Call → Bool) (turns : List Turn) : Nat :=
  turns.countP fun turn => sort turn.call && turn.answered

theorem answeredIn_cons (sort : Call → Bool) (turn : Turn) (turns : List Turn) :
    answeredIn sort (turn :: turns) =
      (if (sort turn.call && turn.answered) = true then 1 else 0) + answeredIn sort turns := by
  rw [answeredIn, answeredIn, List.countP_cons, Nat.add_comm]

theorem answeredIn_updates_le (name : String) (turns : List Turn) :
    answeredIn (Call.updates name) turns ≤ answeredIn (Call.writesTo name) turns := by
  refine List.countP_mono_left fun turn _ h => ?_
  obtain ⟨hupdates, hanswered⟩ := Bool.and_eq_true_iff.1 h
  rw [Call.writesTo_of_updates hupdates, hanswered]
  rfl

namespace Interleaving

theorem length_left {α : Type} {pool left : List (Work ι α)} {s s' : σ} {turns : List Turn}
    (h : Interleaving answer pool s turns left s') : left.length = pool.length := by
  induction h with
  | rest => rfl
  | report _ _ ih => rw [ih, List.length_set]
  | turn _ _ _ ih => rw [ih, List.length_set]

/-- Turns that are not the last client's are those of the clients before it. -/
theorem clients_lt {α : Type} {pool left : List (Work ι α)} {s s' : σ} {turns : List Turn} {n : Nat}
    (h : Interleaving answer pool s turns left s') (hlength : pool.length = n + 1)
    (hothers : ∀ turn ∈ turns, turn.client ≠ n) : ∀ turn ∈ turns, turn.client < n := by
  induction h with
  | rest => simp
  | report here _ ih => exact ih (by simpa using hlength) hothers
  | turn here _ _ ih =>
    obtain ⟨hne, hrest⟩ := List.forall_mem_cons.1 hothers
    have hlt := (List.getElem?_eq_some_iff.1 here).1
    refine List.forall_mem_cons.2 ⟨?_, ih (by simpa using hlength) hrest⟩
    dsimp only at hne ⊢
    omega

/-- A client that only has a failure to report comes to null. -/
theorem settles {pool left : List (Work ι Value)} {s s' : σ} {turns : List Turn}
    (h : Interleaving answer pool s turns left s') {i : Nat} {loss : Loss} {x y : Except Failure Value}
    (hi : pool[i]? = some (.orNull loss (.ofExcept x))) (hdone : left[i]? = some (.done y)) :
    y = Resolver.settled x := by
  have hreported {e : Event ι} {z : Except Failure Value} (he : pool[i]? = some (.emit e (.done z))) : y = z := by
    clear hi
    induction h with
    | rest => cases he.symm.trans hdone
    | @report pool left s s' turns j e' next here later ih =>
      by_cases hij : i = j
      · subst hij
        obtain ⟨-, rfl⟩ := Work.emit.inj (Option.some.inj (he.symm.trans here))
        have hstays := later.stays (getElem?_set_self here _)
        exact (Work.done.inj (Option.some.inj (hstays.symm.trans hdone))).symm
      · exact ih hdone ((getElem?_set_other hij _).trans he)
    | @turn pool left s s' turns j w c next here asks later ih =>
      have hij : i ≠ j := by
        rintro rfl
        obtain rfl := Option.some.inj (he.symm.trans here)
        cases asks
      exact ih hdone ((getElem?_set_other hij _).trans he)
  cases x with
  | ok v => exact (Work.done.inj (Option.some.inj ((h.stays hi).symm.trans hdone))).symm
  | error e =>
    rw [orNull, ofExcept, recover] at hi
    rw [Resolver.settled]
    split at hi
    · rename_i hdata
      rw [if_pos hdata]
      exact hreported hi
    · rename_i hdata
      rw [if_neg hdata]
      exact (Work.done.inj (Option.some.inj ((h.stays hi).symm.trans hdone))).symm

end Interleaving
end Work

namespace Resolver
open Chain Store
variable {ι : Type}

/-! ## Rows that come and go -/

section Drifts
variable {r : Resolver ι} {known : List String} {p : String × Args} {s s' : Database} {c : Call} {found : Option Row}
  {t u : StoredTable} {name : String}

theorem Commit.loses_eq (h : Commit r known p s c found s') (hname : sameName p.1 name = true) :
    c.writesTo name = true ∧ c.loses = if c.updates name = true then 1 else 0 := by
  cases h with
  | insert => exact ⟨hname, rfl⟩
  | update => exact ⟨hname, (if_pos hname).symm⟩

/-- What a write that goes well does to a table: to another one nothing, to its own one a row. -/
theorem Commit.drifts (h : Commit r known p s c found s') (hstands : Stands r known s p.1) (ha : Unambiguous p.2)
    (hnamed : s.tableNamed known (some name) = .ok (name, t)) :
    ∃ u, s'.tableNamed known (some name) = .ok (name, u) ∧
      Drifts t u (if c.writesTo name = true then 1 else 0) (if c.updates name = true then 1 else 0) := by
  obtain ⟨before, after, hbefore, rfl, hu⟩ := h.follows hstands ha
  have hname : after.name = before.name := by rw [hu.others]
  rcases tableNamed_after hbefore hname hnamed with hsame | ⟨rfl, hnames, hafter⟩
  · exact ⟨t, hsame, (drifts_refl t).mono (Nat.zero_le _) (Nat.zero_le _)⟩
  · obtain ⟨hwrites, hloses⟩ := h.loses_eq hnames
    refine ⟨after, hafter, ?_⟩
    rw [if_pos hwrites, ← hloses]
    exact hu.toDrifts

/-- While calls go on, a table drifts by what they write to it. -/
theorem Underway.run {calls : List (String × Args)} {pool left : List (Work ι Value)} {turns : List Work.Turn}
    (hrun : Work.Interleaving (Database.answer known) pool s turns left s') (h : Underway r known calls pool s)
    (hclients : ∀ turn ∈ turns, turn.client < calls.length) : Underway r known calls left s' ∧
      ∀ name t, s.tableNamed known (some name) = .ok (name, t) → ∃ u,
        s'.tableNamed known (some name) = .ok (name, u) ∧
          Drifts t u (Work.answeredIn (Call.writesTo name) turns) (Work.answeredIn (Call.updates name) turns) := by
  induction hrun with
  | rest pool s => exact ⟨h, fun name t hnamed => ⟨t, hnamed, drifts_refl t⟩⟩
  | report here later ih => exact ih (h.report here) hclients
  | @turn pool left s s' turns i w c next here asks later ih =>
    obtain ⟨hi, hrest⟩ := List.forall_mem_cons.1 hclients
    have hp := List.getElem?_eq_getElem hi
    have hmem := List.mem_of_getElem? hp
    obtain ⟨hnext, hcases⟩ := h.turn here hp asks
    obtain ⟨hafter, hdrifts⟩ := ih hnext hrest
    refine ⟨hafter, fun name t hnamed => ?_⟩
    rw [Work.answeredIn_cons, Work.answeredIn_cons]
    rcases hcases with ⟨hstate, -, -, hno⟩ | ⟨found, hcommit, -, hcommits⟩
    · rw [hstate] at hdrifts
      obtain ⟨u, hu, hdrift⟩ := hdrifts name t hnamed
      exact ⟨u, hu, hdrift.mono (Nat.le_add_left _ _) (Nat.le_add_left _ _)⟩
    · obtain ⟨u, hu, hdrift⟩ := hcommit.drifts (h.stands _ hmem) (h.args _ hmem) hnamed
      obtain ⟨v, hv, hlater⟩ := hdrifts name u hu
      have hanswered := (Bool.and_eq_true_iff.1 hcommits).2
      refine ⟨v, hv, ?_⟩
      simp only [hanswered, Bool.and_true]
      exact hdrift.trans hlater

end Drifts

/-! ## A page while others write -/

section Page
variable {t u : StoredTable} {name : String} {conditions : List (Condition Value)} {args : ScopeArgs Value}
  {total : Int} {rows : List Row} {gained lost : Nat}

theorem length_window_le (limit : Option Int) (offset : Int) (rows : List Cells) :
    (StoredTable.window limit offset rows).length ≤ rows.length := by
  have hdrop : (rows.drop offset.toNat).length ≤ rows.length := by simp
  unfold StoredTable.window
  dsimp only
  split
  · exact hdrop
  · split
    · exact hdrop
    · exact Nat.le_trans (List.take_sublist _ _).length_le hdrop

theorem length_select_le {cs : List Comparison} {bs : List BoundTest} (h : StoredTable.Answered t name args cs bs rows) :
    rows.length ≤ (t.chosen bs).length := by
  rw [length_of_mapM h.read]
  refine Nat.le_trans (length_window_le _ _ _) ?_
  exact Nat.le_of_eq (List.length_mergeSort _)

/-- The tests of a table are the same whatever its rows. -/
theorem tests_of_drifts (hd : Drifts t u gained lost) {cs cs' : List Comparison} {bs bs' : List BoundTest}
    (hcompared : (t.shape name).compareAll conditions = .ok cs) (hbound : t.bindTests cs = .ok bs)
    (hcompared' : (u.shape name).compareAll conditions = .ok cs') (hbound' : u.bindTests cs' = .ok bs') : bs = bs' := by
  obtain ⟨rows', rfl⟩ : ∃ rows', u = { t with rows := rows' } := ⟨u.rows, hd.others⟩
  obtain rfl := Except.ok.inj (hcompared.symm.trans hcompared')
  exact Except.ok.inj (hbound.symm.trans hbound')

/-- Rows that are counted first and read later. -/
theorem length_le_of_count (hd : Drifts t u gained lost) (hcount : t.count name args.conditions = .ok total)
    (hselect : u.select name args = .ok rows) : (rows.length : Int) ≤ total + gained := by
  obtain ⟨cs, bs, hcompared, hbound, -, rfl⟩ := StoredTable.count_ok.1 hcount
  obtain ⟨cs', bs', ha⟩ := StoredTable.select_ok.1 hselect
  obtain rfl := tests_of_drifts hd hcompared hbound ha.compared ha.bound
  have hle := length_select_le ha
  have hmore := hd.more bs
  omega

/-- Rows that are read first and counted later. -/
theorem length_le_of_select (hd : Drifts t u gained lost) (hselect : t.select name args = .ok rows)
    (hcount : u.count name args.conditions = .ok total) : (rows.length : Int) ≤ total + lost := by
  obtain ⟨cs, bs, ha⟩ := StoredTable.select_ok.1 hselect
  obtain ⟨cs', bs', hcompared, hbound, -, rfl⟩ := StoredTable.count_ok.1 hcount
  obtain rfl := tests_of_drifts hd ha.compared ha.bound hcompared hbound
  have hle := length_select_le ha
  have hfewer := hd.fewer bs
  omega

end Page

section Answers
variable {known : List String} {s : Database} {name : String}

theorem count_of_answer {conditions : List (Condition Value)} {total : Int}
    (h : (Database.answer known (.count (some name) conditions) s).1 = .ok total) :
    ∃ t, s.tableNamed known (some name) = .ok (name, t) ∧ t.count name conditions = .ok total := by
  obtain ⟨⟨name', t⟩, hnamed, hcount⟩ := bind_eq_ok.1 h
  obtain rfl : name' = name := name_of_tableNamed hnamed
  exact ⟨t, hnamed, hcount⟩

theorem select_of_answer {args : ScopeArgs Value} {rows : List Row}
    (h : (Database.answer known (.select (some name) args) s).1 = .ok rows) :
    ∃ t, s.tableNamed known (some name) = .ok (name, t) ∧ t.select name args = .ok rows := by
  obtain ⟨⟨name', t⟩, hnamed, hselect⟩ := bind_eq_ok.1 h
  obtain rfl : name' = name := name_of_tableNamed hnamed
  exact ⟨t, hnamed, hselect⟩

end Answers

section Clients
variable {r : Resolver ι} {known : List String} {calls : List (String × Args)} {s s' : Database}
  {turns : List Work.Turn} {pool left : List (Work ι Value)}

/-- Up to the next turn of the client beside the calls, every table drifts by what the calls write to it. -/
theorem Underway.next_turn (h : Underway r known calls pool s) (hlength : pool.length = calls.length + 1)
    (hrun : Work.Interleaving (Database.answer known) pool s turns left s') {w : Work ι Value}
    (hw : pool[calls.length]? = some w) (hwaits : Work.Interleaving.Waits w) {x : Except Failure Value}
    (hdone : left[calls.length]? = some (.done x)) :
    ∃ (before after : List Work.Turn) (between : List (Work ι Value)) (s₁ : Database) (c : Call)
      (next : Except Failure c.Answer → Work ι Value),
      turns = before ++ ⟨calls.length, c, Work.isAnswered (Database.answer known c s₁).1⟩ :: after ∧
      (∀ turn ∈ before, turn.client ≠ calls.length) ∧ Work.Asks w c next ∧
      Underway r known calls (between.set calls.length (next (Database.answer known c s₁).1)) s₁ ∧
      between.length = pool.length ∧ between[calls.length]? = some w ∧
      Work.Interleaving (Database.answer known) (between.set calls.length (next (Database.answer known c s₁).1))
        (Database.answer known c s₁).2 after left s' ∧
      ∀ name t, s.tableNamed known (some name) = .ok (name, t) → ∃ u,
        s₁.tableNamed known (some name) = .ok (name, u) ∧
          Drifts t u (Work.answeredIn (Call.writesTo name) before) (Work.answeredIn (Call.updates name) before) := by
  obtain ⟨before, after, between, s₁, c, next, hturns, hothers, hbefore, hbetween, asks, hlater⟩ :=
    hrun.next_turn hw hwaits hdone
  obtain ⟨hunderway, hdrifts⟩ := h.run hbefore (hbefore.clients_lt hlength hothers)
  refine ⟨before, after, between, s₁, c, next, hturns, hothers, asks, ?_, hbefore.length_left, hbetween, hlater, hdrifts⟩
  refine hunderway.set hbetween fun p hp => ?_
  rw [List.getElem?_eq_none (Nat.le_refl _)] at hp
  cases hp

/-- A page that comes to a value has asked both its questions. -/
theorem page_asks {name : Option String} {args : Args} {i : Nat} {v : Value}
    (hrun : Work.Interleaving (Database.answer known) pool s turns left s') (hpage : pool[i]? = some (r.page name args))
    (hdone : left[i]? = some (.done (.ok v))) (hv : v ≠ .null) :
    r.connected = true ∧ ∃ request, requestArgs args = .ok request := by
  by_cases hconnected : r.connected = true
  · refine ⟨hconnected, ?_⟩
    cases hrequest : requestArgs args with
    | ok request => exact ⟨request, rfl⟩
    | error e =>
      rw [page_unread r name hconnected hrequest] at hpage
      have hsettled : Except.ok v = settled (.error e) := hrun.settles hpage hdone
      rcases settled_eq_ok hsettled.symm with h | h
      · cases h
      · exact absurd h hv
  · rw [page, requireConnection, if_neg hconnected] at hpage
    cases (hrun.stays hpage).symm.trans hdone

/-- Two answers that are put together to a page have both come. -/
theorem answers_of_page {answer : (c : Call) → Database → Except Failure c.Answer × Database}
    (hrun : Work.Interleaving answer pool s turns left s') {i : Nat} {loss : Loss} {request : RequestArgs}
    {total : Except Failure Int} {rows : Except Failure (List Row)} {v : Value}
    (hpage : pool[i]? = some (.orNull loss (.ofExcept (pageOfAnswers request total rows))))
    (hdone : left[i]? = some (.done (.ok v))) (hv : v ≠ .null) :
    ∃ n items, total = .ok n ∧ rows = .ok items ∧ v = pageValue n request items := by
  have hsettled := hrun.settles hpage hdone
  obtain ⟨⟨n, items⟩, hboth, rfl⟩ := map_eq_ok.1 ((settled_eq_ok hsettled.symm).resolve_right hv)
  obtain ⟨htotal, hrows⟩ := bothAnswers_ok.1 hboth
  exact ⟨n, items, htotal, hrows, rfl⟩

end Clients

/-- A page that is asked for while others put items: its two questions come one before the other, and what the
others write to the table in between is what its total and its items can differ by. -/
theorem page_drifts (r : Resolver ι) {known : List String} {calls : List (String × Args)} {name : String} {args : Args}
    {s s' : Database} {turns : List Work.Turn} {left : List (Work ι Value)} {v : Value}
    (hstands : ∀ p ∈ calls, Stands r known s p.1) (hargs : ∀ p ∈ calls, Unambiguous p.2)
    (hrun : Work.Interleaving (Database.answer known)
      (calls.map (fun p => r.put (some p.1) p.2) ++ [r.page (some name) args]) s turns left s')
    (hdone : left[calls.length]? = some (.done (.ok v))) (hv : v ≠ .null) :
    ∃ request total rows, requestArgs args = .ok request ∧ v = pageValue total request rows ∧
      ∃ before first between second after, turns = before ++ first :: (between ++ second :: after) ∧
        first.client = calls.length ∧ second.client = calls.length ∧
        (∀ turn ∈ before ++ between, turn.client ≠ calls.length) ∧
        let counted := pageCount (some name) (request.forRoot (some name))
        let selected := r.pageSelect (some name) (request.forRoot (some name))
        (first.call = counted ∧ second.call = selected ∧
            (rows.length : Int) ≤ total + Work.answeredIn (Call.writesTo name) between) ∨
          first.call = selected ∧ second.call = counted ∧
            (rows.length : Int) ≤ total + Work.answeredIn (Call.updates name) between := by
  have hpage : (calls.map (fun p => r.put (some p.1) p.2) ++ [r.page (some name) args])[calls.length]? =
      some (r.page (some name) args) := by simp
  obtain ⟨hconnected, request, hrequest⟩ := page_asks hrun hpage hdone hv
  have hunderway := Underway.start hstands hargs [r.page (some name) args]
  rw [page_eq r (some name) hconnected hrequest] at hpage hrun hunderway
  obtain ⟨before, rest, pool, s₁, c, next, rfl, hbefore, asks, hunderway, hlength, hpool, hlater, -⟩ :=
    hunderway.next_turn (by simp) hrun hpage trivial hdone
  have hlength' (w : Work ι Value) : (pool.set calls.length w).length = calls.length + 1 := by
    rw [List.length_set, hlength]
    simp
  refine ⟨request, ?_⟩
  cases asks with
  | first =>
    obtain ⟨between, after, pool', s₂, c, next, rfl, hbetween, asks, -, -, hpool', hlast, hdrifts⟩ :=
      hunderway.next_turn (hlength' _) hlater (Work.Interleaving.getElem?_set_self hpool _) trivial hdone
    cases asks
    obtain ⟨total, rows, hcount, hselect, rfl⟩ :=
      answers_of_page hlast (Work.Interleaving.getElem?_set_self hpool' _) hdone hv
    obtain ⟨t, hnamed, hcount⟩ := count_of_answer hcount
    obtain ⟨u, hu, hselect⟩ := select_of_answer hselect
    obtain ⟨u', hu', hdrift⟩ := hdrifts name t hnamed
    obtain rfl := (Prod.mk.inj (Except.ok.inj (hu'.symm.trans hu))).2
    exact ⟨total, rows, hrequest, rfl, before, _, between, _, after, rfl, rfl, rfl,
      List.forall_mem_append.2 ⟨hbefore, hbetween⟩, .inl ⟨rfl, rfl, length_le_of_count hdrift hcount hselect⟩⟩
  | second =>
    obtain ⟨between, after, pool', s₂, c, next, rfl, hbetween, asks, -, -, hpool', hlast, hdrifts⟩ :=
      hunderway.next_turn (hlength' _) hlater (Work.Interleaving.getElem?_set_self hpool _) trivial hdone
    cases asks
    obtain ⟨total, rows, hcount, hselect, rfl⟩ :=
      answers_of_page hlast (Work.Interleaving.getElem?_set_self hpool' _) hdone hv
    obtain ⟨t, hnamed, hselect⟩ := select_of_answer hselect
    obtain ⟨u, hu, hcount⟩ := count_of_answer hcount
    obtain ⟨u', hu', hdrift⟩ := hdrifts name t hnamed
    obtain rfl := (Prod.mk.inj (Except.ok.inj (hu'.symm.trans hu))).2
    exact ⟨total, rows, hrequest, rfl, before, _, between, _, after, rfl, rfl, rfl,
      List.forall_mem_append.2 ⟨hbefore, hbetween⟩, .inr ⟨rfl, rfl, length_le_of_select hdrift hselect hcount⟩⟩

/-- A table of guests, and one who is put in it. -/
def guestsTable : StoredTable where
  name := "guests"
  columns := [{ name := "name", declared := "TEXT", primary := true }]

def guestsAfter : StoredTable := { guestsTable with rows := [[.text "eve"]] }

def guestsResolver : Resolver Unit where
  connected := true
  schema := some ⟨[⟨"guests", [⟨"name", "TEXT", false, true, .text⟩], [], true⟩]⟩

def guests : List (String × Args) := [("guests", [("name", .text "eve")])]

/-- The guests are counted before one comes, and read after that. -/
theorem run_guests :
    let db : Database := { tables := [guestsTable] }
    ∃ turns left s', Work.Interleaving (Database.answer ["guests"])
        (guests.map (fun p => guestsResolver.put (some p.1) p.2) ++ [guestsResolver.page (some "guests") []]) db
        turns left s' ∧
      turns.map (·.client) = [1, 0, 0, 1] ∧
      left[1]? = some (.done (.ok (pageValue 0 .empty [[("name", .text "eve")]]))) := by
  intro db
  let after : Database := { tables := [guestsAfter] }
  let select : Call := guestsResolver.pageSelect (some "guests") {}
  have hrequest : requestArgs [] = .ok .empty := rfl
  have hselect : Database.answer ["guests"] select after = (.ok [[("name", .text "eve")]], after) := by
    have hnamed : after.tableNamed ["guests"] (some "guests") = .ok ("guests", guestsAfter) := by rfl
    have hsorted : guestsAfter.sorted [] (guestsAfter.chosen []) = [[.text "eve"]] := List.mergeSort_singleton _
    have hrows : guestsAfter.select "guests" { limit := some (guestsResolver.settings.clampLimit none) } =
        .ok [[("name", .text "eve")]] :=
      StoredTable.select_ok.2 ⟨[], [], rfl, ⟨[], rfl⟩, rfl, rfl, rfl, rfl, rfl, by rw [hsorted]; rfl⟩
    simp only [select, pageSelect, Database.answer, hnamed]
    exact congrArg (·, after) hrows
  let record : Work Unit Value := .done (.ok (.record [("name", .text "eve")] .empty))
  let counted : Work Unit Value := .ask select fun rows =>
    .orNull (.page (some "guests")) (.ofExcept (pageOfAnswers .empty (.ok 0) rows))
  let paged : Work Unit Value := .done (.ok (pageValue 0 .empty [[("name", .text "eve")]]))
  have hlast : Work.Interleaving (Database.answer ["guests"]) [record, counted] after [⟨1, select, true⟩]
      [record, paged] after := by
    have h : Work.Interleaving (Database.answer ["guests"]) [record, counted] after _ _ _ :=
      .turn (i := 1) rfl (.ask _ _) (.rest _ _)
    rw [hselect] at h
    exact h
  rw [page_eq guestsResolver (some "guests") rfl hrequest]
  exact ⟨_, _, after, .turn (i := 1) rfl (.first _ _ _) (.turn (i := 0) rfl (.ask _ _) (.turn (i := 0) rfl (.ask _ _)
    hlast)), rfl, rfl⟩

/-- A page of one guest tells that there is none. -/
theorem guests_outnumber : ¬ ∀ turns left s' total request rows,
    Work.Interleaving (Database.answer ["guests"])
        (guests.map (fun p => guestsResolver.put (some p.1) p.2) ++ [guestsResolver.page (some "guests") []])
        { tables := [guestsTable] } turns left s' →
      left[1]? = some (.done (.ok (pageValue total request rows))) → (rows.length : Int) ≤ total := by
  intro h
  obtain ⟨turns, left, s', hrun, -, hleft⟩ := run_guests
  exact absurd (h turns left s' _ _ _ hrun hleft) (by decide)

/-- What the page misses was put in between. -/
theorem page_guests :
    let db : Database := { tables := [guestsTable] }
    let v := pageValue 0 .empty [[("name", .text "eve")]]
    (∀ p ∈ guests, Stands guestsResolver ["guests"] db p.1) ∧ (∀ p ∈ guests, Unambiguous p.2) ∧ v ≠ .null ∧
      ∃ turns left s', Work.Interleaving (Database.answer ["guests"])
          (guests.map (fun p => guestsResolver.put (some p.1) p.2) ++ [guestsResolver.page (some "guests") []]) db
          turns left s' ∧
        left[1]? = some (.done (.ok v)) ∧
        ∃ before first between second after, turns = before ++ first :: (between ++ second :: after) ∧
          first.client = 1 ∧ second.client = 1 ∧ 1 ≤ Work.answeredIn (Call.writesTo "guests") between := by
  intro db v
  have hstands : ∀ p ∈ guests, Stands guestsResolver ["guests"] db p.1 := by
    refine List.forall_mem_singleton.2 fun t ht => ?_
    obtain rfl : guestsTable = t := (Prod.mk.inj (Except.ok.inj ht)).2
    exact ⟨⟨⟨by decide, by decide⟩, fun _ => by decide⟩, rfl⟩
  have hargs : ∀ p ∈ guests, Unambiguous p.2 := List.forall_mem_singleton.2 (unambiguous_of_flat (by decide) rfl)
  obtain ⟨turns, left, s', hrun, -, hleft⟩ := run_guests
  refine ⟨hstands, hargs, ne_null_pageValue _ _ _, turns, left, s', hrun, hleft, ?_⟩
  obtain ⟨request, total, rows, -, hvalue, before, first, between, second, after, hturns, hfirst, hsecond, -, hcases⟩ :=
    page_drifts guestsResolver hstands hargs hrun hleft (ne_null_pageValue _ _ _)
  obtain ⟨rfl, rfl⟩ := pageValue_inj hvalue
  refine ⟨before, first, between, second, after, hturns, hfirst, hsecond, ?_⟩
  have hle := Work.answeredIn_updates_le "guests" between
  rcases hcases with ⟨-, -, hbound⟩ | ⟨-, -, hbound⟩
  · simp only [List.length_singleton] at hbound
    omega
  · simp only [List.length_singleton] at hbound
    omega

end Resolver
end TableGraph
