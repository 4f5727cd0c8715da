import TableGraph.Proofs.Api.History
import TableGraph.Proofs.Resolver.Excluded
import TableGraph.Proofs.Store.Introspected

/-! # What a connection opens

A connection that goes well takes over the schema of the namespace that it names (`Api.connect_ok`). The errands after
it know the tables of this schema and no others. So a table that is left out is neither read nor written, unless a
foreign key spells it in another way than the table itself and brings it back in under that name.
-/
namespace TableGraph
open Store Chain
variable {ι : Type}

/-- The namespace that is looked in for a name. No name stands for the default one. -/
def Link.lookedIn (l : Link) (e : Engine) (space : String) : Option String :=
  l.product.namespaceArg e (if space = "" then l.product.defaultNamespace e else some space)

namespace Api
variable {a : Api ι} {look : Introspect} {space : String} {c : Connection} {e : Engine} {l : Link} {s : Schema}

theorem connect_of_linked (h : a.linked = .ok (e, l)) : a.connect look space c =
    match l.introspect look (l.lookedIn e space) a.exclude c with
    | (.error fault, l) => (.error (.database fault), { a with link := some l })
    | (.ok s, l) => (.ok s.omissions, a.adopt l s) := by
  rw [connect, h]
  rfl

/-- What is read whole over a connection that can be closed is taken over. -/
theorem connect_of_reads (h : a.linked = .ok (e, l)) (hreads : c.reads look (l.lookedIn e space) a.exclude = some s)
    (hclosing : c.closing = .ok ()) : a.connect look space c = (.ok s.omissions, a.adopt (l.knowing s) s) := by
  have hintrospect : l.introspect look (l.lookedIn e space) a.exclude c = (.ok s, l.knowing s) := by
    refine Prod.ext (Link.introspect_ok.2 ⟨hreads, hclosing⟩) ?_
    rw [Link.introspect_link, hreads]
    rfl
  rw [connect_of_linked h, hintrospect]

/-- Where no schema is given, the product is known, and the tables of the schema if it had been read whole. -/
theorem connect_of_fails (h : a.linked = .ok (e, l)) {reason : DatabaseError}
    (hfails : (l.introspect look (l.lookedIn e space) a.exclude c).1 = .error reason) :
    a.connect look space c = (.error (.database reason),
      { a with link := some (l.told (c.reads look (l.lookedIn e space) a.exclude)) }) := by
  have hintrospect : l.introspect look (l.lookedIn e space) a.exclude c =
      (.error reason, l.told (c.reads look (l.lookedIn e space) a.exclude)) :=
    Prod.ext hfails (Link.introspect_link ..)
  rw [connect_of_linked h, hintrospect]

/-- A connection that goes well takes over the schema that is read. -/
theorem connect_ok {omissions : List Omission} (h : (a.connect look space c).1 = .ok omissions) :
    ∃ e l s, a.linked = .ok (e, l) ∧ look (l.lookedIn e space) a.exclude = .ok s ∧ omissions = s.omissions ∧
      (a.connect look space c).2 = a.adopt (l.knowing s) s := by
  cases hlinked : a.linked with
  | error e =>
    rw [connect, hlinked] at h
    cases h
  | ok p =>
    obtain ⟨e, l⟩ := p
    cases hgiven : (l.introspect look (l.lookedIn e space) a.exclude c).1 with
    | error reason =>
      rw [connect_of_fails hlinked hgiven] at h
      cases h
    | ok s =>
      obtain ⟨hreads, hclosing⟩ := Link.introspect_ok.1 hgiven
      obtain ⟨-, hlook⟩ := Connection.reads_eq_some.1 hreads
      rw [connect_of_reads hlinked hreads hclosing] at h ⊢
      exact ⟨e, l, s, rfl, hlook, (Except.ok.inj h).symm, rfl⟩

/-- A connection fails without an engine and a product for it, which leaves all as it is, or since no schema is given. -/
theorem connect_error {fault : Failure} (h : (a.connect look space c).1 = .error fault) :
    (∃ e, a.linked = .error e ∧ fault = .config e ∧ (a.connect look space c).2 = a) ∨
      ∃ e l reason, a.linked = .ok (e, l) ∧ fault = .database reason ∧
        (a.connect look space c).2 = { a with link := some (l.told (c.reads look (l.lookedIn e space) a.exclude)) } := by
  cases hlinked : a.linked with
  | error e =>
    rw [connect, hlinked] at h ⊢
    exact .inl ⟨e, rfl, (Except.error.inj h).symm, rfl⟩
  | ok p =>
    obtain ⟨e, l⟩ := p
    cases hgiven : (l.introspect look (l.lookedIn e space) a.exclude c).1 with
    | error reason =>
      rw [connect_of_fails hlinked hgiven] at h ⊢
      exact .inr ⟨e, l, reason, rfl, (Except.error.inj h).symm, rfl⟩
    | ok s =>
      obtain ⟨hreads, hclosing⟩ := Link.introspect_ok.1 hgiven
      rw [connect_of_reads hlinked hreads hclosing] at h
      cases h

end Api

namespace Store.Database
variable {db : Database} {space : Option String} {exclude : List String} {s : Schema}

/-- A schema that shows only what is wanted keeps the tables out that are left out. -/
theorem ShowsOnly.keepsOut (h : db.ShowsOnly space exclude s) (hd : db.Distinct) : db.KeepsOut (namesOf s) exclude := by
  intro n hn t ht
  obtain ⟨hout, u, hu, rfl⟩ := (h n).1 hn
  obtain rfl := hd.table?_eq (mem_tables_of_tablesIn hu) ht
  exact hout

end Store.Database

/-- What a connection that goes well opens. The schema that it takes over shows every wanted table, none under a name
that is left out, and its foreign keys lead to tables that it shows. Where foreign keys spell the tables as they are, it
shows nothing else, and no name in it stands for a table that is left out. Then errands, whichever they are, leave the
tables that are left out as they are and come to the same whatever the rows of these tables are. In any case an errand
for a table that is not shown leaves null, and asks nothing if it is for a relation without a key. -/
theorem excluded_stay_out (a : Api ι) (db : Database) (space : String) {omissions : List Omission}
    (hdistinct : db.Distinct) (hconnect : (a.connect db.introspect space).1 = .ok omissions) :
    let b := (a.connect db.introspect space).2
    ∃ e l s, a.linked = .ok (e, l) ∧ b.schema = some s ∧
      (∀ t ∈ s.tables, t.name ∉ a.exclude ∧ ∀ f ∈ t.foreignKeys, f.referencedTable ∈ Database.namesOf s) ∧
      (∀ t ∈ db.tablesIn (l.lookedIn e space), t.name ∉ a.exclude → t.name ∈ Database.namesOf s) ∧
      (db.SpellsTables →
        db.ShowsOnly (l.lookedIn e space) a.exclude s ∧ db.KeepsOut (Database.namesOf s) a.exclude) ∧
      (db.KeepsOut (Database.namesOf s) a.exclude → ∀ qs,
        (∀ o ∈ Errand.inTurn b.resolver b.knownTables qs db, o.state.leftOut a.exclude = db.leftOut a.exclude) ∧
        ∀ db', Database.SameOutside a.exclude db db' →
          List.Forall₂ (Work.Outcome.Alike (Database.SameOutside a.exclude))
            (Errand.inTurn b.resolver b.knownTables qs db) (Errand.inTurn b.resolver b.knownTables qs db')) ∧
      ∀ q : Errand, (∀ n ∈ Database.namesOf s, q.table ≠ some n) → ∀ db',
        let o := (q.work b.resolver).run (Database.answer b.knownTables) db'
        o.state = db' ∧ (o.result = .ok .null ∨ ∃ e, q.Misread e ∧ e.isData = false ∧ o.result = .error e) ∧
          (q.Unkeyed → o.result = .ok .null ∧ o.calls = []) := by
  dsimp only
  obtain ⟨e, l, s, hlinked, hlook, -, hadopted⟩ := Api.connect_ok hconnect
  have h := Database.introspected hlook
  rw [hadopted]
  refine ⟨e, l, s, hlinked, rfl, fun t ht => ⟨?_, h.closed t ht⟩, fun t => h.shows, fun hspells => ?_,
    fun hout qs => ⟨Errand.leftOut_inTurn hout qs, fun db' hdb' => Errand.inTurn_alike hdb' hout qs⟩,
    fun q hunknown db' => ?_⟩
  · exact ((h.names t.name).1 (List.mem_map_of_mem ht)).2
  · have honly := h.showsOnly hspells
    exact ⟨honly, honly.keepsOut hdistinct⟩
  · have hconnected : (a.adopt (l.knowing s) s).resolver.connected = true := rfl
    obtain ⟨hstate, hresult⟩ := Errand.run_unknown db' hconnected hunknown
    refine ⟨hstate, hresult, fun hunkeyed => ?_⟩
    rw [Errand.run_unkeyed hunkeyed]
    exact ⟨rfl, rfl⟩

/-- A table of people. -/
def usersTable : StoredTable where
  name := "users"
  columns := [{ name := "name", declared := "TEXT", primary := true }, { name := "mail", declared := "TEXT" }]
  rows := [[.text "Ann", .text "ann@home"]]

/-- People and what they have written, with a foreign key that spells the table of people in the given way. -/
def writings (target : String) : Database where
  tables := [usersTable, {
    name := "posts"
    columns := [{ name := "title", declared := "TEXT", primary := true }, { name := "author", declared := "TEXT" }]
    foreignKeys := [⟨"author", target, "name"⟩]
    rows := [[.text "Hello", .text "Ann"]] }]

/-- An API that leaves people out. -/
def withoutUsers : Api Unit := .create "" (some ⟨"sqlite", none⟩) ["users"] none {} {}

/-- With the table of people left out, the posts are all that is shown. -/
theorem users_stay_out :
    (writings "users").Distinct ∧ (withoutUsers.connect (writings "users").introspect "").1 = .ok [] ∧
      ∃ s, (withoutUsers.connect (writings "users").introspect "").2.schema = some s ∧
        (writings "users").ShowsOnly none ["users"] s := by
  have hdistinct : (writings "users").Distinct := by
    have hnames : (["users", "posts"].map upperAscii).Nodup := by decide +kernel
    exact hnames
  have hconnect : (withoutUsers.connect (writings "users").introspect "").1 = .ok [] := by decide +kernel
  have hspells : (writings "users").SpellsTables := by
    have hfound : (writings "users").table? "users" = some usersTable := by decide +kernel
    intro t ht f hf u hu
    rcases List.mem_cons.1 ht with rfl | ht
    · cases hf
    · obtain rfl := List.mem_singleton.1 ht
      obtain rfl := List.mem_singleton.1 hf
      obtain rfl := Option.some.inj (hfound.symm.trans hu)
      rfl
  obtain ⟨e, l, s, hlinked, hschema, -, -, hshows, -⟩ :=
    excluded_stay_out withoutUsers (writings "users") "" hdistinct hconnect
  obtain ⟨rfl, rfl⟩ := Prod.mk.inj (Except.ok.inj hlinked)
  exact ⟨hdistinct, hconnect, s, hschema, (hshows hspells).1⟩

/-- The schema of people and what they have written, as it is read if the foreign key says `Users`. -/
def writingsRead : Schema where
  tables := [
    { name := "Users"
      columns := [⟨"name", "TEXT", true, true, .text⟩, ⟨"mail", "TEXT", true, false, .text⟩]
      foreignKeys := [] },
    { name := "posts"
      columns := [⟨"title", "TEXT", true, true, .text⟩, ⟨"author", "TEXT", true, false, .text⟩]
      foreignKeys := [⟨"author", "Users", "name"⟩] }]

/-- If the foreign key spells the table of people in another way, then they are shown under that name although they are
left out, and their rows are read and written. -/
theorem users_come_back :
    let b := (withoutUsers.connect (writings "Users").introspect "").2
    let outcome (q : Errand) := (q.work b.resolver).run (Database.answer b.knownTables) (writings "Users")
    b.exclude = ["users"] ∧ b.knownTables = ["Users", "posts"] ∧
      (outcome (.put (some "Users") [("name", .text "Ann")])).result =
        .ok (.record [("name", .text "Ann"), ("mail", .text "ann@home")] .empty) ∧
      (outcome (.put (some "Users") [("name", .text "Ann"), ("mail", .text "ann@work")])).state.leftOut ["users"] =
        [{ usersTable with rows := [[.text "Ann", .text "ann@work"]] }] := by
  have hread : (writings "Users").introspect none ["users"] = .ok writingsRead := by decide +kernel
  have hconnect : (withoutUsers.connect (writings "Users").introspect "").2 =
      withoutUsers.adopt ⟨.sqlite, ["Users", "posts"]⟩ writingsRead := by
    have hlinked : withoutUsers.linked = .ok (⟨"sqlite", none⟩, ⟨.sqlite, []⟩) := by decide +kernel
    have hreads : ({} : Connection).reads (writings "Users").introspect
        ((⟨.sqlite, []⟩ : Link).lookedIn ⟨"sqlite", none⟩ "") withoutUsers.exclude = some writingsRead :=
      Connection.reads_eq_some.2 ⟨rfl, hread⟩
    exact congrArg Prod.snd (Api.connect_of_reads hlinked hreads rfl)
  rw [hconnect]
  exact ⟨rfl, rfl, rfl, rfl⟩

end TableGraph
