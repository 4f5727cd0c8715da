import TableGraph.Proofs.Resolver.Questions

/-! # Where a relation may lead

Following a relation from a row asks for one row of the referenced table, by the key and by the
fragments scoped by the field's name. The fragments are whatever the request says, but they only add
conditions, so they can keep the row back and never lead to another one (`Reached`). What else can
happen is that the request holds an integer beyond 64 bits, or that the table holds a row that cannot
be read: such failures stay.
-/
namespace TableGraph

namespace RequestArgs

theorem mem_join {scopes : Scopes} {k : Option String} {c : Condition String}
    (h : c ∈ (get ⟨scopes⟩ k).conditions) (scope : Option String) (args : ScopeArgs String) :
    c ∈ (get ⟨join scopes scope args⟩ k).conditions := by
  rw [get_join]
  split
  · exact List.mem_append_left _ h
  · exact h

/-- An overlay drops no condition of either side. -/
theorem mem_overlay {r s : RequestArgs} {k : Option String} {c : Condition String}
    (h : c ∈ (r.get k).conditions ∨ c ∈ (s.get k).conditions) : c ∈ ((r.overlay s).get k).conditions := by
  obtain ⟨scopes⟩ := r
  obtain ⟨later⟩ := s
  simp only [overlay]
  induction later generalizing scopes with
  | nil =>
    rcases h with h | h
    · exact h
    · cases h
  | cons p rest ih =>
    apply ih
    rcases h with h | h
    · exact .inl (mem_join h p.1 p.2)
    · rw [get, Assoc.get?_cons] at h
      split at h
      · rename_i hk
        left
        rw [get_join, if_pos hk]
        exact List.mem_append_right _ h
      · exact .inr h

end RequestArgs

namespace Resolver
variable {ι : Type}

/-- The field's own arguments under its name: those scoped by it, and after them the bare ones. -/
theorem get_ownScope (field : String) (own : RequestArgs) :
    (ownScope field own).get (some field) = (own.get (some field)).merged (own.get none) := by
  unfold ownScope
  cases hroot : own.scopes.get? none with
  | none => simp [RequestArgs.get, hroot]
  | some root =>
    have hdrop : RequestArgs.get ⟨own.scopes.drop none⟩ (some field) = own.get (some field) := by
      simp [RequestArgs.get, Assoc.get?_drop]
    have hbare : own.get none = root := by simp [RequestArgs.get, hroot]
    rw [RequestArgs.get_join, if_pos rfl, hdrop, hbare]

/-! ## The row found -/

section Row
variable {r : Resolver ι} {known : List String} {db : Store.Database} {rel : Relation} {row : Row}
  {inherited : RequestArgs} {args : Args}

theorem name_of_tableNamed {name : String} {p : String × Store.StoredTable}
    (h : db.tableNamed known (some name) = .ok p) : p.1 = name := by
  simp only [Store.Database.tableNamed] at h
  split at h
  · cases h
    rfl
  · cases h

theorem isData_of_tableNamed {table : Option String} {e : Failure} (h : db.tableNamed known table = .error e) :
    e.isData = true := by
  unfold Store.Database.tableNamed at h
  split at h
  · cases h
    rfl
  · split at h
    · cases h
    · cases h
      rfl

/-- What a row found by following a relation has to do with the request: it is read from a row of the
referenced table that has the key, and that meets what the request says under the field's name, be it
from further up, scoped by the field or bare. -/
structure Reached (known : List String) (db : Store.Database) (rel : Relation) (row : Row) (inherited : RequestArgs)
    (own : RequestArgs) (t : Store.StoredTable) (stored : Store.Cells) (found : Row) : Prop where
  table : db.tableNamed known (some rel.referencedTable) = .ok (rel.referencedTable, t)
  held : stored ∈ t.rows
  read : t.readRow stored = .ok found
  key : t.Satisfies rel.referencedTable stored (Store.StoredTable.keyed rel.referencedColumn (keyValue rel row))
  fromAbove : ∀ c ∈ (inherited.forScope rel.field).conditions, t.Satisfies rel.referencedTable stored c.toCall
  byField : ∀ c ∈ (own.forScope rel.field).conditions, t.Satisfies rel.referencedTable stored c.toCall
  bare : ∀ c ∈ (own.get none).conditions, t.Satisfies rel.referencedTable stored c.toCall

theorem keyed_mem_asked (rel : Relation) (row : Row) (inherited own : RequestArgs) :
    Store.StoredTable.keyed rel.referencedColumn (keyValue rel row) ∈ (asked rel row inherited own).conditions :=
  List.mem_append_right _ (List.mem_singleton.2 rfl)

theorem toCall_mem_asked {own : RequestArgs} {c : Condition String}
    (h : c ∈ (inherited.forScope rel.field).conditions ∨ c ∈ (own.forScope rel.field).conditions ∨
      c ∈ (own.get none).conditions) : c.toCall ∈ (asked rel row inherited own).conditions := by
  refine List.mem_append_left _ (List.mem_map_of_mem (RequestArgs.mem_overlay ?_))
  rcases h with h | h
  · exact .inl h
  · right
    rw [get_ownScope]
    exact List.mem_append.2 h

theorem reached_of_select {own : RequestArgs} {t : Store.StoredTable} {rows : List Row} {found : Row}
    (ht : db.tableNamed known (some rel.referencedTable) = .ok (rel.referencedTable, t))
    (hselect : t.select rel.referencedTable (asked rel row inherited own) = .ok rows) (hfound : found ∈ rows) :
    ∃ stored, Reached known db rel row inherited own t stored found := by
  obtain ⟨stored, hstored, hread, hall⟩ := Store.StoredTable.select_sound hselect hfound
  refine ⟨stored, ht, hstored, hread, ?_, ?_, ?_, ?_⟩
  · exact hall _ (keyed_mem_asked rel row inherited own)
  · exact fun c hc => hall _ (toCall_mem_asked (.inl hc))
  · exact fun c hc => hall _ (toCall_mem_asked (.inr (.inl hc)))
  · exact fun c hc => hall _ (toCall_mem_asked (.inr (.inr hc)))

/-- The arguments of a field without its filter and its pagination. -/
def unfiltered (args : Args) : Args := (args.drop "filter").drop "pagination"

theorem requestArgs_unfiltered (args : Args) : requestArgs (unfiltered args) = .ok .empty := by
  have hfilter : (unfiltered args).get? "filter" = none := by simp [unfiltered, Assoc.get?_drop]
  have hpagination : (unfiltered args).get? "pagination" = none := by simp [unfiltered, Assoc.get?_drop]
  unfold requestArgs
  simp only [hfilter, hpagination]
  rfl

/-- Where the referenced column is unique, the row is found without any fragment too. -/
theorem relatedResult_unfiltered {own : RequestArgs} {t : Store.StoredTable} {rows : List Row} {found : Row}
    (hconnected : r.connected = true) (hkey : (keyValue rel row).isNull = false)
    (ht : db.tableNamed known (some rel.referencedTable) = .ok (rel.referencedTable, t))
    (hselect : t.select rel.referencedTable (asked rel row inherited own) = .ok rows) (hfound : found ∈ rows)
    (hunique : t.UniqueIn rel.referencedColumn) :
    relatedResult r (Store.Database.answer known) db rel row .empty (unfiltered args) = .ok (.record found .empty) := by
  have halone := Store.StoredTable.select_alone hkey (keyed_mem_asked rel row inherited own) hunique hselect hfound
  unfold relatedResult
  rw [hkey, hconnected, requestArgs_unfiltered]
  have hasked : asked rel row .empty .empty =
      { conditions := [Store.StoredTable.keyed rel.referencedColumn (keyValue rel row)], limit := some 1 } := rfl
  have hanswer : ((db.tableNamed known (some rel.referencedTable)).bind fun p =>
      p.2.select p.1 (asked rel row .empty .empty)) = .ok [found] := by
    rw [ht, hasked]
    exact halone
  simp only [Bool.false_eq_true, if_false, if_true]
  change settled (do
    let rows ← (db.tableNamed known (some rel.referencedTable)).bind fun p =>
      p.2.select p.1 (asked rel row .empty .empty)
    return (records (passedOn rel .empty .empty) rows).headD .null) = _
  rw [hanswer]
  rfl

/-- A failure to ask is one of data, or the select went beyond what the database can do. -/
theorem asked_error {own : RequestArgs} {e : Failure}
    (h : ((db.tableNamed known (some rel.referencedTable)).bind fun p =>
      p.2.select p.1 (asked rel row inherited own)) = .error e) :
    e.isData = true ∨ ∃ t, db.tableNamed known (some rel.referencedTable) = .ok (rel.referencedTable, t) ∧
      t.Beyond rel.referencedTable (asked rel row inherited own) e := by
  rcases Chain.bind_eq_error.1 h with h | ⟨⟨name, t⟩, ht, h⟩
  · exact .inl (isData_of_tableNamed h)
  · obtain rfl : name = rel.referencedTable := name_of_tableNamed ht
    rcases Store.StoredTable.select_error h with hdata | hbeyond
    · exact .inl hdata
    · exact .inr ⟨t, ht, hbeyond⟩

end Row

end Resolver

open Resolver

/-- Following a relation from a row leaves the database as it is. It gives null, or a row of the
referenced table that has the key and meets every condition that the request has for the field; and
where the referenced column is unique, that row is the one found with no filter and no pagination
anywhere. It fails only without a connection, or if an integer that is compared with, or the offset,
is beyond 64 bits, or if a row of the table cannot be read. -/
theorem related_confined {ι : Type} (r : Resolver ι) (known : List String) (db : Store.Database) (rel : Relation)
    (row : Row) (inherited : RequestArgs) (args : Args) :
    let o := (r.related rel (.record row inherited) args).run (Store.Database.answer known) db
    let plain := (r.related rel (.record row .empty) (unfiltered args)).run (Store.Database.answer known) db
    o.state = db ∧
      (∀ v, o.result = .ok v → v = .null ∨ ∃ own t stored found, requestArgs args = .ok own ∧
        v = .record found (passedOn rel inherited own) ∧ Reached known db rel row inherited own t stored found ∧
        (t.UniqueIn rel.referencedColumn → plain.result = .ok (.record found .empty))) ∧
      ∀ e, o.result = .error e → r.connected = false ∧ e = .config .noConnection ∨
        e.isData = false ∧ ∃ own t, requestArgs args = .ok own ∧
          db.tableNamed known (some rel.referencedTable) = .ok (rel.referencedTable, t) ∧
          t.Beyond rel.referencedTable (asked rel row inherited own) e := by
  dsimp only
  obtain ⟨hresult, hstate⟩ := run_related (reliable_answer known) r db rel row inherited args
  obtain ⟨hplain, -⟩ := run_related (reliable_answer known) r db rel row .empty (unfiltered args)
  rw [hresult, hplain]
  refine ⟨hstate, fun v hv => ?_, fun e he => ?_⟩
  · rcases relatedResult_ok hv with hnull | ⟨hconnected, hkey, own, rows, found, hown, hrows, hfound, hv⟩
    · exact .inl hnull
    · obtain ⟨⟨name, t⟩, ht, hselect⟩ := Chain.bind_eq_ok.1 hrows
      obtain rfl : name = rel.referencedTable := name_of_tableNamed ht
      obtain ⟨stored, hreached⟩ := reached_of_select ht hselect hfound
      exact .inr ⟨own, t, stored, found, hown, hv, hreached,
        fun hunique => relatedResult_unfiltered hconnected hkey ht hselect hfound hunique⟩
  · rcases relatedResult_error he with hunconnected | ⟨hstays, own, hown, hrefused⟩
    · exact .inl hunconnected
    · rcases asked_error hrefused with hdata | ⟨t, ht, hbeyond⟩
      · cases hstays.symm.trans hdata
      · exact .inr ⟨hstays, own, t, hown, ht, hbeyond⟩

def authorsDatabase : Store.Database where
  tables :=
    [{ name := "authors", columns := [{ name := "id", declared := "INTEGER", primary := true }], rows := [[.int 1]] }]

def authorOfPost : Relation := ⟨"Posts", "authors", "posts", "author_id", "authors", "id"⟩

/-- A filter with an integer that the database has no room for is neither answered nor passed over. -/
theorem author_out_of_range :
    ((({ connected := true } : Resolver Unit).related authorOfPost (.record [("author_id", .int 1)] .empty)
      [("filter", .text "id=99999999999999999999")]).run (Store.Database.answer ["authors"]) authorsDatabase).result =
        .error .outOfRange := by
  rfl

end TableGraph
