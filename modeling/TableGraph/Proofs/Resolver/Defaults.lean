import TableGraph.Resolver.Basic

/-! # The defaults that a registration makes

Registering a catalog sets one default after the other. Whatever the resolver held before, a field has
a default afterwards exactly if the catalog's tables make one for it, and the last one made counts
(`made_register`).
-/
namespace TableGraph

/-- The default of an entry, with the table that it reads. -/
def Entry.made {ι : Type} (e : Entry ι) : Option (Default × Option String) := e.default.map fun d => (d, e.table)

namespace Resolver
variable {ι : Type}

/-- What a field does by default. -/
def default? (r : Resolver ι) (type field : String) : Option (Default × Option String) :=
  (r.entry? type field).bind Entry.made

/-- The defaults of some tables by type and field, in the order in which they are made. -/
def defaultEntries (tables : List TableTypes) : Assoc (String × String) (Default × String) :=
  (tables.flatMap defaultsOf).map fun d => ((d.1, d.2.1), d.2.2)

theorem defaultEntries_append (a b : List TableTypes) :
    defaultEntries (a ++ b) = defaultEntries a ++ defaultEntries b := by
  simp [defaultEntries]

theorem made_dropDefaults (entries : Assoc (String × String) (Entry ι)) (key : String × String) :
    ((dropDefaults entries).get? key).bind Entry.made = none := by
  cases hg : (dropDefaults entries).get? key with
  | none => rfl
  | some e =>
    obtain ⟨p, -, he⟩ := List.mem_map.1 (Assoc.mem_of_get? hg)
    have hd : e.default = none := by rw [← (Prod.mk.inj he).2]
    simp [Entry.made, hd]

theorem made_setDefault (types : Assoc String Fields) (entries : Assoc (String × String) (Entry ι))
    (type field table : String) (d : Default) (key : String × String) :
    ((setDefault types entries type field d table).get? key).bind Entry.made =
      if (type, field) = key then some (d, some table) else (entries.get? key).bind Entry.made := by
  unfold setDefault
  rw [Assoc.get?_put]
  split <;> rfl

theorem made_foldl (types : Assoc String Fields) (ds : List (String × String × Default × String))
    (entries : Assoc (String × String) (Entry ι)) (key : String × String) :
    ((ds.foldl (fun entries d => setDefault types entries d.1 d.2.1 d.2.2.1 d.2.2.2) entries).get? key).bind
        Entry.made =
      ((Assoc.get? (ds.map fun d => ((d.1, d.2.1), d.2.2)).reverse key).map fun p => (p.1, some p.2)).or
        ((entries.get? key).bind Entry.made) := by
  induction ds generalizing entries with
  | nil => rfl
  | cons d r ih =>
    rw [List.foldl_cons, ih, made_setDefault, List.map_cons, List.reverse_cons, Assoc.get?_append,
      Assoc.get?_cons, Assoc.get?_nil]
    cases Assoc.get? (r.map fun d => ((d.1, d.2.1), d.2.2)).reverse key with
    | some p => rfl
    | none => by_cases hk : (d.1, d.2.1) = key <;> simp [hk]

/-- After a registration a field does what the last of the catalog's tables to name it says. -/
theorem default?_register (r : Resolver ι) (c : Catalog) (type field : String) :
    (r.register c).default? type field =
      (Assoc.get? (defaultEntries c.generated.tables).reverse (type, field)).map fun p => (p.1, some p.2) := by
  have h := made_foldl (c.types true) (c.generated.tables.flatMap defaultsOf) (dropDefaults r.entries) (type, field)
  rw [made_dropDefaults, Option.or_none] at h
  exact h

/-! ## Which default a table makes -/

theorem mem_defaultEntries {tables : List TableTypes} {type field : String} {d : Default × String} :
    ((type, field), d) ∈ defaultEntries tables ↔ ∃ t ∈ tables, (type, field, d) ∈ defaultsOf t := by
  simp only [defaultEntries, List.mem_map, List.mem_flatMap]
  constructor
  · rintro ⟨e, ⟨t, ht, he⟩, hk⟩
    simp only [Prod.mk.injEq] at hk
    obtain ⟨⟨rfl, rfl⟩, rfl⟩ := hk
    exact ⟨t, ht, he⟩
  · rintro ⟨t, ht, he⟩
    exact ⟨(type, field, d), ⟨t, ht, he⟩, rfl⟩

theorem mem_defaultsOf {t : TableTypes} {type field table : String} {d : Default} :
    (type, field, d, table) ∈ defaultsOf t ↔
      (type = queryType ∧ field = t.listField ∧ d = .page ∧ table = t.table) ∨
      (type = queryType ∧ field = t.firstField ∧ d = .first ∧ table = t.table) ∨
      (type = mutationType ∧ field = t.putField ∧ d = .put ∧ table = t.table) ∨
      ∃ rel ∈ t.relations, rel.type = type ∧ rel.field = field ∧ .related rel = d ∧
        rel.referencedTable = table := by
  simp [defaultsOf]

end Resolver

end TableGraph
