import TableGraph.Proofs.Catalog.Entries
import TableGraph.Proofs.Catalog.History
import TableGraph.Proofs.Resolver.Changes

/-! # Fields of the types in force

The types of a connected catalog are the generated ones with the added ones laid over them: a type has a
field if it was generated or added (`hasField_layered`). Where no two type names meet, every field that a
default is made for is among the generated ones (`hasField_of_generates`).
-/
namespace TableGraph

/-- The type is in the registry and has the field. -/
def HasField {ν : Type} (types : Assoc String (Assoc String ν)) (type field : String) : Prop :=
  ∃ fields, types.get? type = some fields ∧ field ∈ Assoc.keys fields

section Layers
variable {ν : Type}

theorem HasField.exists_mem {types : Assoc String (Assoc String ν)} {type field : String}
    (h : HasField types type field) : ∃ p ∈ types, p.1 = type ∧ ∃ q ∈ p.2, q.1 = field := by
  obtain ⟨fields, hget, hf⟩ := h
  obtain ⟨q, hq, rfl⟩ := List.mem_map.1 hf
  exact ⟨(type, fields), Assoc.mem_of_get? hget, rfl, q, hq, rfl⟩

theorem hasField_put {types : Assoc String (Assoc String ν)} {key : String} {fields : Assoc String ν}
    {type field : String} :
    HasField (types.put key (((types.get? key).getD []).overlay fields)) type field ↔
      HasField types type field ∨ key = type ∧ field ∈ Assoc.keys fields := by
  unfold HasField
  rw [Assoc.get?_put]
  by_cases hk : key = type
  · subst hk
    cases hg : types.get? key with
    | none =>
      have hkeys : field ∉ Assoc.keys ([] : Assoc String ν) := by simp [Assoc.keys]
      simp [Assoc.mem_keys_overlay, hkeys]
    | some held => simp [Assoc.mem_keys_overlay]
  · simp [hk]

/-- A type laid over others has its fields and theirs. -/
theorem hasField_layered {below above : Assoc String (Assoc String ν)} {type field : String} :
    HasField (Catalog.layered below above) type field ↔
      HasField below type field ∨ ∃ p ∈ above, p.1 = type ∧ field ∈ Assoc.keys p.2 := by
  induction above generalizing below with
  | nil => simp [Catalog.layered]
  | cons p rest ih =>
    change HasField (Catalog.layered (below.put p.1 (((below.get? p.1).getD []).overlay p.2)) rest) type field ↔ _
    rw [ih, hasField_put]
    simp [or_assoc]

/-- What holds of the types in both layers and of their fields holds of them when one is laid over the other. -/
theorem layered_forall {P : String → Prop} {Q : String × ν → Prop} {below above : Assoc String (Assoc String ν)}
    (hb : ∀ p ∈ below, P p.1 ∧ ∀ q ∈ p.2, Q q) (ha : ∀ p ∈ above, P p.1 ∧ ∀ q ∈ p.2, Q q) :
    ∀ p ∈ Catalog.layered below above, P p.1 ∧ ∀ q ∈ p.2, Q q := by
  induction above generalizing below with
  | nil => exact hb
  | cons r rest ih =>
    obtain ⟨⟨hkey, hr⟩, hrest⟩ := List.forall_mem_cons.1 ha
    refine ih (fun p hp => ?_) hrest
    rcases Assoc.mem_put hp with rfl | hp
    · refine ⟨hkey, fun q hq => ?_⟩
      rcases Assoc.mem_overlay hq with hq | hq
      · cases hg : below.get? r.1 with
        | none =>
          rw [hg] at hq
          cases hq
        | some held =>
          rw [hg, Option.getD_some] at hq
          exact (hb _ (Assoc.mem_of_get? hg)).2 q hq
      · exact hr q hq
    · exact hb p hp

end Layers

namespace Generated
variable {hashLength : Int} {schema : Schema}

/-- Where no type names meet, only a table that gets types is compiled. -/
theorem TypeNamesApart.emitted_of_compiled (h : TypeNamesApart hashLength schema) {p : SchemaTable × String}
    (hp : p ∈ compiled hashLength schema) : p ∈ emitted hashLength schema := by
  obtain ⟨hnamed, hhas⟩ := List.mem_filter.1 hp
  obtain ⟨⟨name, fields⟩, hm, hname⟩ := List.mem_map.1 ((Assoc.has_iff _ _).1 hhas)
  obtain rfl : name = p.2 := hname
  have hfree : p.2 ∉ Name.reservedTypes := h.unreserved p hnamed p.2 (self_mem_typeNames p.2)
  have hroot : queryType ∈ Name.reservedTypes ∧ mutationType ∈ Name.reservedTypes := by decide
  have hmeet {q : SchemaTable × String} (hq : q ∈ emitted hashLength schema) (hm : p.2 ∈ typeNames q.2) : p = q := by
    by_contra hne
    have hsymm : Std.Symm fun p q : SchemaTable × String => (typeNames p.2).Disjoint (typeNames q.2) :=
      ⟨fun _ _ hd => List.disjoint_comm.1 hd⟩
    exact (List.nodup_flatMap.1 h.nodup).2.forall hnamed (List.mem_filter.1 hq).1 hne (self_mem_typeNames p.2) hm
  rcases type_origin hm with ⟨he, -⟩ | ⟨he, -⟩ | ⟨q, hq, he, -⟩ | ⟨q, hq, he, -⟩
  · exact absurd (he.symm ▸ hroot.1) hfree
  · exact absurd (he.symm ▸ hroot.2) hfree
  · have hself : p.2 ∈ typeNames q.2 := he ▸ self_mem_typeNames q.2
    exact hmeet hq hself ▸ hq
  · have hpage : p.2 ∈ typeNames q.2 := by simp [typeNames, he]
    exact hmeet hq hpage ▸ hq

/-- Where no type names meet, the registry has every field that a default is made for. -/
theorem TypeNamesApart.hasField (h : TypeNamesApart hashLength schema) {c : Catalog}
    (hc : c.generated = build hashLength schema) {type field : String} (hg : c.Generates type field) :
    HasField c.generated.types type field := by
  obtain ⟨t, ht, hg⟩ := hg
  rw [hc] at ht ⊢
  obtain ⟨p, hp, rfl⟩ := compiled_of_mem_tables ht
  have he := h.emitted_of_compiled hp
  rcases hg with ⟨rfl, hfield⟩ | ⟨rfl, rfl⟩ | ⟨rel, hr, rfl, rfl⟩
  · refine ⟨_, get?_types_query hashLength schema, Assoc.mem_keys_overlay.2 (.inr ?_)⟩
    refine List.mem_map.2 ?_
    rcases hfield with rfl | rfl
    · exact ⟨_, List.mem_flatMap.2 ⟨p, he, List.mem_cons_self⟩, rfl⟩
    · exact ⟨_, List.mem_flatMap.2 ⟨p, he, List.mem_cons_of_mem _ List.mem_cons_self⟩, rfl⟩
  · refine ⟨_, get?_types_mutation hashLength schema (List.ne_nil_of_mem he), Assoc.mem_keys_overlay.2 (.inr ?_)⟩
    exact List.mem_map.2 ⟨_, List.mem_map_of_mem he, rfl⟩
  · rw [(relation_origin ht hr).1]
    refine ⟨_, (h.kept he).object, ?_⟩
    have hrelated := related_outcome hashLength (basesOf (named hashLength schema)) p
    rw [hrelated.fields]
    exact Assoc.mem_keys_overlay.2 (.inr (List.mem_map.2 ⟨_, List.mem_map_of_mem hr, rfl⟩))

end Generated

end TableGraph
