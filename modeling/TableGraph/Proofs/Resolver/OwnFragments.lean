import TableGraph.Proofs.Resolver.RootFragments

/-! # How far the fragments of a field reach

A field's own bare fragments are kept under the name of the field, and the row found carries them on. So below it they
reach the fields of the same name and no others (`own_fragments_stay_iff`): the field itself where it is followed again,
as from a folder to its parent and on to the parent of that, or one of another table that happens to have its name.
-/
namespace TableGraph

namespace Resolver
variable {ι : Type} {r : Resolver ι}

/-- Taking the bare fragments out of a field's own arguments, and keeping the row found, changes nothing of what is
asked along a path below it, whatever the parent, the arguments and the databases are. -/
def BareStay (r : Resolver ι) (rel : Relation) (path : List Relation) : Prop :=
  ∀ (parent : Value) (args : Args) (row : Row) (request : RequestArgs),
    MayGive (r.related rel parent args) (.record row request) →
    ∃ left, MayGive (r.related rel parent (stripped (fun scope => scope = none) args)) (.record row left) ∧
      ∀ (σ : Type) (answer : (c : Call) → σ → Except Failure c.Answer × σ) (s : σ),
        descend r answer path (.record row left) s = descend r answer path (.record row request) s

/-- From a parent with the key any row may be found. -/
theorem mayGive_related (hconnected : r.connected = true) {rel : Relation} {parent : Value} {args : Args}
    {own inherited : RequestArgs} (hkey : (parent.member rel.column).isNull = false) (hown : requestArgs args = .ok own)
    (hinherited : inheritedArgs parent = .ok inherited) (row : Row) :
    MayGive (r.related rel parent args) (.record row (passedOn rel inherited own)) := by
  refine ⟨Unit, everywhere row, (), ?_⟩
  simp only [related, requireConnection, hkey, hconnected, hown, hinherited, if_true, Bool.false_eq_true, if_false]
  rfl

theorem bareStay_of_apart {rel : Relation} {path : List Relation} (h : ∀ below ∈ path, below.field ≠ rel.field) :
    BareStay r rel path := by
  intro parent args row request hfound
  rcases related_of_mayGive hfound with hnull | ⟨hconnected, hkey, own, inherited, found, hown, hinherited, hrecord⟩
  · cases hnull
  · obtain ⟨rfl, rfl⟩ := Value.record.inj hrecord
    obtain ⟨left, hleft, hget⟩ := requestArgs_stripped hown fun scope => scope = none
    refine ⟨passedOn rel inherited left, mayGive_related hconnected hkey hleft hinherited row, fun σ answer s => ?_⟩
    refine descend_congr (fun below hbelow => ?_) (some row) answer s
    have hne : rel.field ≠ below.field := (h below hbelow).symm
    rw [get_passedOn_other hleft hne, get_passedOn_other hown hne, hget]
    rfl

/-- What a row found without the bare fragments carries for the field, if nothing else was said. -/
theorem get_of_stripped {rel : Relation} {parentRow row : Row} {args : Args} {own left : RequestArgs}
    (hown : requestArgs args = .ok own) (hscoped : own.get (some rel.field) = .empty)
    (h : MayGive (r.related rel (.record parentRow .empty) (stripped (fun scope => scope = none) args))
      (.record row left)) : left.get (some rel.field) = .empty := by
  obtain ⟨rest, hrest, hget⟩ := requestArgs_stripped hown fun scope => scope = none
  rcases related_of_mayGive h with hnull | ⟨-, -, read, inherited, found, hread, hinherited, hrecord⟩
  · cases hnull
  · obtain rfl : RequestArgs.empty = inherited := Except.ok.inj hinherited
    obtain rfl : rest = read := Except.ok.inj (hrest.symm.trans hread)
    obtain ⟨rfl, rfl⟩ := Value.record.inj hrecord
    have hfield : rest.get (some rel.field) = .empty := (hget _).trans hscoped
    have hbare : rest.get none = .empty := hget none
    rw [get_passedOn hrest, hfield, hbare]
    rfl

/-- A field of the same name is asked with the bare fragments, wherever it is on the path. -/
theorem not_bareStay_of_field (hconnected : r.connected = true) {rel below : Relation} {path : List Relation}
    (hbelow : below ∈ path) (hfield : below.field = rel.field) : ¬ BareStay r rel path := by
  intro h
  let row := keyed (rel :: path)
  let own : RequestArgs := ⟨[(none, { conditions := [⟨"leak", "eq", "1"⟩] })]⟩
  have hown : requestArgs [("filter", .text "leak=1")] = .ok own := by decide +kernel
  have hkeys : ∀ below ∈ rel :: path, (keyValue below row).isNull = false := fun _ => keyValue_keyed
  have hkey : ((Value.record row .empty).member rel.column).isNull = false := hkeys rel List.mem_cons_self
  have hmarked : passedOn rel .empty own = markedRequest below.field := by
    rw [hfield]
    rfl
  have hinherited : inheritedArgs (.record row .empty) = .ok .empty := rfl
  have hfound := mayGive_related hconnected hkey hown hinherited row
  rw [hmarked] at hfound
  obtain ⟨left, hleft, hsame⟩ := h _ _ _ _ hfound
  have hempty : left.get (some below.field) = .empty := by
    rw [hfield]
    exact get_of_stripped hown rfl hleft
  have hkeysBelow : ∀ rel ∈ path, (keyValue rel row).isNull = false := (List.forall_mem_cons.1 hkeys).2
  exact descend_marked_ne hconnected hkeysBelow hbelow hempty (hsame Unit (everywhere row) ())

end Resolver

open Resolver

/-- The bare fragments of a field's own arguments change nothing of what is asked along a path below the row found
exactly if no relation on the path has the same name as its field. -/
theorem own_fragments_stay_iff {ι : Type} (r : Resolver ι) (hconnected : r.connected = true) (rel : Relation)
    (path : List Relation) : BareStay r rel path ↔ ∀ below ∈ path, below.field ≠ rel.field := by
  constructor
  · intro h below hbelow hfield
    exact not_bareStay_of_field hconnected hbelow hfield h
  · exact bareStay_of_apart

/-- What is said about the author of a post is not said about the author's best post. -/
theorem best_post_apart :
    let r : Resolver Unit := { connected := true }
    BareStay r authorOfPosts [bestOfAuthors] :=
  (own_fragments_stay_iff { connected := true } rfl authorOfPosts [bestOfAuthors]).2 (by decide)

/-- Folders are in folders. -/
def foldersSchema : Schema :=
  let column (name : String) : SchemaColumn := ⟨name, "INTEGER", true, false, .text⟩
  ⟨[⟨"folders", [column "id", column "parent_id"], [⟨"parent_id", "folders", "id"⟩], true⟩]⟩

def parentOfFolders : Relation := ⟨"Folders", "folders_parent_id", "folders", "parent_id", "folders", "id"⟩

/-- The parent of the parent is looked for by the name that is meant for the parent only. -/
theorem grandparent_affected :
    let r : Resolver Unit := { connected := true }
    let folder : Row := [("id", .int 7), ("parent_id", .int 1)]
    let args : Args := [("filter", .text "name=etc")]
    let request : RequestArgs := ⟨[(some "folders_parent_id", { conditions := [⟨"name", "eq", "etc"⟩] })]⟩
    Leads (Generated.build 8 foldersSchema).tables "folders" [parentOfFolders, parentOfFolders] ∧
      MayGive (r.related parentOfFolders (.record folder .empty) args) (.record folder request) ∧
      MayGive (r.related parentOfFolders (.record folder .empty) (stripped (fun scope => scope = none) args))
        (.record folder .empty) ∧
      descend r (everywhere folder) [parentOfFolders] (.record folder request) () =
        [[.select (some "folders")
          { conditions := [⟨"name", "eq", .text "etc"⟩, ⟨"id", "eq", .int 1⟩], limit := some 1 }]] ∧
      descend r (everywhere folder) [parentOfFolders] (.record folder .empty) () =
        [[.select (some "folders") { conditions := [⟨"id", "eq", .int 1⟩], limit := some 1 }]] ∧
      ¬ BareStay r parentOfFolders [parentOfFolders] := by
  intro r folder args request
  let own : RequestArgs := ⟨[(none, { conditions := [⟨"name", "eq", "etc"⟩] })]⟩
  have hown : requestArgs args = .ok own := by decide +kernel
  have hleft : requestArgs (stripped (fun scope => scope = none) args) = .ok .empty := by decide +kernel
  have hkey : ((Value.record folder .empty).member parentOfFolders.column).isNull = false := rfl
  refine ⟨⟨by decide +kernel, by decide +kernel, trivial⟩, mayGive_related rfl hkey hown rfl folder,
    mayGive_related rfl hkey hleft rfl folder, rfl, rfl, ?_⟩
  exact not_bareStay_of_field rfl List.mem_cons_self rfl

end TableGraph
