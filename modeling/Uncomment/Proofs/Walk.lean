import Uncomment.Walk
import Mathlib.Data.List.Basic

namespace Uncomment

/-! What a walk meets: the files that stand behind entries which are all let in. -/

/-! ## The way down -/

def Listing.opens : Listing → Bool
  | refused _ => false
  | complete | cutShort _ => true

/-- What stands at some names below a node, in directories that can be opened. -/
def Node.Leads : Node → List Bytes → Node → Prop
  | node, [], found => node = found
  | .directory entries listing, name :: names, found =>
      listing.opens = true ∧ ∃ child, (name, child) ∈ entries ∧ child.Leads names found
  | _, _ :: _, _ => False

def Node.LinkFree (node : Node) : Prop :=
  ∀ names target, ¬ node.Leads names (.link target)

theorem Node.LinkFree.child {entries : List (Bytes × Node)} {listing : Listing}
    (free : (Node.directory entries listing).LinkFree) (opens : listing.opens = true)
    {name : Bytes} {node : Node} (entry : (name, node) ∈ entries) : node.LinkFree :=
  fun names target leads => free (name :: names) target ⟨opens, node, entry, leads⟩

namespace Tree

def View.Leads : View → List Bytes → View → Prop
  | view, [], found => view = found
  | .directory entries, name :: names, found =>
      ∃ child, (name, child) ∈ entries ∧ child.Leads names found
  | _, _ :: _, _ => False

end Tree

/-! ## What is met in a view -/

namespace Walk

variable {σ : Type} {admission : Admission σ}

end Walk

/-! ## What can be seen of a tree without links -/

namespace Tree

variable {follow : Place → Bytes → View}

end Tree

end Uncomment
