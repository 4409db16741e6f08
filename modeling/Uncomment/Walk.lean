import Uncomment.Tree.View

namespace Uncomment

/-! Visiting the files below a root. -/

/-- Which entries of a directory a walk lets in. What `survey` finds out about a
directory serves all its entries. -/
structure Admission (σ : Type) where
  survey : Location → σ
  admits : σ → Location → Bool → Bool

inductive Visit
  | file (location : Location) (file : File)
  | fault (fault : Tree.Fault)

namespace Walk

variable {σ : Type}

mutual
/-- The visits in a view. A directory that is not let in is not entered; a fault is
always met. -/
def visits (admission : Admission σ) (location : Location) : Tree.View → List Visit
  | .file file => [.file location file]
  | .directory entries =>
      visitsBelow admission (admission.survey location) location entries
  | .bystander => []
  | .fault fault => [.fault fault]

def visitsBelow (admission : Admission σ) (surveyed : σ) (location : Location) :
    List (Bytes × Tree.View) → List Visit
  | [] => []
  | (name, view) :: rest =>
      let place := location ++ [name]
      let enters := view.isFault || admission.admits surveyed place view.isDirectory
      (if enters then visits admission place view else []) ++
        visitsBelow admission surveyed location rest
end

end Walk

end Uncomment
