import Uncomment.Proofs.Exclusion
import Uncomment.Proofs.Run.Inputs
import Uncomment.Proofs.Walk

namespace Uncomment

/-! Which files a run reads: the ones that no verdict and no pattern keeps out on the way to
them, and that have an extension and a size that are asked for. -/

namespace Selection

variable {σ : Type}

variable {selection : Selection} {patterns : List Text}

private def bytes (name : String) : Bytes := Utf8.encode name.toList

private def keptOut : List Text := ["**/gen/**".toList, " ".toList]

private def narrow : Selection where
  extensions := ["c".toList]
  excludes := (Exclusion.compile keptOut).toOption.getD []

end Selection

end Uncomment
