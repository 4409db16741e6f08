import Uncomment.Block.Strip
import Uncomment.Line.Strip

namespace Uncomment

structure Stripped where
  output : Text
  hadComments : Bool
deriving DecidableEq, Repr

/-- Takes the block comments out of a text, and then the line comments out of what
is left. -/
def strip (text : Text) : Stripped :=
  let blocks := Block.strip text
  let lines := Line.strip (blocks.apply text)
  { output := lines.apply (blocks.apply text)
    hadComments := blocks.isChanged || lines.isChanged }

example : strip "/* a */\nx // b\n".toList = ⟨"x\n".toList, true⟩ := by decide +kernel

/-- Markers inside a string literal count as well. -/
example : strip "\"//\"".toList = ⟨['"'], true⟩ := by decide +kernel

end Uncomment
