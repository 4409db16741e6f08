import Uncomment.Block.Surroundings
import Uncomment.Edit

namespace Uncomment

namespace Block

/-! The pass that takes the block comments out of a text. -/

/-- What is left of the text from byte `cursor` on. Two comments may both take in
the line break between them; it goes with the first. -/
def stripFrom? (text : Text) (cursor : Nat) : List Span → Option Text
  | [] => text.drop? cursor
  | span :: rest => do
      let around ← Surroundings.of? text span
      let start := max around.removal.start cursor
      let kept ← text.slice? cursor start
      let kept := if around.trimsBefore then kept.trimPadding else kept
      let tail ← stripFrom? text (max around.removal.stop start) rest
      return kept ++ around.replacement.getD [] ++ tail

def strip? (text : Text) : Option Edit := do
  match ← scanFrom? text 0 with
  | .absent | .unclosed _ => return .unchanged
  | .closed spans => return .changed (← stripFrom? text 0 spans)

def strip (text : Text) : Edit := (strip? text).getD .unchanged

/-- The second comment ends the line of the code before it. -/
example :
    strip "/* a */\nx; /* b */\ny".toList = .changed "x;\ny".toList := by decide +kernel

/-- Code on both sides of a comment is joined. -/
example : strip "x/* a\n */y".toList = .changed "xy".toList := by decide +kernel

example : strip "/* a */ x /* b".toList = .unchanged := by decide +kernel

end Block

end Uncomment
