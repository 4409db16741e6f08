import Uncomment.Block.Scan
import Uncomment.Text.Blank

namespace Uncomment

namespace Block

/-! What stands around a block comment on its lines, and what taking the
comment out therefore has to do to them. -/

structure Range where
  start : Nat
  stop : Nat
deriving DecidableEq, Repr

/-- A comment among its lines. `opensLine` tells that only white space stands
between the line break before the comment and its opening marker, `closesLine`
that only white space stands between its closing marker and the line break after
it. The comment's own text may hold line breaks: the break after the comment is
looked for from the closing marker on. -/
structure Surroundings where
  span : Span
  size : Nat
  breakBefore : Option Nat
  breakAfter : Option Nat
  opensLine : Bool
  closesLine : Bool
deriving DecidableEq, Repr

namespace Surroundings

/-- Look around two markers of a text. The span need not be a comment: the answer
is `none` if an offset lies outside the text or inside a character, or if the
text between two of them would end before it starts. -/
def of? (text : Text) (span : Span) : Option Surroundings := do
  let before ← text.take? span.opener
  let breakBefore := Text.findLast? Text.newline before
  let fromCloser ← text.drop? span.closer
  let breakAfter := (Text.find? [Text.newline] fromCloser).map (span.closer + ·)
  let lead ← text.slice? (breakBefore.getD 0) span.opener
  let lineStop := (breakAfter.map (· + 1)).getD text.size
  let trail ← text.slice? span.after lineStop
  return {
    span, breakBefore, breakAfter
    size := text.size
    opensLine := lead.allBlank
    closesLine := trail.allBlank }

def lineStart (around : Surroundings) : Nat := around.breakBefore.getD 0

def lineEnd (around : Surroundings) : Nat := around.breakAfter.getD (around.size - 1)

def nextLine (around : Surroundings) : Nat :=
  (around.breakAfter.map (· + 1)).getD around.size

/-- The text that takes the comment's place. A comment that stands alone on its
lines leaves nothing behind. One with code on a single side leaves a line break,
since the break on its free side goes with it. -/
def replacement (around : Surroundings) : Option Text :=
  match around.opensLine, around.closesLine with
  | true, true => none
  | true, false | false, true => some [Text.newline]
  | false, false => some []

/-- What goes with the comment. On a free side that is the rest of the line; of
the two line breaks around a comment that stands alone, the one after it stays,
unless no line break comes before it. -/
def removal (around : Surroundings) : Range :=
  match around.opensLine, around.closesLine with
  | true, true =>
      let stop := match around.breakBefore, around.breakAfter with
        | some _, some breakAfter => breakAfter
        | none, some breakAfter => breakAfter + 1
        | _, none => around.size
      ⟨around.lineStart, stop⟩
  | true, false => ⟨around.lineStart, around.span.after⟩
  | false, true => ⟨around.span.opener, around.nextLine⟩
  | false, false => ⟨around.span.opener, around.span.after⟩

def trimsBefore (around : Surroundings) : Bool :=
  !around.opensLine && around.closesLine

end Surroundings

/-- A comment alone on its line goes with the line and the break before it. -/
example :
    (Surroundings.of? "a\n  /* c */\nb".toList ⟨4, 9⟩).map
      (fun around => (around.removal, around.replacement)) =
      some (⟨1, 11⟩, none) := by decide

/-- A comment at the end of a line leaves a line break behind. -/
example :
    (Surroundings.of? "x /* c */".toList ⟨2, 7⟩).map
      (fun around => (around.removal, around.replacement)) =
      some (⟨2, 9⟩, some [Text.newline]) := by decide

end Block

end Uncomment
