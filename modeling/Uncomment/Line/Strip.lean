import Uncomment.Edit
import Uncomment.Text.Blank
import Uncomment.Text.Search

namespace Uncomment

namespace Line

/-! The pass that takes the line comments out of a text. -/

def marker : Text := ['/', '/']

/-- What is written of the text from byte `cursor` on: the code before each comment, trimmed
at both ends over all the lines since the comment before, and the text behind the last
comment. The line break that ends a comment leads the text that follows, and is dropped
as long as nothing has been `written`. -/
def segmentsFrom? (text : Text) (cursor : Nat) (written : Bool) :
    Option (List Text × Text) :=
  match _dropped : Text.drop? cursor text with
  | none => none
  | some rest =>
    match _marked : Text.find? marker rest with
    | none => some ([], rest)
    | some length =>
      match _cut : Text.splitAt? length rest with
      | none => none
      | some (code, comment) =>
        match _ended : Text.find? [Text.newline] comment with
        | none => some ([code.trim], [])
        | some commentLength =>
          let written := written || !code.trim.isEmpty
          let lineBreak := cursor + length + commentLength
          (segmentsFrom? text (if written then lineBreak else lineBreak + 1) written).map
            fun (segments, tail) => (code.trim :: segments, tail)
termination_by Text.size text - cursor
decreasing_by
  have textSize := Text.size_of_drop? _dropped
  have codeSize := Text.find?_le_size _marked
  obtain ⟨after, rfl⟩ := Text.splitAt?_of_find? _marked _cut
  have progress := Text.find?_pos (by decide) _ended
  have markerSize : Text.size marker = 2 := rfl
  split <;> omega

def stripFrom? (text : Text) (cursor : Nat) (written : Bool) : Option Text :=
  (segmentsFrom? text cursor written).map fun (segments, tail) => segments.flatten ++ tail

def strip? (text : Text) : Option Edit :=
  match Text.find? marker text with
  | none => some .unchanged
  | some _ => (stripFrom? text 0 false).map .changed

def strip (text : Text) : Edit := (strip? text).getD .unchanged

/-- The blank lines before the second comment belong to its line. -/
example :
    strip "x; // a\n\n  y; // b\n  z".toList = .changed "x;y;\n  z".toList := by
  decide +kernel

/-- A comment that starts the text takes its line break with it. -/
example : strip "// a\nx".toList = .changed "x".toList := by decide +kernel

end Line

end Uncomment
