import Uncomment.Text.Search

namespace Uncomment

namespace Block

/-! Where the block comments of a text are. Markers are found by plain search:
an opening marker inside a string literal, or inside a line comment, counts. -/

def opening : Text := ['/', '*']

def closing : Text := ['*', '/']

/-- The byte offsets at which the two markers of a comment start. -/
structure Span where
  opener : Nat
  closer : Nat
deriving DecidableEq, Repr

def Span.body (span : Span) : Nat := span.opener + Text.size opening

def Span.after (span : Span) : Nat := span.closer + Text.size closing

/-- What the search for block comments finds. Once a comment is not closed,
those before it are not reported. -/
inductive Scan
  | absent
  | unclosed (opener : Nat)
  | closed (spans : List Span)
deriving DecidableEq, Repr

def Scan.cons (span : Span) : Scan → Scan
  | .absent => .closed [span]
  | .unclosed opener => .unclosed opener
  | .closed spans => .closed (span :: spans)

/-- The comments from byte `cursor` on. A comment ends at the first closing
marker after its opening marker, and the search goes on after that; `none`
tells that `cursor` is no offset between two characters. -/
def scanFrom? (text : Text) (cursor : Nat) : Option Scan :=
  match _dropped : Text.drop? cursor text with
  | none => none
  | some rest =>
    match _opened : Text.find? opening rest with
    | none => some .absent
    | some gap =>
      match Text.drop? (cursor + gap + Text.size opening) text with
      | none => none
      | some inside =>
        match Text.find? closing inside with
        | none => some (.unclosed (cursor + gap))
        | some length =>
          let span : Span := ⟨cursor + gap, cursor + gap + Text.size opening + length⟩
          (scanFrom? text span.after).map (Scan.cons span)
termination_by Text.size text - cursor
decreasing_by
  have textSize := Text.size_of_drop? _dropped
  have gapSize := Text.find?_le_size _opened
  have openingSize : Text.size opening = 2 := rfl
  simp only [Span.after]
  omega

def scan (text : Text) : Scan := (scanFrom? text 0).getD .absent

end Block

end Uncomment
