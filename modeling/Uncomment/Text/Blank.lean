import Uncomment.Text.Basic

namespace Uncomment

namespace Text

/-! ## White space -/

def isBlankCode (code : Nat) : Bool :=
  (0x09 ≤ code && code ≤ 0x0D) || code == 0x20 || code == 0x85 || code == 0xA0 ||
    code == 0x1680 || (0x2000 ≤ code && code ≤ 0x200A) || code == 0x2028 ||
    code == 0x2029 || code == 0x202F || code == 0x205F || code == 0x3000

def isBlank (char : Char) : Bool := isBlankCode char.toNat

example : ['\u0085', '\u00A0', '\u2028', '\u3000'].all isBlank := rfl

/-- The zero-width space is not white space. -/
example : isBlank '\u200B' = false := rfl

def allBlank (text : Text) : Bool := text.all isBlank

/-! ## Trimming -/

def trimLeading (drops : Char → Bool) (text : Text) : Text := text.dropWhile drops

def trimTrailing (drops : Char → Bool) : Text → Text
  | [] => []
  | char :: rest =>
      match trimTrailing drops rest with
      | [] => if drops char then [] else [char]
      | kept => char :: kept

def trim (text : Text) : Text := trimTrailing isBlank (trimLeading isBlank text)

example : trim ['\t', ' ', 'a', ' ', 'b', '\r', '\n'] = ['a', ' ', 'b'] := rfl

def isPadding (char : Char) : Bool := char == ' ' || char == '\t'

def trimPadding (text : Text) : Text := trimTrailing isPadding text

example : trimPadding ['a', '\n', ' ', '\t'] = ['a', '\n'] := rfl

end Text

end Uncomment
