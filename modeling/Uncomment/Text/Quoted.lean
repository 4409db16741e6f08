import Uncomment.Text.Printable
import Uncomment.Text.Utf8

namespace Uncomment

namespace Quoted

/-! The text in some bytes, in double quotes as messages show it. -/

def hexDigits (code : Nat) : Text := Nat.toDigits 16 code

def writeChar (char : Char) : Text :=
  match char with
  | '\x00' => ['\\', '0']
  | '\t' => ['\\', 't']
  | '\n' => ['\\', 'n']
  | '\r' => ['\\', 'r']
  | '"' => ['\\', '"']
  | '\\' => ['\\', '\\']
  | _ =>
      if Text.isPrintable char then [char]
      else ['\\', 'u', '\x7b'] ++ hexDigits char.toNat ++ ['\x7d']

def writeByte (byte : UInt8) : Text :=
  ['\\', 'x'] ++ (hexDigits byte.toNat).map Char.toUpper

/-- What stands between the quotes. The bytes of a stretch that is no character are shown
one by one, by their numbers. -/
def writeAll : Bytes → Text
  | [] => []
  | first :: rest =>
      let others := (Utf8.next first rest).2
      let shown := match (Utf8.next first rest).1 with
        | some char => writeChar char
        | none => ((first :: rest).take (rest.length + 1 - others.length)).flatMap writeByte
      shown ++ writeAll others
termination_by bytes => bytes.length
decreasing_by
  exact Nat.lt_succ_of_le (Utf8.next_length_le first rest)

def write (bytes : Bytes) : Text := '"' :: writeAll bytes ++ ['"']

/-- A backslash, and two bytes that belong to no character. -/
example : write [0x5C, 0xE2, 0x82] = "\"\\\\\\xE2\\x82\"".toList := by decide +kernel

end Quoted

end Uncomment
