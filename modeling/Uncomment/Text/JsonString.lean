import Uncomment.Text.Basic

namespace Uncomment

namespace JsonString

/-! Texts as JSON strings. Only what JSON requires is escaped. -/

def hexDigit (value : Nat) : Char := Nat.digitChar (value % 16)

def writeChar (char : Char) : Text :=
  match char with
  | '"' => ['\\', '"']
  | '\\' => ['\\', '\\']
  | '\x08' => ['\\', 'b']
  | '\x0C' => ['\\', 'f']
  | '\n' => ['\\', 'n']
  | '\r' => ['\\', 'r']
  | '\t' => ['\\', 't']
  | _ =>
      if char.toNat < 0x20 then
        ['\\', 'u', '0', '0', hexDigit (char.toNat / 16), hexDigit char.toNat]
      else
        [char]

def write (text : Text) : Text := '"' :: text.flatMap writeChar ++ ['"']

example : write ['a', '"', '\n', '\x1B', 'é'] = "\"a\\\"\\n\\u001bé\"".toList := rfl

end JsonString

end Uncomment
