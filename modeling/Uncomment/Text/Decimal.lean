import Uncomment.Text.Basic

namespace Uncomment

namespace Decimal

/-! Natural numbers in decimal notation. -/

def write (value : Nat) : Text := Nat.toDigits 10 value

inductive ReadError
  | empty
  | badDigit
  | tooLarge
deriving DecidableEq, Repr

namespace ReadError

def message : ReadError → Text
  | empty => "cannot parse integer from empty string".toList
  | badDigit => "invalid digit found in string".toList
  | tooLarge => "number too large to fit in target type".toList

end ReadError

def readDigits (limit : Nat) (value : Nat) : Text → Except ReadError Nat
  | [] => .ok value
  | char :: rest =>
      if char.isDigit then
        let value := value * 10 + (char.toNat - '0'.toNat)
        if value < limit then readDigits limit value rest else .error .tooLarge
      else
        .error .badDigit

/-- Reads a number below `limit`. A plus sign may lead it; leading zeros are allowed. -/
def read (limit : Nat) : Text → Except ReadError Nat
  | [] => .error .empty
  | ['+'] => .error .badDigit
  | '+' :: digits => readDigits limit 0 digits
  | digits => readDigits limit 0 digits

example : read 256 "+0255".toList = .ok 255 := rfl

/-- The value is past the limit before the stray character is reached. -/
example : read 256 "999x".toList = .error .tooLarge := rfl

end Decimal

end Uncomment
