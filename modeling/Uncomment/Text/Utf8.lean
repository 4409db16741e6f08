import Uncomment.Text.Basic

namespace Uncomment

abbrev Bytes := List UInt8

namespace Utf8

/-! ## Encoding -/

def encode (text : Text) : Bytes := text.flatMap String.utf8EncodeChar

/-! ## Decoding -/

/-- What the first byte of a longer sequence announces: the high bits of the code
point, the range of the second byte, and how many bytes follow that one. The range
rules out overlong forms, surrogates and code points past the last. -/
structure Lead where
  payload : Nat
  low : UInt8
  high : UInt8
  more : Nat

def Lead.of? (byte : UInt8) : Option Lead :=
  if byte < 0xC2 then none
  else if byte < 0xE0 then some ⟨byte.toNat - 0xC0, 0x80, 0xBF, 0⟩
  else if byte == 0xE0 then some ⟨0, 0xA0, 0xBF, 1⟩
  else if byte == 0xED then some ⟨0xD, 0x80, 0x9F, 1⟩
  else if byte < 0xF0 then some ⟨byte.toNat - 0xE0, 0x80, 0xBF, 1⟩
  else if byte == 0xF0 then some ⟨0, 0x90, 0xBF, 2⟩
  else if byte < 0xF4 then some ⟨byte.toNat - 0xF0, 0x80, 0xBF, 2⟩
  else if byte == 0xF4 then some ⟨4, 0x80, 0x8F, 2⟩
  else none

def extend (payload : Nat) (byte : UInt8) : Nat := payload * 64 + byte.toNat % 64

def finish (payload : Nat) : Nat → Bytes → Option Char × Bytes
  | 0, rest => (some (Char.ofNat payload), rest)
  | _ + 1, [] => (none, [])
  | more + 1, byte :: rest =>
      -- A byte that does not go on with the sequence is left to be read again.
      if 0x80 ≤ byte && byte ≤ 0xBF then finish (extend payload byte) more rest
      else (none, byte :: rest)

def next (first : UInt8) (rest : Bytes) : Option Char × Bytes :=
  if first < 0x80 then
    (some (Char.ofNat first.toNat), rest)
  else
    match Lead.of? first, rest with
    | some lead, second :: others =>
        if lead.low ≤ second && second ≤ lead.high then
          finish (extend lead.payload second) lead.more others
        else
          (none, rest)
    | _, _ => (none, rest)

theorem finish_length_le (payload more : Nat) (bytes : Bytes) :
    (finish payload more bytes).2.length ≤ bytes.length := by
  induction bytes generalizing payload more with
  | nil => cases more <;> simp [finish]
  | cons byte rest induction =>
      cases more with
      | zero => simp [finish]
      | succ more =>
          simp only [finish]
          split
          · exact Nat.le_succ_of_le (induction _ _)
          · simp

theorem next_length_le (first : UInt8) (rest : Bytes) :
    (next first rest).2.length ≤ rest.length := by
  unfold next
  split
  · simp
  · split
    · split
      · exact Nat.le_succ_of_le (finish_length_le _ _ _)
      · simp
    · simp

/-- The characters of a byte string in order, with `none` for each stretch that
belongs to none. -/
def decode : Bytes → List (Option Char)
  | [] => []
  | first :: rest => (next first rest).1 :: decode (next first rest).2
termination_by bytes => bytes.length
decreasing_by
  exact Nat.lt_succ_of_le (next_length_le first rest)

def decode? (bytes : Bytes) : Option Text := (decode bytes).mapM id

def decodeLossy (bytes : Bytes) : Text :=
  (decode bytes).map fun char => char.getD '\uFFFD'

/-- The first two bytes start a sequence of three, so they count as one stretch. -/
example : decodeLossy [0xE2, 0x82, 0x61] = ['\uFFFD', 'a'] := by decide +kernel

/-- A surrogate: its second byte is out of range, so each byte stands alone. -/
example : decodeLossy [0xED, 0xA0, 0x80] = ['\uFFFD', '\uFFFD', '\uFFFD'] := by
  decide +kernel

end Utf8

end Uncomment
