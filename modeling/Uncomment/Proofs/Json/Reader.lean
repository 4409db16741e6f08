import Uncomment.Text.Basic
import Mathlib.Data.List.TakeWhile

namespace Uncomment

namespace Json

/-! JSON texts and the values they stand for. A reader takes what it reads from the front of a
text and hands on the rest, which is shorter: with that the readers that call one another
come to an end. -/

/-- A number is kept as it is spelled, and the members of an object in their order. -/
inductive Value
  | null
  | bool (value : Bool)
  | number (literal : Text)
  | string (text : Text)
  | array (elements : List Value)
  | object (members : List (Text × Value))

def isSpace (char : Char) : Bool :=
  char == ' ' || char == '\t' || char == '\n' || char == '\r'

def skip (text : Text) : Text := text.dropWhile isSpace

theorem length_skip_le (text : Text) : (skip text).length ≤ text.length :=
  (List.dropWhile_suffix isSpace).length_le

structure Read (α : Type) (text : Text) where
  value : α
  rest : Text
  shorter : rest.length < text.length

namespace Read

variable {α β : Type} {text : Text}

def map (transform : α → β) (read : Read α text) : Read β text where
  value := transform read.value
  rest := read.rest
  shorter := read.shorter

def skip (read : Read α text) : Read α text where
  value := read.value
  rest := Json.skip read.rest
  shorter := (length_skip_le read.rest).trans_lt read.shorter

def within {longer : Text} (read : Read α text) (fits : text.length ≤ longer.length) :
    Read α longer where
  value := read.value
  rest := read.rest
  shorter := read.shorter.trans_le fits

end Read

/-! ## Strings -/

def hexDigit? (char : Char) : Option Nat :=
  if char.isDigit then some (char.toNat - '0'.toNat)
  else if 'a' ≤ char ∧ char ≤ 'f' then some (char.toNat - 'a'.toNat + 10)
  else if 'A' ≤ char ∧ char ≤ 'F' then some (char.toNat - 'A'.toNat + 10)
  else none

def codeUnit? : (text : Text) → Option (Read Nat text)
  | first :: second :: third :: fourth :: rest => do
      let first ← hexDigit? first
      let second ← hexDigit? second
      let third ← hexDigit? third
      let fourth ← hexDigit? fourth
      return ⟨((first * 16 + second) * 16 + third) * 16 + fourth, rest, by simp; omega⟩
  | _ => none

def unicode? (text : Text) : Option (Read Char text) := do
  let unit ← codeUnit? text
  if unit.value < 0xD800 ∨ 0xE000 ≤ unit.value then
    return unit.map Char.ofNat
  else if 0xDC00 ≤ unit.value then
    none
  else
    match unit with
    | ⟨high, '\\' :: 'u' :: rest, shorter⟩ =>
        let low ← codeUnit? rest
        if 0xDC00 ≤ low.value ∧ low.value < 0xE000 then
          let char := Char.ofNat (0x10000 + (high - 0xD800) * 0x400 + (low.value - 0xDC00))
          return (low.map fun _ => char).within (by simp at shorter; omega)
        else
          none
    | _ => none

def shortEscape? : Char → Option Char
  | '"' => some '"'
  | '\\' => some '\\'
  | '/' => some '/'
  | 'b' => some '\x08'
  | 'f' => some '\x0C'
  | 'n' => some '\n'
  | 'r' => some '\r'
  | 't' => some '\t'
  | _ => none

def escape? : (text : Text) → Option (Read Char text)
  | [] => none
  | 'u' :: rest => (unicode? rest).map (·.within (Nat.le_succ _))
  | char :: rest => (shortEscape? char).map fun char => ⟨char, rest, Nat.lt_succ_self _⟩

def characters? : (text : Text) → Option (Read Text text)
  | [] => none
  | '"' :: rest => some ⟨[], rest, Nat.lt_succ_self _⟩
  | '\\' :: rest => do
      let char ← escape? rest
      let others ← characters? char.rest
      return (others.map (char.value :: ·)).within (char.shorter.le.trans (Nat.le_succ _))
  | char :: rest =>
      if char.toNat < 0x20 then
        none
      else
        (characters? rest).map fun others =>
          (others.map (char :: ·)).within (Nat.le_succ _)
termination_by text => text.length
decreasing_by
  · exact char.shorter.trans (Nat.lt_succ_self _)
  · exact Nat.lt_succ_self _

/-! ## Numbers -/

def isNumberChar (char : Char) : Bool :=
  char.isDigit || char == '-' || char == '+' || char == '.' || char == 'e' || char == 'E'

def isDigits (text : Text) : Bool := !text.isEmpty && text.all Char.isDigit

def isWhole (text : Text) : Bool :=
  isDigits text && (text == ['0'] || text.head? != some '0')

def isFraction : Text → Bool
  | [] => true
  | '.' :: digits => isDigits digits
  | _ => false

def isExponent : Text → Bool
  | [] => true
  | mark :: '+' :: digits | mark :: '-' :: digits | mark :: digits =>
      (mark == 'e' || mark == 'E') && isDigits digits

def isNumeral (literal : Text) : Bool :=
  let unsigned := if literal.head? = some '-' then literal.tail else literal
  let (whole, decimals) := unsigned.span Char.isDigit
  let (fraction, exponent) := decimals.span fun char => char.isDigit || char == '.'
  isWhole whole && isFraction fraction && isExponent exponent

theorem length_dropWhile_lt {text : Text} (numeral : isNumeral (text.takeWhile isNumberChar)) :
    (text.dropWhile isNumberChar).length < text.length := by
  have lengths := congrArg List.length
    (List.takeWhile_append_dropWhile (p := isNumberChar) (l := text))
  rw [List.length_append] at lengths
  cases literal : text.takeWhile isNumberChar with
  | nil =>
      rw [literal] at numeral
      cases numeral
  | cons char others =>
      rw [literal, List.length_cons] at lengths
      omega

def number? (text : Text) : Option (Read Value text) :=
  if numeral : isNumeral (text.takeWhile isNumberChar) then
    some ⟨.number (text.takeWhile isNumberChar), text.dropWhile isNumberChar,
      length_dropWhile_lt numeral⟩
  else
    none

/-! ## Values -/

mutual
def value? : (text : Text) → Option (Read Value text)
  | '"' :: rest =>
      (characters? rest).map fun read => (read.map .string).skip.within (Nat.le_succ _)
  | '[' :: rest =>
      (elements? (skip rest)).map fun read =>
        (read.map .array).within ((length_skip_le rest).trans (Nat.le_succ _))
  | '\x7b' :: rest =>
      (members? (skip rest)).map fun read =>
        (read.map .object).within ((length_skip_le rest).trans (Nat.le_succ _))
  | 't' :: 'r' :: 'u' :: 'e' :: rest =>
      some (Read.skip ⟨.bool true, rest, by simp; omega⟩)
  | 'f' :: 'a' :: 'l' :: 's' :: 'e' :: rest =>
      some (Read.skip ⟨.bool false, rest, by simp; omega⟩)
  | 'n' :: 'u' :: 'l' :: 'l' :: rest =>
      some (Read.skip ⟨.null, rest, by simp; omega⟩)
  | text => (number? text).map Read.skip
termination_by text => (text.length, 0)
decreasing_by
  all_goals
    have skipped := length_skip_le rest
    simp only [List.length_cons, Prod.lex_def]
    omega

def elements? : (text : Text) → Option (Read (List Value) text)
  | ']' :: rest => some (Read.skip ⟨[], rest, Nat.lt_succ_self _⟩)
  | text => someElements? text
termination_by text => (text.length, 2)
decreasing_by
  simp [Prod.lex_def]

def someElements? (text : Text) : Option (Read (List Value) text) :=
  match value? text with
  | some ⟨value, ',' :: rest, shorter⟩ =>
      (someElements? (skip rest)).map fun read =>
        (read.map (value :: ·)).within
          ((length_skip_le rest).trans ((Nat.le_succ _).trans shorter.le))
  | some ⟨value, ']' :: rest, shorter⟩ =>
      some (Read.skip ⟨[value], rest, (Nat.lt_succ_self _).trans shorter⟩)
  | _ => none
termination_by (text.length, 1)
decreasing_by
  · simp [Prod.lex_def]
  · have skipped := length_skip_le rest
    simp only [List.length_cons] at shorter
    simp only [Prod.lex_def]
    omega

def members? : (text : Text) → Option (Read (List (Text × Value)) text)
  | '\x7d' :: rest => some (Read.skip ⟨[], rest, Nat.lt_succ_self _⟩)
  | text => someMembers? text
termination_by text => (text.length, 2)
decreasing_by
  simp [Prod.lex_def]

def someMembers? : (text : Text) → Option (Read (List (Text × Value)) text)
  | '"' :: text =>
      match (characters? text).map Read.skip with
      | some ⟨name, ':' :: after, named⟩ =>
          match value? (skip after) with
          | some ⟨value, ',' :: rest, shorter⟩ =>
              (someMembers? (skip rest)).map fun read =>
                (read.map ((name, value) :: ·)).within (by
                  have afterSkipped := length_skip_le after
                  have restSkipped := length_skip_le rest
                  simp only [List.length_cons] at named shorter ⊢
                  omega)
          | some ⟨value, '\x7d' :: rest, shorter⟩ =>
              some (Read.skip ⟨[(name, value)], rest, by
                have afterSkipped := length_skip_le after
                simp only [List.length_cons] at named shorter ⊢
                omega⟩)
          | _ => none
      | _ => none
  | _ => none
termination_by text => (text.length, 1)
decreasing_by
  · have afterSkipped := length_skip_le after
    simp only [List.length_cons] at named
    simp only [List.length_cons, Prod.lex_def]
    omega
  · have afterSkipped := length_skip_le after
    have restSkipped := length_skip_le rest
    simp only [List.length_cons] at named shorter
    simp only [List.length_cons, Prod.lex_def]
    omega
end

/-- The value of a text, which may have white space around it. -/
def read? (text : Text) : Option Value :=
  match value? (skip text) with
  | some ⟨value, [], _⟩ => some value
  | _ => none

example : read? " [true, \"\\u00e9\\ud83d\\ude00\"]\n".toList =
    some (.array [.bool true, .string ['é', '😀']]) := by cbv

/-- No comma stands after the last element. -/
example : read? "[true,]".toList = none := by cbv

end Json

end Uncomment
