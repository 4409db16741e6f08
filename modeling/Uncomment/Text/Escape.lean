import Uncomment.Text.Utf8

namespace Uncomment

namespace Escape

/-! Texts without the sequences that control a terminal, and without control characters.
The blank ones (tab, line feed, form feed, carriage return) are part of the text. -/

/-- What is being read. A `command` starts with `[` after an escape character and ends
with a letter or mark; a `title` starts with `]` and ends with a bell; a `string` starts
with one of `X^_`. A string for a device starts with `P` and has a `header` first, which
may hold `parameters` and marks. The next escape character ends all of them. -/
inductive Mode
  | plain
  | escape
  | intermediate
  | command
  | title
  | header
  | parameters
  | marks
  | string
deriving DecidableEq, Repr

/-- A sequence in which a blank character has occurred is `paused`: what follows is text
up to the next control character, which goes on with the sequence. -/
structure State where
  mode : Mode := .plain
  paused : Bool := false
deriving DecidableEq, Repr

def isAscii (char : Char) : Bool := char.toNat < 0x80

def isGraphic (char : Char) : Bool := 0x20 ≤ char.toNat && char.toNat < 0x7F

def isBlankControl (char : Char) : Bool :=
  char = '\t' || char = '\n' || char = '\x0C' || char = '\r'

def cancels (char : Char) : Bool := char = '\x18' || char = '\x1A'

def afterEscape (char : Char) : Mode :=
  if char = '[' then .command
  else if char = ']' then .title
  else if char = 'P' then .header
  else if "X^_".toList.contains char then .string
  else if char.toNat < 0x30 then .intermediate
  else .plain

def Mode.afterHeader (mode : Mode) (char : Char) : Mode :=
  if char.toNat < 0x30 then .marks
  else if mode = .header && char.toNat < 0x40 then .parameters
  else if mode = .parameters && char.toNat < 0x3C then .parameters
  else .string

def stringEnd : UInt8 := 0x9C

def Mode.next (mode : Mode) (char : Char) : Mode :=
  match mode with
  | .plain => .plain
  | .escape => if isAscii char then afterEscape char else mode
  | .intermediate => if isAscii char && 0x30 ≤ char.toNat then .plain else mode
  | .command => if isAscii char && 0x40 ≤ char.toNat then .plain else mode
  | .title => mode
  | .header | .parameters | .marks => if isAscii char then mode.afterHeader char else mode
  | .string => if (Utf8.encode [char]).contains stringEnd then .plain else mode

def Mode.letsBlanks : Mode → Bool
  | .plain | .escape | .intermediate | .command => true
  | .title | .header | .parameters | .marks | .string => false

def State.next (state : State) (char : Char) : State × Bool :=
  if char = '\x1B' then (⟨.escape, false⟩, false)
  else if cancels char then ({}, false)
  else if state.paused && !isAscii char then ({}, true)
  else if state.paused && (isGraphic char || isBlankControl char) then (state, true)
  else if isBlankControl char && state.mode.letsBlanks then
    ({ state with paused := state.mode != .plain }, true)
  else if isGraphic char || !isAscii char then
    (⟨state.mode.next char, false⟩, state.mode = .plain)
  else if char = '\x07' && state.mode = .title then ({}, false)
  else ({ state with paused := false }, false)

def stripFrom (state : State) : Text → Text
  | [] => []
  | char :: rest =>
      let (state, shown) := state.next char
      if shown then char :: stripFrom state rest else stripFrom state rest

def strip (text : Text) : Text := stripFrom {} text

example : strip "a\x1B[1;31mb\x1B[0mc".toList = "abc".toList := by decide +kernel

/-- A character that is spelled with the byte ends a string, but not its header. -/
example : strip "\x1BPxܜZ".toList = "Z".toList ∧ strip "\x1BPܜZ".toList = [] := by
  decide +kernel

/-- The line feed is shown, and the sequence goes on after the control character. -/
example : strip "\x1B[3\n1\x01mx".toList = "\n1x".toList := by decide +kernel

end Escape

end Uncomment
