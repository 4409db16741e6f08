import Uncomment.Glob.Basic

namespace Uncomment

namespace Glob

/-! ## Character classes -/

structure ClassState where
  ranges : List Range
  inRange : Bool

namespace ClassState

def add (state : ClassState) (char : Char) : Except Error ClassState :=
  -- The end of a range may be the start of another: `a-c-e` is one range.
  match state.inRange, state.ranges with
  | true, range :: rest =>
      if char < range.low then .error (.emptyRange ⟨range.low, char⟩)
      else .ok ⟨⟨range.low, char⟩ :: rest, false⟩
  | _, ranges => .ok ⟨⟨char, char⟩ :: ranges, false⟩

def addDash (state : ClassState) : Except Error ClassState :=
  if state.inRange || state.ranges.isEmpty then state.add '-'
  else .ok { state with inRange := true }

def take (state : ClassState) (char : Char) : Except Error ClassState :=
  if char = '-' then state.addDash else state.add char

def finish (state : ClassState) : List Range :=
  -- A dash before the closing bracket stands for itself.
  let ranges := if state.inRange then ⟨'-', '-'⟩ :: state.ranges else state.ranges
  ranges.reverse

end ClassState

def readClass (state : ClassState) : Text → Except Error (List Range × Text)
  | [] => .error .unclosedClass
  | char :: rest =>
      -- A closing bracket that comes first belongs to the class.
      if char = ']' ∧ state.ranges ≠ [] then .ok (state.finish, rest)
      else
        match state.take char with
        | .error error => .error error
        | .ok state => readClass state rest

theorem readClass_length {state : ClassState} {text rest : Text} {ranges : List Range}
    (read : readClass state text = .ok (ranges, rest)) :
    rest.length < text.length := by
  induction text generalizing state with
  | nil => cases read
  | cons char tail induction =>
      simp only [readClass] at read
      split at read
      · cases read
        simp
      · split at read
        · cases read
        · exact Nat.lt_succ_of_lt (induction read)

def classStart : Text → Bool × Text
  | '!' :: rest | '^' :: rest => (true, rest)
  | rest => (false, rest)

theorem classStart_length (text : Text) :
    (classStart text).2.length ≤ text.length := by
  unfold classStart
  split <;> simp

/-! ## Groups and stars -/

structure OpenGroup where
  branches : List (List Token)
  before : List Token

/-- The parts read so far in the current branch, last one first, and the groups
around it, innermost first. `plainBrackets` tells that no further class is looked for,
since a bracket before had nothing to close it. -/
structure State where
  branch : List Token := []
  groups : List OpenGroup := []
  plainBrackets : Bool := false

namespace State

def push (state : State) (token : Token) : State :=
  { state with branch := token :: state.branch }

def inGroup (state : State) : Bool := !state.groups.isEmpty

def openGroup (state : State) : State :=
  { state with branch := [], groups := ⟨[], state.branch⟩ :: state.groups }

def pushBracket (state : State) : State :=
  { state.push (.literal '[') with plainBrackets := true }

def comma (state : State) : State :=
  match state.groups with
  | [] => state.push (.literal ',')
  | group :: rest =>
      let group := { group with branches := state.branch.reverse :: group.branches }
      { state with branch := [], groups := group :: rest }

def closeGroup (state : State) : Except Error State :=
  match state.groups with
  | [] => .error .unopenedGroup
  | group :: rest =>
      let branches := (state.branch.reverse :: group.branches).reverse
      .ok { state with branch := .group branches :: group.before, groups := rest }

def finish (state : State) : Except Error Glob :=
  match state.groups with
  | [] => .ok ⟨state.branch.reverse⟩
  | _ :: _ => .error .unclosedGroup

def replaceLast (state : State) (token : Token) : State :=
  match state.branch with
  -- Two stars in a row of components count once.
  | .leadingDirs :: rest => { state with branch := .leadingDirs :: rest }
  | .trailingDirs :: rest => { state with branch := .trailingDirs :: rest }
  | _ :: rest => { state with branch := token :: rest }
  | [] => { state with branch := [token] }

/-- Reads two stars between the given characters as whole components, if they are
that, and tells whether the separator after them belongs to them. -/
def directories? (state : State) (previous following : Option Char) :
    Option (State × Bool) :=
  if state.branch.isEmpty then
    match following with
    | none => some (state.push .leadingDirs, false)
    | some '/' => some (state.push .leadingDirs, true)
    | _ => none
  else if previous = some '/' ∨
      (state.inGroup ∧ (previous = some ',' ∨ previous = some '{')) then
    match following with
    | none => some (state.replaceLast .trailingDirs, false)
    | some '/' => some (state.replaceLast .innerDirs, true)
    | some char =>
        if state.inGroup ∧ (char = ',' ∨ char = '}') then
          some (state.replaceLast .trailingDirs, false)
        else
          none
  else
    none

def doubleStar (state : State) (previous : Option Char) (rest : Text) :
    State × Char × Text :=
  match state.directories? previous rest.head? with
  | some (state, true) => (state, '/', rest.tail)
  | some (state, false) => (state, '*', rest)
  | none => ((state.push .anyRun).push .anyRun, '*', rest)

def bracket (state : State) (dialect : Dialect) (rest : Text) :
    Except Error (State × Char × Text) :=
  if state.plainBrackets then
    .ok (state.pushBracket, '[', rest)
  else
    match readClass ⟨[], false⟩ (classStart rest).2 with
    | .ok (ranges, rest') => .ok (state.push (.oneOf (classStart rest).1 ranges), ']', rest')
    | .error error =>
        if error = .unclosedClass ∧ dialect.bareBracket then
          .ok (state.pushBracket, '[', rest)
        else
          .error error

def read (state : State) (dialect : Dialect) (previous : Option Char) (char : Char)
    (rest : Text) : Except Error (State × Char × Text) :=
  match char with
  | '*' =>
      match rest with
      | '*' :: rest => .ok (state.doubleStar previous rest)
      | _ => .ok (state.push .anyRun, char, rest)
  | '\\' =>
      match rest with
      | [] => .error .danglingEscape
      | escaped :: rest => .ok (state.push (.literal escaped), escaped, rest)
  | '[' => state.bracket dialect rest
  | '?' => .ok (state.push .anyByte, char, rest)
  | '{' => .ok (state.openGroup, char, rest)
  | '}' => state.closeGroup.map fun state => (state, char, rest)
  | ',' => .ok (state.comma, char, rest)
  | _ => .ok (state.push (.literal char), char, rest)

theorem doubleStar_length_le (state : State) (previous : Option Char) (rest : Text) :
    (state.doubleStar previous rest).2.2.length ≤ rest.length := by
  unfold doubleStar
  split <;> simp

theorem bracket_length_le {state after : State} {dialect : Dialect} {last : Char}
    {rest rest' : Text} (read : state.bracket dialect rest = .ok (after, last, rest')) :
    rest'.length ≤ rest.length := by
  unfold bracket at read
  split at read
  · cases read
    exact Nat.le_refl _
  · split at read
    · rename_i reading
      have shorter := readClass_length reading
      have start := classStart_length rest
      cases read
      omega
    · split at read
      · cases read
        exact Nat.le_refl _
      · cases read

theorem read_length_le {state after : State} {dialect : Dialect} {previous : Option Char}
    {char last : Char} {rest rest' : Text}
    (read : state.read dialect previous char rest = .ok (after, last, rest')) :
    rest'.length ≤ rest.length := by
  unfold State.read at read
  split at read
  · split at read
    · rename_i rest
      have shorter := state.doubleStar_length_le previous rest
      injection read with equal
      rw [equal] at shorter
      exact Nat.le_succ_of_le shorter
    · cases read
      exact Nat.le_refl _
  · split at read
    · cases read
    · cases read
      exact Nat.le_succ _
  · exact bracket_length_le read
  · cases read
    exact Nat.le_refl _
  · cases read
    exact Nat.le_refl _
  · cases closed : state.closeGroup with
    | error error =>
        rw [closed] at read
        cases read
    | ok closed' =>
        rw [closed] at read
        cases read
        exact Nat.le_refl _
  · cases read
    exact Nat.le_refl _
  · cases read
    exact Nat.le_refl _

end State

/-! ## Globs -/

def parseFrom (dialect : Dialect) (previous : Option Char) (state : State) :
    Text → Except Error State
  | [] => .ok state
  | char :: rest =>
      match _read : state.read dialect previous char rest with
      | .error error => .error error
      | .ok (state, last, rest') => parseFrom dialect (some last) state rest'
termination_by text => text.length
decreasing_by
  exact Nat.lt_succ_of_le (State.read_length_le _read)

def parse (dialect : Dialect) (text : Text) : Except Error Glob := do
  (← parseFrom dialect none {} text).finish

example : parse ⟨false, true⟩ "[a".toList = .ok ⟨[.literal '[', .literal 'a']⟩ := by cbv

example : parse ⟨true, false⟩ "[a".toList = .error .unclosedClass := by cbv

/-- The range is read before the end of the text is. -/
example : parse ⟨false, true⟩ "[z-a".toList = .error (.emptyRange ⟨'z', 'a'⟩) := by cbv

end Glob

end Uncomment
