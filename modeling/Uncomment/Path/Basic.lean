import Uncomment.Text.Utf8

namespace Uncomment

/-! Paths as they are spelled, and the components they stand for. -/

/-- A path is spelled with any bytes; `/` separates its components. -/
abbrev Path := Bytes

namespace Path

def separator : UInt8 := 0x2F

def dot : UInt8 := 0x2E

/-! ## Components -/

inductive Component
  | root
  | here
  | parent
  | name (name : Bytes)
deriving DecidableEq, Repr

/-- A stretch between two separators, with the component it stands for, if any. -/
structure Segment where
  spelling : Bytes
  component : Option Component
deriving DecidableEq, Repr

def Segment.inner (spelling : Bytes) : Segment where
  spelling := spelling
  component :=
    -- Separators may be repeated or stand at the end.
    if spelling = [] ∨ spelling = [dot] then none
    else if spelling = [dot, dot] then some .parent
    else some (.name spelling)

def Segment.leading (spelling : Bytes) : Segment :=
  if spelling = [dot] then ⟨spelling, some .here⟩ else .inner spelling

def segments (path : Path) : List Segment :=
  match path.splitOn separator with
  | [] => []
  | first :: rest =>
      if path.head? = some separator then ⟨first, some .root⟩ :: rest.map .inner
      else .leading first :: rest.map .inner

def components (path : Path) : List Component :=
  (segments path).filterMap Segment.component

example : components (Utf8.encode "/a//./..".toList) =
    [.root, .name [0x61], .parent] := by decide +kernel

def spell : List Segment → Path
  | [⟨_, some .root⟩] => [separator]
  | segments => [separator].intercalate (segments.map Segment.spelling)

def child (directory : Path) (name : Bytes) : Path :=
  if directory.getLast? = some separator then directory ++ name
  else directory ++ separator :: name

def join (directory relative : Path) : Path :=
  if directory = [] then relative else child directory relative

/-! ## Names -/

def fileName? (path : Path) : Option Bytes :=
  match (components path).getLast? with
  | some (.name name) => some name
  | _ => none

/-- What follows the last dot of the file name. A dot that leads the name starts no
extension. -/
def extension? (path : Path) : Option Bytes := do
  let name ← fileName? path
  let (ending, start) := name.reverse.span (· != dot)
  if start.length ≤ 1 then none else return ending.reverse

example : extension? (Utf8.encode "a/b.tar.gz/".toList) = some (Utf8.encode "gz".toList) := by
  decide +kernel

example : extension? (Utf8.encode ".profile".toList) = none := by decide +kernel

example : extension? (Utf8.encode "a.".toList) = some [] := by decide +kernel

end Path

end Uncomment
