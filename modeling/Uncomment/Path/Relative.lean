import Uncomment.Path.Basic

namespace Uncomment

namespace Path

/-! What is left of a path below a root, and how it is shown. -/

def dropComponents : Nat → List Segment → List Segment
  | 0, segments => segments
  | _ + 1, [] => []
  | count + 1, segment :: rest =>
      match segment.component with
      | some _ => dropComponents count rest
      | none => dropComponents (count + 1) rest

def dropTrailing (segments : List Segment) : List Segment :=
  (segments.reverse.dropWhile (·.component.isNone)).reverse

/-- The spelling of the path below `root`, if the components of `root` start it. The
rest keeps its inner spelling, without separators or dots at its ends. -/
def below? (root path : Path) : Option Path :=
  let count := (components root).length
  if (components root).isPrefixOf (components path) then
    let rest := dropComponents count (segments path)
    let rest := if count = 0 then rest else rest.dropWhile (·.component.isNone)
    some (spell (dropTrailing rest))
  else
    none

example :
    below? (Utf8.encode "a/".toList) (Utf8.encode "a//./b//c/".toList) =
      some (Utf8.encode "b//c".toList) := by decide +kernel

/-- Parent steps are not resolved. -/
example : below? (Utf8.encode "a".toList) (Utf8.encode "b/../a/c".toList) = none := by
  decide +kernel

def slashed (path : Path) : Text :=
  (Utf8.decodeLossy path).map fun char => if char = '\\' then '/' else char

/-- How a path is shown to the user: relative to the root it was found under. The
root itself is shown by its file name. -/
def display (root path : Path) : Text :=
  match (below? root path).getD path with
  | [] => Utf8.decodeLossy ((fileName? path).getD path)
  | rest => slashed rest

end Path

end Uncomment
