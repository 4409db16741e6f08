import Uncomment.Ignore.Contents
import Uncomment.Tree.Resolve

namespace Uncomment

namespace Ignore

/-! Where the excludes of a work tree are kept: in its `.git` directory, or, where `.git` is
a file, in a place that is found through that file. Paths in such files are seen from the
directory that the program is started in. -/

def firstLine (path : Path) : Except OsError Bytes → Except Fault (Option Text)
  | .error error => .error (.file path (.unreadable error))
  | .ok [] => .ok none
  | .ok content =>
      match (lines content).head?.map Utf8.decode? with
      | some (some line) => .ok (some line)
      | some none => .error (.file path .notText)
      | none => .ok none

def pointsTo? (line : Text) : Option Path :=
  let mark := "gitdir: ".toList
  if mark.isPrefixOf line then some (Utf8.encode (line.drop mark.length)) else none

def sharedMark (directory : Path) : Path :=
  Path.join directory (Utf8.encode "commondir".toList)

def sharedFrom (directory : Path) (line : Text) : Path :=
  -- A path that starts with a dot is seen from the directory that holds the file.
  if line.head? = some '.' then Path.join directory (Utf8.encode line) else Utf8.encode line

def shared? (root : Node) (current : Location) (line : Text) : Except Fault (Option Path) :=
  match pointsTo? line with
  | none => .ok none
  | some directory =>
      match Tree.content? root current (sharedMark directory) with
      | none => .ok none
      | some content =>
          (firstLine (sharedMark directory) content).map (·.map (sharedFrom directory))

def excludesIn (directory : Path) : Path :=
  Path.join directory (Utf8.encode "info/exclude".toList)

/-- The file with the excludes of the work tree at a place, if one is to be looked for. -/
def excludes? (root : Node) (current place : Location) : Except Fault (Option Path) :=
  let mark := Location.path (place ++ [Utf8.encode ".git".toList])
  match (Tree.locate root current mark).map (Tree.Trail.node root) with
  | .ok (.file file) => do
      match ← firstLine mark file.content with
      | none => return none
      | some line => return (← shared? root current line).map excludesIn
  | _ => .ok (some (excludesIn mark))

end Ignore

end Uncomment
