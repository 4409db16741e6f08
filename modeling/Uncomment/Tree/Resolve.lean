import Uncomment.Tree.Basic

namespace Uncomment

namespace Tree

/-! Following a path through the tree. -/

/-- The nodes passed on the way from the root to a place, the place itself first. None of
them is a link or lost. -/
abbrev Trail := List (Bytes × Node)

namespace Trail

def node (root : Node) : Trail → Node
  | [] => root
  | (_, node) :: _ => node

def location (trail : Trail) : Location := (trail.map Prod.fst).reverse

end Trail

def linkLimit : Nat := 40

def nameLimit : Nat := 255

/-- How many bytes a path may have that is looked at as a whole. -/
def pathLimit : Nat := 4095

structure Arrival where
  trail : Trail
  links : Nat

/-- Where a path leads without following a link: to its end, or to a link, which is followed
from the directory that holds it. -/
inductive Stop
  | arrived (trail : Trail)
  | link (target : Path) (trail : Trail) (rest : List Bytes)

/-- Takes the stretches of a path from the end of a trail on. Each of them asks for a
directory, even one that stands for nothing: a separator after the name of a file is an
error. -/
def advance (root : Node) (trail : Trail) : List Bytes → Except OsError Stop
  | [] => .ok (.arrived trail)
  | name :: rest =>
      if !(trail.node root).isDirectory then
        .error .notDirectory
      else if name = [] ∨ name = [Path.dot] then
        advance root trail rest
      else if name = [Path.dot, Path.dot] then
        advance root trail.tail rest
      else if nameLimit < name.length then
        .error .nameTooLong
      else
        match (trail.node root).child? name with
        | none => .error .notFound
        | some (.lost error) => .error error
        | some (.link target) => .ok (.link target trail rest)
        | some node => advance root ((name, node) :: trail) rest

def resolve (root : Node) (links : Nat) (trail : Trail) (stretches : List Bytes) :
    Except OsError Arrival :=
  match advance root trail stretches, links with
  | .error error, _ => .error error
  | .ok (.arrived trail), links => .ok ⟨trail, links⟩
  | .ok (.link _ _ _), 0 => .error .linkLoop
  | .ok (.link target trail rest), links + 1 =>
      -- A target without a separator in front is seen from where the link stands.
      let start := if target.head? = some Path.separator then [] else trail
      resolve root links start (target.splitOn Path.separator ++ rest)

def locate (root : Node) (current : Location) (path : Path) : Except OsError Trail :=
  if path.isEmpty then
    .error .notFound
  else
    let stretches := path.splitOn Path.separator
    let stretches :=
      if path.head? = some Path.separator then stretches else current ++ stretches
    (resolve root linkLimit [] stretches).map Arrival.trail

def content? (root : Node) (current : Location) (path : Path) :
    Option (Except OsError Bytes) :=
  if pathLimit < path.length then none
  else
    match locate root current path with
    | .error _ => none
    | .ok trail =>
        match trail.node root with
        | .file file => some file.content
        | .device => some (.ok [])
        -- A directory can be opened, but not read.
        | .directory _ _ | .link _ => some (.error .isDirectory)
        | .lost error => some (.error error)

end Tree

end Uncomment
