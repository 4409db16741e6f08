import Uncomment.Glob.Match
import Uncomment.Ignore.Worktree

namespace Uncomment

namespace Ignore

/-! What the ignore files of a directory, and of those around it, say about an entry. -/

inductive Verdict
  | undecided
  | ignored
  | kept
deriving DecidableEq, Repr

namespace Verdict

def first : List Verdict → Verdict
  | [] => undecided
  | undecided :: rest => first rest
  | decided :: _ => decided

end Verdict

def verdictOf (rules : List Rule) (relative : Path) (isDirectory : Bool) : Verdict :=
  match rules.reverse.find? fun rule =>
      (isDirectory || !rule.directoriesOnly) && rule.glob.accepts dialect relative with
  | some rule => if rule.keeps then .kept else .ignored
  | none => .undecided

/-- The rules that one directory holds, by the kind of file they come from, and what is
wrong with these files. -/
structure Layer where
  location : Location
  general : List Rule
  versioned : List Rule
  excluded : List Rule
  faults : List Fault

namespace Layer

def contentsAt (root : Node) (current : Location) (path : Path) : Contents :=
  .read path (Tree.content? root current path)

def excludesAt (root : Node) (current location : Location) : Contents :=
  match excludes? root current location with
  | .ok none => {}
  | .ok (some path) => contentsAt root current path
  | .error fault => { faults := [fault] }

def read (root : Node) (current location : Location) : Layer :=
  let named (name : String) :=
    contentsAt root current (Location.path (location ++ [Utf8.encode name.toList]))
  let general := named ".ignore"
  let versioned := named ".gitignore"
  let excluded := excludesAt root current location
  { location
    general := general.rules
    versioned := versioned.rules
    excluded := excluded.rules
    faults := general.faults ++ versioned.faults ++ excluded.faults }

/-- What is kept out of all work trees, told from the place where a walk starts. Nobody is
told what is wrong with it. -/
def everywhere (start : Location) (content : Bytes) : Layer where
  location := start
  general := []
  versioned := []
  excluded := (Contents.ofBytes [] content).rules
  faults := []

def judge (layer : Layer) (rules : List Rule) (location : Location)
    (isDirectory : Bool) : Verdict :=
  let relative := [Path.separator].intercalate (location.drop layer.location.length)
  verdictOf rules relative isDirectory

end Layer

def layersAt (root : Node) (current location : Location) : List Layer :=
  (List.range (location.length + 1)).reverse.map fun depth =>
    Layer.read root current (location.take depth)

def faultsAround (root : Node) (current location : Location) : List Fault :=
  (List.range location.length).flatMap fun depth =>
    (Layer.read root current (location.take depth)).faults

/-- The verdict on a place. The kind of file counts before the depth: the rules of a
`.ignore` file win over those of a `.gitignore` file further in. -/
def verdict (layers : List Layer) (location : Location) (isDirectory : Bool) : Verdict :=
  .first
    (layers.map (fun layer => layer.judge layer.general location isDirectory) ++
      layers.map (fun layer => layer.judge layer.versioned location isDirectory) ++
      layers.map (fun layer => layer.judge layer.excluded location isDirectory))

def isHidden (location : Location) : Bool :=
  match location.getLast? with
  | some name => name.head? = some Path.dot
  | none => false

def admits (layers : List Layer) (location : Location) (isDirectory : Bool) : Bool :=
  match verdict layers location isDirectory with
  | .ignored => false
  | .kept => true
  | .undecided => !isHidden location

end Ignore

end Uncomment
