import Uncomment.Exclusion
import Uncomment.Extension
import Uncomment.Ignore.Verdict
import Uncomment.Run.Event
import Uncomment.Walk

namespace Uncomment

structure Selection where
  extensions : List Text
  excludes : List Glob := []
  maxBytes : Option Nat := none
  followLinks : Bool := false
  ignoreFiles : Bool := true

/-- What a run finds around it: the files, the directory it is started in, what git keeps
out of all work trees by its own settings, and what reading the standard input gives. -/
structure Environment where
  root : Node
  directory : Location := []
  globalExcludes : Bytes := []
  stdin : Except OsError Bytes := .ok []

/-- A walk from a root: where it starts, what is wrong with the ignore files around that
place, and what it meets. -/
structure Tour where
  start : Location
  faults : List Ignore.Fault
  visits : List Visit

def Tour.warnings (tour : Tour) : List Event :=
  if tour.faults.isEmpty then [] else [.badIgnoreFiles tour.faults]

abbrev Tours := Path → Except OsError Tour

namespace Selection

/-- The entries that neither an ignore file nor the dot before their name keeps out of a
walk from `start`. -/
def unignored (selection : Selection) (environment : Environment) (start : Location) :
    Admission (List Ignore.Layer) where
  survey place :=
    if selection.ignoreFiles then
      Ignore.layersAt environment.root environment.directory place ++
        [.everywhere start environment.globalExcludes]
    else []
  admits := Ignore.admits

def admission {σ : Type} (selection : Selection) (others : Admission σ)
    (start : Location) : Admission σ where
  survey := others.survey
  admits surveyed place isDirectory :=
    others.admits surveyed place isDirectory &&
      !Exclusion.excludes selection.excludes (Exclusion.relativeText start place)
        isDirectory

def examine (selection : Selection) (start place : Location) (file : File) :
    List Event :=
  let path := Location.path place
  if Extension.accepts selection.extensions path then
    let label := Path.display (Location.path start) path
    let name := Utf8.decodeLossy ((Path.fileName? path).getD [])
    -- A file that does not report its size passes the limit.
    let oversized := do
      let limit ← selection.maxBytes
      let size ← file.size
      if limit < size then some (Event.oversized label size limit) else none
    match oversized, stripContent label file.content with
    | some event, _ => [event]
    | none, .ok result => [.stripped (.file label name) result]
    | none, .error failure => [.unreadable failure]
  else
    []

def attend (selection : Selection) (start : Location) : Visit → List Event
  | .file place file => selection.examine start place file
  | .fault fault => [.lostEntry fault]

/-- The walk from the end of a trail. Only a directory has ignore files around it; those
inside are used without a word about their faults. -/
def tourFrom (selection : Selection) (environment : Environment) (trail : Tree.Trail) :
    Tour where
  start := trail.location
  faults :=
    if selection.ignoreFiles && (trail.node environment.root).isDirectory then
      Ignore.faultsAround environment.root environment.directory trail.location
    else []
  visits :=
    let others := selection.unignored environment trail.location
    Walk.visits (selection.admission others trail.location) trail.location
      (Tree.view environment.root selection.followLinks trail)

def tour (selection : Selection) (environment : Environment) : Tours := fun argument =>
  (Tree.locate environment.root environment.directory argument).map
    (selection.tourFrom environment)

def steps (selection : Selection) (tour : Tour) : List Event :=
  tour.warnings ++ tour.visits.flatMap (selection.attend tour.start)

def searchPath (selection : Selection) (tours : Tours) (argument : Path) : List Event :=
  match tours argument with
  | .error error => [.lostRoot argument error]
  | .ok tour => selection.steps tour

/-- The steps of a run over some paths. The standard input can be read once; after that
it is empty. -/
def search (selection : Selection) (tours : Tours) (stdin : Except OsError Bytes) :
    List Path → Trace
  | [] => ⟨[], none⟩
  | argument :: rest =>
      if argument = Source.stdinPath then
        match stdin with
        | .error error => ⟨[], some error⟩
        | .ok content =>
            (selection.search tours (.ok []) rest).prepend
              [.stripped .stdin (stripBytes content)]
      else
        (selection.search tours stdin rest).prepend (selection.searchPath tours argument)

def trace (selection : Selection) (environment : Environment) (paths : List Path) : Trace :=
  selection.search (selection.tour environment) environment.stdin paths

end Selection

end Uncomment
