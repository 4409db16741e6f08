import Uncomment.Ignore.Settings
import Uncomment.Program

namespace Uncomment

namespace Snapshot

/-! The part of the file system that a run can look at, read into a tree before the run. What
cannot be listed, looked at or read stands in the tree with its error, so that the run
decides what comes of it. Names that are not valid UTF-8 cannot be read here, and a listing
that the system breaks off counts as refused. -/

/-- An error by its code, which may come with its sign turned. The errors that the tree
itself gives rise to keep their wording. -/
def ofCode (code : UInt32) (details : String) : OsError :=
  let code := if code < 0x80000000 then code.toNat else (0 - code).toNat
  let known := [OsError.notFound, .inputOutput, .permissionDenied, .notDirectory,
    .isDirectory, .nameTooLong, .linkLoop]
  (known.find? (·.code == code)).getD ⟨details.toList, code⟩

def ofIoError : IO.Error → OsError
  | .alreadyExists _ code details | .otherError code details
  | .resourceBusy code details | .resourceVanished code details
  | .unsupportedOperation code details | .hardwareFault code details
  | .unsatisfiedConstraints code details | .illegalOperation code details
  | .protocolError code details | .timeExpired code details
  | .interrupted _ code details | .noFileOrDirectory _ code details
  | .invalidArgument _ code details | .permissionDenied _ code details
  | .resourceExhausted _ code details | .inappropriateType _ code details
  | .noSuchThing _ code details => ofCode code details
  | .unexpectedEof => .inputOutput
  | .userError message => ⟨message.toList, OsError.inputOutput.code⟩

/-! ## Names and places -/

def nameOf (name : String) : Bytes := Utf8.encode name.toList

def textOf (bytes : Bytes) : String := String.ofList (Utf8.decodeLossy bytes)

def namesIn (path : String) : Location :=
  ((path.splitOn "/").filter (!·.isEmpty)).map nameOf

def entryAt (place : Location) : IO.FS.DirEntry where
  root := "/"
  fileName := textOf ([Path.separator].intercalate place)

/-- Where a link leads to in the end, and whether there is something to read. A broken link
leads to a name that no file can have, one that goes in circles to itself, and one with a
long name to a long name. -/
def targetOf (place : Location) : IO (Location × Bool) := do
  let path := (entryAt place).path
  try
    discard path.metadata
    return (namesIn (← IO.FS.realPath path).toString, true)
  catch error =>
    let code := (ofIoError error).code
    if code = OsError.linkLoop.code then return (place, false)
    else if code = OsError.nameTooLong.code then
      return ([List.replicate (Tree.nameLimit + 1) Path.dot], false)
    else return ([[0]], false)

def readFile (place : Location) : IO (Except OsError Bytes) := do
  try
    return .ok (← IO.FS.readBinFile (entryAt place).path).toList
  catch error =>
    return .error (ofIoError error)

/-! ## Trees -/

/-- What a run may need of the files below a root: the content of those selected by their
name, and what links lead to, if they are followed. -/
structure Need where
  content : Bytes → Bool
  linkTargets : Bool

structure Findings where
  targets : List Location := []
  ruled : List Location := []
  refused : List Location := []

abbrev Nodes := List (Location × Node)

def ruleNames : List Bytes := [".ignore", ".gitignore", ".git"].map nameOf

partial def readNode (need : Need) (place : Location) (listed : Bool := false) :
    StateT Findings IO Node := do
  let entry := entryAt place
  match ← entry.path.symlinkMetadata.toBaseIO with
  | .error error => return .lost (ofIoError error)
  | .ok metadata =>
      if ruleNames.contains (place.getLastD []) then
        modify fun found => { found with ruled := place.dropLast :: found.ruled }
      match metadata.type with
      | .dir =>
          match ← entry.path.readDir.toBaseIO with
          | .error error =>
              modify fun found => { found with refused := place :: found.refused }
              return .directory [] (.refused (ofIoError error))
          | .ok children =>
              let entries ← children.toList.mapM fun child => do
                let name := nameOf child.fileName
                return (name, ← readNode need (place ++ [name]) true)
              return .directory entries
      | .symlink =>
          let (target, found) ← targetOf place
          if found then
            modify fun findings => { findings with targets := target :: findings.targets }
          return .link target.path
      | .other => return .device
      | .file =>
          let wanted := !listed || need.content (place.getLastD [])
          let content ← if wanted then readFile place else pure (.ok [])
          return .file ⟨some metadata.byteSize.toNat, content⟩

/-- Reads the nodes at some places, and at those that links in them lead to. What is inside
of another node is read by itself only if it cannot be reached from there. -/
partial def readNodes (need : Need) (nodes : Nodes) (found : Findings) :
    List Location → IO (Nodes × Findings)
  | [] => return (nodes, found)
  | place :: rest => do
      let hidden := found.refused.any fun directory =>
        directory != place && directory.isPrefixOf place
      if nodes.any fun (other, _) => other == place || !hidden && other.isPrefixOf place then
        readNodes need nodes found rest
      else
        let (node, inside) ← (readNode need place).run {}
        let found : Findings := {
          ruled := found.ruled ++ inside.ruled
          refused := found.refused ++ inside.refused }
        let targets := if need.linkTargets then inside.targets else []
        readNodes need (nodes ++ [(place, node)]) found (rest ++ targets)

def reach (current : Location) : List Bytes → IO (Nodes × Option Location)
  | [] => return ([], some current)
  | name :: rest => do
      if name = [] ∨ name = [Path.dot] then
        reach current rest
      else if name = [Path.dot, Path.dot] then
        reach current.dropLast rest
      else
        let place := current ++ [name]
        match ← (entryAt place).path.symlinkMetadata.toBaseIO with
        | .error error =>
            let error := ofIoError error
            let missing := error = .notFound ∨ error = .notDirectory
            return (if missing then [] else [(place, .lost error)], none)
        | .ok metadata =>
            let (node, next) ← match metadata.type with
              | .symlink => do
                  let (target, found) ← targetOf place
                  pure (.link target.path, if found then some target else none)
              | .dir => pure (.directory [], some place)
              | .other => pure (.device, some place)
              | .file => pure (.file (.ofBytes []), some place)
            match next with
            | none => return ([(place, node)], none)
            | some next =>
                let (passed, last) ← reach next rest
                return ((place, node) :: passed, last)

def reachPath (current : Location) (path : Path) : IO (Nodes × Option Location) :=
  reach (if path.head? = some Path.separator then [] else current)
    (path.splitOn Path.separator)

def nodeAt? (root : Node) (place : Location) : Option Node :=
  place.foldlM (fun node name => node.child? name) root

def fillIn (root : Node) (nodes : Nodes) : Node :=
  nodes.foldl (fun root (place, node) =>
    if (nodeAt? root place).isSome then root else root.insert node place) root

/-! ## Files that are known by their path -/

def addFileAt (root : Node) (current : Location) (path : Path) : IO Node := do
  let (passed, place) ← reachPath current path
  let root := fillIn root passed
  match place, place.bind (nodeAt? root) with
  | some place, some (.file _) =>
      match ← readFile place with
      | .ok content => return root.insert (.file (.ofBytes content)) place
      | .error error => return root.insert (.file ⟨none, .error error⟩) place
  | _, _ => return root

def addIgnoreFiles (current : Location) (root : Node) (place : Location) : IO Node :=
  [".ignore", ".gitignore", ".git", ".git/info/exclude"].foldlM (fun root name =>
    addFileAt root current (Path.join (Location.path place) (nameOf name))) root

def addExcludes (current : Location) (root : Node) (place : Location) : IO Node := do
  let mark := Location.path (place ++ [nameOf ".git"])
  let line := (Tree.content? root current mark).map (Ignore.firstLine mark)
  let root ← match line with
    | some (.ok (some line)) =>
        match Ignore.pointsTo? line with
        | some directory => addFileAt root current (Ignore.sharedMark directory)
        | none => pure root
    | _ => pure root
  match Ignore.excludes? root current place with
  | .ok (some path) => addFileAt root current path
  | _ => return root

def globalExcludes (directory : Location) : IO Bytes := do
  let pathIn (name : String) : IO (Option Path) := do
    return ((← IO.getEnv name).map nameOf).filter (· != [])
  let contentAt (path : Path) : IO (Option Bytes) := do
    let (_, place) ← reachPath directory path
    match place with
    | some place => return (← readFile place).toOption
    | none => return none
  let home ← pathIn "HOME"
  let inHome := home.map (Path.join · (nameOf ".config"))
  let base := (← pathIn "XDG_CONFIG_HOME") <|> inHome
  let settings := [
    home.map (Path.join · (nameOf ".gitconfig")),
    base.map (Path.join · (nameOf "git/config"))]
  let named ← (settings.filterMap id).mapM fun path => do
    return (← contentAt path).bind (Ignore.Settings.excludesFile? (home.getD []))
  match named.findSome? id <|> base.map (Path.join · (nameOf "git/ignore")) with
  | some path => return (← contentAt path).getD []
  | none => return []

/-! ## Environments -/

def environment (options : Options) : IO Environment := do
  let directory := namesIn (← IO.FS.realPath ".").toString
  let extensions := (Extension.select? options.types).getD []
  let need : Need := {
    content := fun name =>
      Extension.accepts extensions name ||
        name = nameOf "exclude" || ruleNames.contains name
    linkTargets := options.flags.contains .followLinks }
  let ways ← (options.paths.filter (· != Source.stdinPath)).mapM (reachPath directory)
  let places := ways.filterMap Prod.snd
  let (nodes, found) ← readNodes need [] {} places
  -- The outermost nodes come first, since what is inside of them is put into them.
  let ordered := nodes.mergeSort fun left right => left.1.length ≤ right.1.length
  let start := (Node.directory []).insert (.directory []) directory
  let loaded := ordered.foldl (fun root (place, node) => root.insert node place) start
  let around := places.flatMap fun place =>
    (List.range place.length).map fun depth => place.take depth
  let filled := fillIn loaded (ways.flatMap Prod.fst)
  let ignoring ← (around ++ found.ruled).foldlM (addIgnoreFiles directory) filled
  let root ← (around ++ found.ruled).foldlM (addExcludes directory) ignoring
  let globalExcludes ← globalExcludes directory
  let stdin ← if options.paths.contains Source.stdinPath then
      try pure (.ok (← (← IO.getStdin).readBinToEnd).toList)
      catch error => pure (.error (ofIoError error))
    else pure (.ok [])
  return { root, directory, globalExcludes, stdin }

end Snapshot

end Uncomment
