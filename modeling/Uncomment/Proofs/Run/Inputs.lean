import Uncomment.Program
import Mathlib.Data.List.Basic

namespace Uncomment

/-! The texts that a run strips, told from the request and from where its paths lead. -/

structure Input where
  source : Source
  content : Bytes
deriving DecidableEq, Repr

def Input.result (input : Input) : Stripped := strip (Utf8.decodeLossy input.content)

def Input.entry (input : Input) : Source × Stripped := (input.source, input.result)

/-- The standard input can be read if it is asked for. -/
def Readable (stdin : Except OsError Bytes) (paths : List Path) : Prop :=
  Source.stdinPath ∈ paths → ∃ content, stdin = .ok content

namespace Selection

def fits (selection : Selection) (file : File) : Bool :=
  selection.maxBytes.all fun limit => file.size.all fun size => size ≤ limit

def sourceAt (start place : Location) : Source :=
  .file (Path.display (Location.path start) (Location.path place))
    (Utf8.decodeLossy ((Path.fileName? (Location.path place)).getD []))

def inputAt? (selection : Selection) (start place : Location) (file : File) : Option Input :=
  if Extension.accepts selection.extensions (Location.path place) ∧ selection.fits file then
    file.content.toOption.map (⟨sourceAt start place, ·⟩)
  else
    none

def inputOf? (selection : Selection) (start : Location) : Visit → Option Input
  | .file place file => selection.inputAt? start place file
  | .fault _ => none

def inputsBelow (selection : Selection) (tours : Tours) (argument : Path) : List Input :=
  match tours argument with
  | .error _ => []
  | .ok tour => tour.visits.filterMap (selection.inputOf? tour.start)

/-- What is read for some arguments, in order. The standard input gives its content to the
first argument that asks for it, and nothing to the others. -/
def inputs (selection : Selection) (tours : Tours) (stdin : Bytes) : List Path → List Input
  | [] => []
  | argument :: rest =>
      if argument = Source.stdinPath then
        ⟨.stdin, stdin⟩ :: selection.inputs tours [] rest
      else
        selection.inputsBelow tours argument ++ selection.inputs tours stdin rest

end Selection

namespace Request

def inputsOf (request : Request) (tours : Tours) (stdin : Except OsError Bytes) :
    List Input :=
  request.selection.inputs tours (stdin.toOption.getD []) request.paths

def inputs (request : Request) (environment : Environment) : List Input :=
  request.inputsOf (request.selection.tour environment) environment.stdin

end Request

/-! ## What is left of them in a run -/

def Event.result? : Event → Option (Source × Stripped)
  | .stripped source result => some (source, result)
  | _ => none

def Trace.results (trace : Trace) : List (Source × Stripped) :=
  trace.events.filterMap Event.result?

theorem Trace.results_prepend (events : List Event) (trace : Trace) :
    (trace.prepend events).results = events.filterMap Event.result? ++ trace.results :=
  List.filterMap_append

theorem Tour.warnings_cases (tour : Tour) :
    (tour.faults = [] ∧ tour.warnings = []) ∨
      (tour.faults ≠ [] ∧ tour.warnings = [.badIgnoreFiles tour.faults]) := by
  unfold warnings
  split
  · rename_i faultless
    exact .inl ⟨List.isEmpty_iff.mp faultless, rfl⟩
  · rename_i faulty
    exact .inr ⟨mt List.isEmpty_iff.mpr faulty, rfl⟩

namespace Selection

variable (selection : Selection)

def oversized? (label : Text) (file : File) : Option Event := do
  let limit ← selection.maxBytes
  let size ← file.size
  if limit < size then some (.oversized label size limit) else none

theorem oversized?_eq_none (label : Text) {file : File} (fits : selection.fits file) :
    selection.oversized? label file = none := by
  unfold Selection.fits at fits
  unfold oversized?
  cases limit : selection.maxBytes <;> cases size : file.size <;> simp_all

theorem oversized?_eq_some (label : Text) {file : File} (exceeds : ¬ selection.fits file) :
    ∃ size limit, selection.oversized? label file = some (.oversized label size limit) := by
  unfold Selection.fits at exceeds
  unfold oversized?
  cases limit : selection.maxBytes <;> cases size : file.size <;> simp_all

variable {selection} {start place : Location} {file : File}

theorem examine_of_accepts
    (accepted : Extension.accepts selection.extensions (Location.path place)) :
    selection.examine start place file =
      match selection.oversized? (sourceAt start place).label file,
        stripContent (sourceAt start place).label file.content with
      | some event, _ => [event]
      | none, .ok result => [.stripped (sourceAt start place) result]
      | none, .error failure => [.unreadable failure] :=
  if_pos accepted

variable (selection start place file) in
theorem examine_cases :
    (Extension.accepts selection.extensions (Location.path place) = false ∧
      selection.examine start place file = []) ∨
    (Extension.accepts selection.extensions (Location.path place) = true ∧
      selection.fits file = false ∧
      ∃ size limit, selection.examine start place file =
        [.oversized (sourceAt start place).label size limit]) ∨
    (Extension.accepts selection.extensions (Location.path place) = true ∧
      selection.fits file = true ∧
      ((∃ bytes, file.content = .ok bytes ∧
        selection.examine start place file =
          [.stripped (sourceAt start place) (stripBytes bytes)]) ∨
      (∃ error, file.content = .error error ∧
        selection.examine start place file =
          [.unreadable ⟨(sourceAt start place).label, error⟩]))) := by
  cases accepted : Extension.accepts selection.extensions (Location.path place) with
  | false =>
      exact .inl ⟨rfl, if_neg (Bool.eq_false_iff.mp accepted)⟩
  | true =>
      rw [examine_of_accepts accepted]
      cases fits : selection.fits file with
      | false =>
          rcases oversized?_eq_some selection (sourceAt start place).label
            (Bool.eq_false_iff.mp fits) with ⟨size, limit, large⟩
          rw [large]
          exact .inr (.inl ⟨rfl, rfl, size, limit, rfl⟩)
      | true =>
          rw [oversized?_eq_none _ _ fits]
          cases file.content with
          | ok bytes => exact .inr (.inr ⟨rfl, rfl, .inl ⟨bytes, rfl, rfl⟩⟩)
          | error error => exact .inr (.inr ⟨rfl, rfl, .inr ⟨error, rfl, rfl⟩⟩)

theorem results_examine :
    (selection.examine start place file).filterMap Event.result? =
      ((selection.inputAt? start place file).map Input.entry).toList := by
  unfold inputAt?
  rcases selection.examine_cases start place file with
    ⟨other, passed⟩ | ⟨accepted, exceeds, size, limit, passed⟩ |
    ⟨accepted, fits, ⟨bytes, content, read⟩ | ⟨error, content, read⟩⟩
  · rw [passed, other]
    rfl
  · rw [passed, accepted, exceeds]
    rfl
  · rw [read, accepted, fits, content]
    rfl
  · rw [read, accepted, fits, content]
    rfl

theorem results_attend (visit : Visit) :
    (selection.attend start visit).filterMap Event.result? =
      ((selection.inputOf? start visit).map Input.entry).toList := by
  cases visit with
  | file place file => exact results_examine
  | fault fault => rfl

theorem results_visits (visits : List Visit) :
    (visits.flatMap (selection.attend start)).filterMap Event.result? =
      (visits.filterMap (selection.inputOf? start)).map Input.entry := by
  rw [List.filterMap_flatMap, List.map_filterMap, List.filterMap_eq_flatMap_toList]
  exact List.flatMap_congr fun visit _ => results_attend visit

variable (selection) (tours : Tours)

theorem results_steps (tour : Tour) :
    (selection.steps tour).filterMap Event.result? =
      (tour.visits.filterMap (selection.inputOf? tour.start)).map Input.entry := by
  have unstripped : tour.warnings.filterMap Event.result? = [] := by
    rcases tour.warnings_cases with ⟨_, quiet⟩ | ⟨_, warned⟩
    · rw [quiet]
      rfl
    · rw [warned]
      rfl
  rw [steps, List.filterMap_append, unstripped, List.nil_append]
  exact results_visits _

theorem results_searchPath (argument : Path) :
    (selection.searchPath tours argument).filterMap Event.result? =
      (selection.inputsBelow tours argument).map Input.entry := by
  unfold searchPath inputsBelow
  cases tours argument with
  | error error => rfl
  | ok tour => exact selection.results_steps tour

/-- A run strips the texts that it is told to read, in that order, and comes to its end. -/
theorem results_search {stdin : Except OsError Bytes} {paths : List Path}
    (readable : Readable stdin paths) :
    (selection.search tours stdin paths).results =
      (selection.inputs tours (stdin.toOption.getD []) paths).map Input.entry ∧
    (selection.search tours stdin paths).aborted = none := by
  induction paths generalizing stdin with
  | nil => exact ⟨rfl, rfl⟩
  | cons argument rest induction =>
      unfold search inputs
      by_cases asked : argument = Source.stdinPath
      · rcases readable (by simp [asked]) with ⟨content, rfl⟩
        -- What is left for the later arguments is a standard input that is empty.
        have drained : Readable (.ok []) rest := fun _ => ⟨[], rfl⟩
        rcases induction drained with ⟨results, ended⟩
        rw [if_pos asked, if_pos asked]
        exact ⟨congrArg ((Source.stdin, stripBytes content) :: ·) results, ended⟩
      · have readableLater : Readable stdin rest := fun member =>
          readable (List.mem_cons_of_mem argument member)
        rcases induction readableLater with ⟨results, ended⟩
        rw [if_neg asked, if_neg asked, Trace.results_prepend, List.map_append,
          results_searchPath, results]
        exact ⟨rfl, ended⟩

end Selection

theorem Request.results_search {request : Request} {tours : Tours}
    {stdin : Except OsError Bytes} (readable : Readable stdin request.paths) :
    (request.selection.search tours stdin request.paths).results =
        (request.inputsOf tours stdin).map Input.entry ∧
      (request.selection.search tours stdin request.paths).aborted = none :=
  request.selection.results_search tours readable

end Uncomment
