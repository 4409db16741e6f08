import Uncomment.Proofs.Run.Outputs
import Mathlib.Logic.Function.Basic

namespace Uncomment

/-! The arguments of a run do not interfere, whatever walks they lead to. What is written and
counted for some paths and some others together is put together from what is written and
counted for each, and whatever cannot be found, visited or read makes the run fail and
does nothing else. -/

namespace Selection

variable (selection : Selection) (tours : Tours)

/-! ## Paths put together -/

theorem inputs_of_not_mem {paths : List Path} (absent : Source.stdinPath ∉ paths)
    (first second : Bytes) :
    selection.inputs tours first paths = selection.inputs tours second paths := by
  induction paths with
  | nil => rfl
  | cons argument rest induction =>
      rw [List.mem_cons, not_or] at absent
      have other : argument ≠ Source.stdinPath := Ne.symm absent.1
      rw [inputs, inputs, if_neg other, if_neg other, induction absent.2]

/-- The standard input is taken by the first argument that asks for it, so it must not be
asked for on both sides. -/
theorem inputs_append {front back : List Path}
    (apart : Source.stdinPath ∈ front → Source.stdinPath ∉ back) (stdin : Bytes) :
    selection.inputs tours stdin (front ++ back) =
      selection.inputs tours stdin front ++ selection.inputs tours stdin back := by
  induction front generalizing stdin with
  | nil => rfl
  | cons argument rest induction =>
      have later := induction fun member => apart (List.mem_cons_of_mem argument member)
      rw [List.cons_append, inputs, inputs]
      by_cases asked : argument = Source.stdinPath
      · -- What is left of the standard input does not matter to the back.
        have absent := apart (asked ▸ List.mem_cons_self)
        rw [if_pos asked, if_pos asked, later,
          selection.inputs_of_not_mem tours absent [] stdin, List.cons_append]
      · rw [if_neg asked, if_neg asked, later, List.append_assoc]

variable {selection tours}

theorem inputs_lost {front back : List Path} {argument : Path}
    (other : argument ≠ Source.stdinPath) {error : OsError}
    (lost : tours argument = .error error) (stdin : Bytes) :
    selection.inputs tours stdin (front ++ argument :: back) =
      selection.inputs tours stdin (front ++ back) := by
  induction front generalizing stdin with
  | nil =>
      have below : selection.inputsBelow tours argument = [] := by
        rw [inputsBelow, lost]
      rw [List.nil_append, inputs, if_neg other, below]
      rfl
  | cons first rest induction =>
      rw [List.cons_append, List.cons_append, inputs, inputs, induction, induction]

theorem inputs_congr {others : Tours}
    (same : ∀ argument, selection.inputsBelow others argument =
      selection.inputsBelow tours argument) (stdin : Bytes) (paths : List Path) :
    selection.inputs others stdin paths = selection.inputs tours stdin paths := by
  induction paths generalizing stdin with
  | nil => rfl
  | cons argument rest induction =>
      rw [inputs, inputs, induction, induction, same]

/-! ## What goes wrong -/

/-- An entry that cannot be visited, or a selected file that cannot be read. -/
def fails (selection : Selection) : Visit → Bool
  | .file place file =>
      Extension.accepts selection.extensions (Location.path place) && selection.fits file &&
        file.content.toOption.isNone
  | .fault _ => true

/-- Something is wrong with an argument: it leads nowhere, the ignore files around it have
faults, or a visit on its walk fails. -/
inductive Troubled (selection : Selection) (tours : Tours) (argument : Path) : Prop
  | lost {error : OsError} (lost : tours argument = .error error)
  | warned {tour : Tour} (found : tours argument = .ok tour) (faulty : tour.faults ≠ [])
  | failed {tour : Tour} {visit : Visit} (found : tours argument = .ok tour)
      (member : visit ∈ tour.visits) (fails : selection.fails visit = true)

theorem inputOf?_of_fails {visit : Visit} (fails : selection.fails visit = true)
    (start : Location) : selection.inputOf? start visit = none := by
  cases visit with
  | file place file =>
      have unread : file.content.toOption = none := by
        simp only [Selection.fails, Bool.and_eq_true, Option.isNone_iff_eq_none] at fails
        exact fails.2
      rw [inputOf?, inputAt?, unread]
      exact ite_self none
  | fault fault => rfl

theorem filterMap_inputOf? (start : Location) (visits : List Visit) :
    visits.filterMap (selection.inputOf? start) =
      (visits.filter (!selection.fails ·)).filterMap (selection.inputOf? start) := by
  -- What fails gives nothing to read, so it can be left out beforehand.
  rw [List.filterMap_filter]
  apply List.filterMap_congr
  intro visit _
  cases fails : selection.fails visit with
  | false => rfl
  | true => exact inputOf?_of_fails fails start

/-- What fails on a walk, and what is wrong with the ignore files around it, takes nothing
from what is read. -/
theorem inputsBelow_update {argument : Path} {tour : Tour} {visits : List Visit}
    (found : tours argument = .ok tour)
    (same : visits.filter (!selection.fails ·) = tour.visits.filter (!selection.fails ·))
    (faults : List Ignore.Fault) (asked : Path) :
    selection.inputsBelow
        (Function.update tours argument (.ok { tour with faults, visits })) asked =
      selection.inputsBelow tours asked := by
  unfold inputsBelow
  by_cases here : asked = argument
  · rw [here, Function.update_self, found]
    dsimp only
    rw [filterMap_inputOf?, same, ← filterMap_inputOf?]
  · rw [Function.update_of_ne here]

theorem any_isFailure_attend (start : Location) (visit : Visit) :
    (selection.attend start visit).any Event.isFailure = selection.fails visit := by
  cases visit with
  | file place file =>
      rw [attend, fails]
      rcases selection.examine_cases start place file with
        ⟨other, passed⟩ | ⟨accepted, exceeds, size, limit, passed⟩ |
        ⟨accepted, fits, ⟨bytes, content, read⟩ | ⟨error, content, read⟩⟩
      · rw [passed, other]
        rfl
      · rw [passed, accepted, exceeds]
        rfl
      · rw [read, accepted, fits, content]
        rfl
      · rw [read, accepted, fits, content]
        rfl
  | fault fault => rfl

theorem any_isFailure_steps (tour : Tour) :
    (selection.steps tour).any Event.isFailure = true ↔
      tour.faults ≠ [] ∨ ∃ visit ∈ tour.visits, selection.fails visit = true := by
  have warned : tour.warnings.any Event.isFailure = true ↔ tour.faults ≠ [] := by
    rcases tour.warnings_cases with ⟨faultless, quiet⟩ | ⟨faulty, warned⟩
    · simp [quiet, faultless]
    · simp [warned, faulty, Event.isFailure]
  rw [steps, List.any_append, Bool.or_eq_true, warned, List.any_flatMap, List.any_eq_true]
  simp only [any_isFailure_attend]

theorem any_isFailure_searchPath (argument : Path) :
    (selection.searchPath tours argument).any Event.isFailure = true ↔
      selection.Troubled tours argument := by
  unfold searchPath
  cases found : tours argument with
  | error error => exact iff_of_true rfl (.lost found)
  | ok tour =>
      dsimp only
      rw [any_isFailure_steps]
      constructor
      · rintro (faulty | ⟨visit, member, fails⟩)
        · exact .warned found faulty
        · exact .failed found member fails
      · intro troubled
        cases troubled with
        | lost lost =>
            rw [found] at lost
            cases lost
        | warned same faulty =>
            rw [found] at same
            cases same
            exact .inl faulty
        | failed same member fails =>
            rw [found] at same
            cases same
            exact .inr ⟨_, member, fails⟩

/-- A run that reads its standard input fails just if something is wrong with one of the
other arguments. -/
theorem any_isFailure_search {stdin : Except OsError Bytes} {paths : List Path}
    (readable : Readable stdin paths) :
    (selection.search tours stdin paths).events.any Event.isFailure = true ↔
      ∃ argument ∈ paths, argument ≠ Source.stdinPath ∧
        selection.Troubled tours argument := by
  induction paths generalizing stdin with
  | nil => simp [search]
  | cons argument rest induction =>
      unfold search
      by_cases asked : argument = Source.stdinPath
      · rcases readable (by simp [asked]) with ⟨content, rfl⟩
        have drained : Readable (.ok []) rest := fun _ => ⟨[], rfl⟩
        have later := induction drained
        rw [if_pos asked]
        simpa [Trace.prepend, Event.isFailure, asked] using later
      · have later := induction fun member => readable (List.mem_cons_of_mem argument member)
        rw [if_neg asked]
        simp only [Trace.prepend, List.any_append, Bool.or_eq_true, later,
          any_isFailure_searchPath, List.exists_mem_cons_iff, asked, ne_eq, not_false_eq_true,
          true_and]

end Selection

namespace Request

def forPaths (request : Request) (paths : List Path) : Request := { request with paths }

variable {request : Request} {tours : Tours} {stdin : Except OsError Bytes}
  {front back : List Path}

theorem isSome_failure_report (readable : Readable stdin request.paths) :
    (request.report tours stdin).failure.isSome ↔
      ∃ argument ∈ request.paths, argument ≠ Source.stdinPath ∧
        request.selection.Troubled tours argument := by
  rw [failure_report readable, ← Selection.any_isFailure_search readable]
  split_ifs with failed
  · simp [failed]
  · simp [failed]

theorem inputsOf_forPaths_append
    (apart : Source.stdinPath ∈ front → Source.stdinPath ∉ back) :
    (request.forPaths (front ++ back)).inputsOf tours stdin =
      (request.forPaths front).inputsOf tours stdin ++
        (request.forPaths back).inputsOf tours stdin :=
  request.selection.inputs_append tours apart _

section
variable (readable : Readable stdin (front ++ back))

include readable

theorem readable_front : Readable stdin front := fun asked =>
  readable (List.mem_append_left back asked)

theorem readable_back : Readable stdin back := fun asked =>
  readable (List.mem_append_right front asked)

section
variable (apart : Source.stdinPath ∈ front → Source.stdinPath ∉ back)

include apart

theorem stdout_report_append (json : request.mode.json = false) :
    ((request.forPaths (front ++ back)).report tours stdin).output.stdout =
      ((request.forPaths front).report tours stdin).output.stdout ++
        ((request.forPaths back).report tours stdin).output.stdout := by
  have joint : ((request.forPaths (front ++ back)).report tours stdin).output.stdout = _ :=
    stdout_report_plain json readable
  have first : ((request.forPaths front).report tours stdin).output.stdout = _ :=
    stdout_report_plain json (readable_front readable)
  have second : ((request.forPaths back).report tours stdin).output.stdout = _ :=
    stdout_report_plain json (readable_back readable)
  rw [joint, first, second, inputsOf_forPaths_append apart, List.flatMap_append]
  rfl

theorem read?_report_append (json : request.mode.json = true)
    (check : request.mode.check = false) :
    ∃ first second,
      Json.read? ((request.forPaths front).report tours stdin).output.stdout =
        some (.array first) ∧
      Json.read? ((request.forPaths back).report tours stdin).output.stdout =
        some (.array second) ∧
      Json.read? ((request.forPaths (front ++ back)).report tours stdin).output.stdout =
        some (.array (first ++ second)) := by
  have joint : Json.read?
      ((request.forPaths (front ++ back)).report tours stdin).output.stdout = some (.array _) :=
    read?_report json check readable
  rw [inputsOf_forPaths_append apart, List.filter_append, List.map_append] at joint
  exact ⟨_, _, read?_report json check (readable_front readable),
    read?_report json check (readable_back readable), joint⟩

theorem tally_report_append :
    ((request.forPaths (front ++ back)).report tours stdin).tally =
      ((request.forPaths front).report tours stdin).tally +
        ((request.forPaths back).report tours stdin).tally := by
  have joint : ((request.forPaths (front ++ back)).report tours stdin).tally = _ :=
    tally_report readable
  have first : ((request.forPaths front).report tours stdin).tally = _ :=
    tally_report (readable_front readable)
  have second : ((request.forPaths back).report tours stdin).tally = _ :=
    tally_report (readable_back readable)
  rw [joint, first, second, inputsOf_forPaths_append apart, List.map_append,
    Tally.ofResults_append]

end

theorem report_lost {argument : Path} (other : argument ≠ Source.stdinPath)
    {error : OsError} (lost : tours argument = .error error) :
    ((request.forPaths (front ++ argument :: back)).report tours stdin).output.stdout =
        ((request.forPaths (front ++ back)).report tours stdin).output.stdout ∧
      ((request.forPaths (front ++ argument :: back)).report tours stdin).tally =
        ((request.forPaths (front ++ back)).report tours stdin).tally ∧
      ((request.forPaths (front ++ argument :: back)).report tours stdin).failure.isSome := by
  have readableLost : Readable stdin (front ++ argument :: back) := by
    intro asked
    rcases List.mem_append.mp asked with asked | asked
    · exact readable_front readable asked
    · exact readable_back readable (List.mem_of_ne_of_mem (Ne.symm other) asked)
  have inputs : (request.forPaths (front ++ argument :: back)).inputsOf tours stdin =
      (request.forPaths (front ++ back)).inputsOf tours stdin :=
    Selection.inputs_lost other lost _
  exact ⟨stdout_report_congr rfl inputs readable readableLost,
    tally_report_congr inputs readable readableLost,
    (isSome_failure_report readableLost).mpr
      ⟨argument, List.mem_append_cons_self, other, .lost lost⟩⟩

end

theorem report_update {paths : List Path} (readable : Readable stdin paths)
    {argument : Path} {tour : Tour} {visits : List Visit}
    (found : tours argument = .ok tour)
    (same : visits.filter (!request.selection.fails ·) =
      tour.visits.filter (!request.selection.fails ·)) (faults : List Ignore.Fault) :
    let others := Function.update tours argument (.ok { tour with faults, visits })
    ((request.forPaths paths).report others stdin).output.stdout =
        ((request.forPaths paths).report tours stdin).output.stdout ∧
      ((request.forPaths paths).report others stdin).tally =
        ((request.forPaths paths).report tours stdin).tally := by
  intro others
  have inputs : (request.forPaths paths).inputsOf others stdin =
      (request.forPaths paths).inputsOf tours stdin :=
    Selection.inputs_congr (Selection.inputsBelow_update found same faults) _ _
  exact ⟨stdout_report_congr rfl inputs readable readable,
    tally_report_congr inputs readable readable⟩

/-- The arguments of a run stand on their own, whatever walks they lead to: what is written
and counted for some of them and others is put together of what is written and counted for
each. What leads nowhere, or cannot be visited or read, makes the run fail, and the rest is
as it would be without it, or with anything else that fails. -/
theorem roots_independent (readable : Readable stdin (front ++ back)) :
    let run tours paths := (request.forPaths paths).report tours stdin
    ((Source.stdinPath ∈ front → Source.stdinPath ∉ back) →
      (request.mode.json = false →
        (run tours (front ++ back)).output.stdout =
          (run tours front).output.stdout ++ (run tours back).output.stdout) ∧
      (request.mode.json = true → request.mode.check = false →
        ∃ first second,
          Json.read? (run tours front).output.stdout = some (.array first) ∧
          Json.read? (run tours back).output.stdout = some (.array second) ∧
          Json.read? (run tours (front ++ back)).output.stdout =
            some (.array (first ++ second))) ∧
      (run tours (front ++ back)).tally = (run tours front).tally + (run tours back).tally) ∧
    ((run tours (front ++ back)).failure.isSome ↔
      (run tours front).failure.isSome ∨ (run tours back).failure.isSome) ∧
    ((run tours (front ++ back)).failure.isSome ↔
      ∃ argument ∈ front ++ back, argument ≠ Source.stdinPath ∧
        request.selection.Troubled tours argument) ∧
    (∀ argument error, argument ≠ Source.stdinPath → tours argument = .error error →
      (run tours (front ++ argument :: back)).output.stdout =
        (run tours (front ++ back)).output.stdout ∧
      (run tours (front ++ argument :: back)).tally = (run tours (front ++ back)).tally ∧
      (run tours (front ++ argument :: back)).failure.isSome) ∧
    ∀ argument tour faults visits, tours argument = .ok tour →
      visits.filter (!request.selection.fails ·) =
        tour.visits.filter (!request.selection.fails ·) →
      let others := Function.update tours argument (.ok { tour with faults, visits })
      (run others (front ++ back)).output.stdout =
        (run tours (front ++ back)).output.stdout ∧
      (run others (front ++ back)).tally = (run tours (front ++ back)).tally := by
  intro run
  have failed : ∀ {paths : List Path}, Readable stdin paths →
      ((run tours paths).failure.isSome ↔ ∃ argument ∈ paths, argument ≠ Source.stdinPath ∧
        request.selection.Troubled tours argument) := fun readable =>
    isSome_failure_report readable
  refine ⟨fun apart => ⟨stdout_report_append readable apart,
    read?_report_append readable apart, tally_report_append readable apart⟩, ?_,
    failed readable, fun argument error other lost => report_lost readable other lost,
    fun argument tour faults visits found same => report_update readable found same faults⟩
  rw [failed readable, failed (readable_front readable), failed (readable_back readable)]
  simp only [List.mem_append, or_and_right, exists_or]

deriving instance DecidableEq for File, Visit, Tour

private def reading : Request where
  selection := { extensions := ["c".toList] }
  mode := {}
  paths := []

private def commentedFile : File := .ofBytes (Utf8.encode "a; // x\n".toList)

private def brokenFile : File := ⟨some 1, .error .inputOutput⟩

private def brokenFiles : Environment where
  root := .directory [
    (Utf8.encode "a.c".toList, .file commentedFile),
    (Utf8.encode "sub".toList, .directory [] (.refused .permissionDenied)),
    (Utf8.encode "z.c".toList, .file brokenFile)]
  stdin := .ok (Utf8.encode "plain\n".toList)

theorem roots_independent_broken :
    let tours := reading.selection.tour brokenFiles
    let run tours paths := (reading.forPaths paths).report tours brokenFiles.stdin
    let front := ["-".toList].map Utf8.encode
    let back := ["/".toList].map Utf8.encode
    let gone := Utf8.encode "gone".toList
    let walkError := Visit.fault (.unreachable (Utf8.encode "/sub".toList) .permissionDenied)
    let first := Visit.file [Utf8.encode "a.c".toList] commentedFile
    let last := Visit.file [Utf8.encode "z.c".toList] brokenFile
    let mended := Function.update tours (Utf8.encode "/".toList) (.ok ⟨[], [], [first]⟩)
    Readable brokenFiles.stdin (front ++ back) ∧
      (Source.stdinPath ∈ front → Source.stdinPath ∉ back) ∧
      tours (Utf8.encode "/".toList) = .ok ⟨[], [], [first, walkError, last]⟩ ∧
      tours gone = .error .notFound ∧
      (run tours (front ++ back)).output.stdout =
        (run tours front).output.stdout ++ (run tours back).output.stdout ∧
      (run mended (front ++ back)).output.stdout =
        (run tours (front ++ back)).output.stdout ∧
      (run tours (front ++ gone :: back)).output.stdout =
        (run tours (front ++ back)).output.stdout ∧
      (run tours (front ++ back)).output.stdout =
        "plain\n========== FILE: a.c ==========\na;\n\n".toList ∧
      (run tours (front ++ back)).failure.isSome := by
  intro tours run front back gone walkError first last mended
  have readable : Readable brokenFiles.stdin (front ++ back) := fun _ => ⟨_, rfl⟩
  have apart : Source.stdinPath ∈ front → Source.stdinPath ∉ back := by decide
  have found : tours (Utf8.encode "/".toList) = .ok ⟨[], [], [first, walkError, last]⟩ := by
    decide +kernel
  have lost : tours gone = .error .notFound := by decide +kernel
  have inputs : (reading.forPaths (front ++ back)).inputsOf tours brokenFiles.stdin =
      [⟨.stdin, Utf8.encode "plain\n".toList⟩,
        ⟨.file "a.c".toList "a.c".toList, Utf8.encode "a; // x\n".toList⟩] := by
    decide +kernel
  have kept : (⟨.stdin, Utf8.encode "plain\n".toList⟩ : Input).result =
      ⟨"plain\n".toList, false⟩ := by decide +kernel
  have cleared : (⟨.file "a.c".toList "a.c".toList, Utf8.encode "a; // x\n".toList⟩ :
      Input).result = ⟨"a;\n".toList, true⟩ := by decide +kernel
  have written : (run tours (front ++ back)).output.stdout = _ :=
    stdout_report_plain rfl readable
  rw [inputs, List.flatMap_cons, List.flatMap_cons, kept, cleared] at written
  rcases roots_independent readable with ⟨together, -, troubled, isolated, unvisited⟩
  rcases together apart with ⟨plain, -, -⟩
  have listed : Utf8.encode "/".toList ∈ front ++ back := by decide
  have met : walkError ∈ [first, walkError, last] := by decide
  have fails : (run tours (front ++ back)).failure.isSome :=
    troubled.mpr ⟨_, listed, by decide, .failed found met rfl⟩
  exact ⟨readable, apart, found, lost, plain rfl,
    (unvisited _ _ [] [first] found (by decide +kernel)).1,
    (isolated gone _ (by decide) lost).1, written, fails⟩

end Request

end Uncomment
