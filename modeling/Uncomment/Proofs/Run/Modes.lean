import Uncomment.Proofs.Run.Outputs

namespace Uncomment

/-! The same search reported in different modes. The mode has no part in what is looked
at, counted and found to fail, and every mode names the same texts with comments. -/

namespace Json.Value

def member? (value : Value) (name : Text) : Option Value :=
  match value with
  | object members => members.lookup name
  | _ => none

def path? (value : Value) : Option Text :=
  match value.member? "path".toList with
  | some (string path) => some path
  | _ => none

def hadComments (value : Value) : Bool :=
  match value.member? "had_comments".toList with
  | some (bool hadComments) => hadComments
  | _ => false

end Json.Value

theorem Input.hadComments_value (input : Input) :
    input.value.hadComments = input.result.hadComments := by
  rfl

theorem Mode.flatMap_plainText {mode : Mode} (check : mode.check = true)
    (inputs : List Input) :
    (inputs.flatMap fun input => mode.plainText input.source input.result) =
      ((inputs.filter (·.result.hadComments)).map (·.source.label)).flatMap
        (· ++ ['\n']) := by
  induction inputs with
  | nil => rfl
  | cons input rest induction =>
      have line : mode.plainText input.source input.result =
          if input.result.hadComments then input.source.label ++ ['\n'] else [] :=
        if_pos check
      rw [List.flatMap_cons, induction, line]
      cases commented : input.result.hadComments <;> simp [commented]

namespace Options

/-- Two settings of the options that ask for the same search, and may differ in how it is
reported. -/
structure SameSearch (first second : Options) : Prop where
  types : first.types = second.types
  excludes : first.excludes = second.excludes
  maxBytes : first.maxBytes = second.maxBytes
  followLinks :
    first.flags.contains .followLinks = second.flags.contains .followLinks
  ignoreFiles :
    first.flags.contains .noIgnoreFiles = second.flags.contains .noIgnoreFiles
  paths : first.paths = second.paths

theorem SameSearch.request_eq {first second : Options} (same : first.SameSearch second) :
    second.request = first.request.map ({ · with mode := second.mode }) := by
  unfold request
  rw [same.types, same.excludes, same.maxBytes, same.followLinks, same.ignoreFiles,
    same.paths]
  cases Extension.select? second.types with
  | none => rfl
  | some extensions =>
      cases Exclusion.compile second.excludes <;> rfl

def search (options : Options) (environment : Environment) : Except RequestError Trace :=
  options.request.map fun request => request.selection.trace environment request.paths

def inputs (options : Options) (environment : Environment) : List Input :=
  match options.request with
  | .error _ => []
  | .ok request => request.inputs environment

def commented (options : Options) (environment : Environment) : List Text :=
  ((options.inputs environment).filter (·.result.hadComments)).map (·.source.label)

def report (options : Options) (environment : Environment) : Report :=
  match options.request with
  | .error error => ⟨{}, {}, some error.message⟩
  | .ok request => Program.report request environment

variable {options : Options} {environment : Environment}

theorem request_eq_ok {request : Request} (made : options.request = .ok request) :
    request.mode = options.mode ∧ request.paths = options.paths := by
  unfold Options.request at made
  cases selected : Extension.select? options.types with
  | none =>
      rw [selected] at made
      cases made
  | some extensions =>
      cases compiled : Exclusion.compile options.excludes with
      | error error =>
          rw [selected, compiled] at made
          cases made
      | ok globs =>
          rw [selected, compiled] at made
          cases made
          exact ⟨rfl, rfl⟩

theorem exitCode_run {arguments : List Text} (parsed : parse arguments = .ok options)
    (help : Text) :
    (Program.run environment arguments help).exitCode =
      if (options.report environment).failure.isSome ∨
          options.mode.check ∧ 0 < (options.report environment).tally.commented then 1
      else 0 := by
  cases made : options.request with
  | error error => simp [Program.run, report, parsed, made]
  | ok request =>
      have mode := (request_eq_ok made).1
      cases failed : (Program.report request environment).failure <;>
        simp [Program.run, Program.conclude, report, parsed, made, failed, mode]

theorem results_search {trace : Trace} (readable : Readable environment.stdin options.paths)
    (searched : options.search environment = .ok trace) :
    trace.results = (options.inputs environment).map Input.entry := by
  cases made : options.request with
  | error error =>
      rw [search, made] at searched
      cases searched
  | ok request =>
      rw [← (request_eq_ok made).2] at readable
      rw [search, made] at searched
      cases searched
      rw [inputs, made]
      exact (Request.results_search readable).1

theorem tally_report (readable : Readable environment.stdin options.paths) :
    (options.report environment).tally =
      ⟨(options.inputs environment).length, (options.commented environment).length⟩ := by
  rw [commented, List.length_map]
  cases made : options.request with
  | error error =>
      rw [report, inputs, made]
      rfl
  | ok request =>
      rw [← (request_eq_ok made).2] at readable
      rw [report, inputs, made]
      exact (Request.tally_report readable).trans (Tally.ofResults_entries _)

/-- A check writes the paths of the texts with comments, one on each line. -/
theorem stdout_report_check (check : options.mode.check = true)
    (json : options.mode.json = false)
    (readable : Readable environment.stdin options.paths) :
    (options.report environment).output.stdout =
      (options.commented environment).flatMap (· ++ ['\n']) := by
  cases made : options.request with
  | error error =>
      rw [report, commented, inputs, made]
      rfl
  | ok request =>
      rcases request_eq_ok made with ⟨mode, paths⟩
      rw [← mode] at check json
      rw [← paths] at readable
      rw [report, commented, inputs, made]
      exact (Request.stdout_report_plain json readable).trans
        (Mode.flatMap_plainText check (request.inputs environment))

/-- A report in JSON names the texts with comments, and no others if the mode passes over
them. -/
theorem entries_report (json : options.mode.json = true) (check : options.mode.check = false)
    (readable : Readable environment.stdin options.paths)
    (valid : ∃ request, options.request = .ok request) :
    ∃ entries,
      Json.read? (options.report environment).output.stdout = some (.array entries) ∧
      (entries.filter Json.Value.hadComments).map Json.Value.path? =
        (options.commented environment).map some ∧
      (options.mode.onlyCommented = true →
        entries.map Json.Value.path? = (options.commented environment).map some) := by
  rcases valid with ⟨request, made⟩
  rcases request_eq_ok made with ⟨mode, paths⟩
  rw [← mode] at json check
  rw [← paths] at readable
  rw [report, commented, inputs, made, ← mode]
  dsimp only
  refine ⟨_, Request.read?_report json check readable, ?_, ?_⟩
  · rw [List.filter_map, List.map_map, List.filter_filter, List.map_map]
    congr 1
    apply List.filter_congr
    intro input _
    rw [Function.comp_apply, input.hadComments_value, Mode.shows]
    cases input.result.hadComments <;> simp
  · intro onlyCommented
    rw [List.map_map, List.map_map]
    congr 1
    apply List.filter_congr
    intro input _
    simp [Mode.shows, onlyCommented]

namespace SameSearch

variable {first second : Options} (same : first.SameSearch second) (environment : Environment)

include same

theorem search_eq : second.search environment = first.search environment := by
  rw [search, search, same.request_eq]
  cases first.request <;> rfl

theorem inputs_eq : second.inputs environment = first.inputs environment := by
  rw [inputs, inputs, same.request_eq]
  cases first.request <;> rfl

theorem failure_eq (readable : Readable environment.stdin first.paths) :
    (second.report environment).failure = (first.report environment).failure := by
  rw [report, report, same.request_eq]
  cases made : first.request with
  | error error => rfl
  | ok request =>
      rw [← (request_eq_ok made).2] at readable
      exact Request.failure_report_withMode second.mode readable

theorem stderr_eq (readable : Readable environment.stdin first.paths)
    (verbose : first.mode.verbose = second.mode.verbose) :
    (second.report environment).output.stderr = (first.report environment).output.stderr := by
  rw [report, report, same.request_eq]
  cases made : first.request with
  | error error => rfl
  | ok request =>
      rcases request_eq_ok made with ⟨mode, paths⟩
      rw [← paths] at readable
      rw [← mode] at verbose
      exact Request.stderr_report_withMode verbose.symm readable

end SameSearch

end Options

namespace Program

/-- Two runs that differ only in how they are reported look at the same entries and strip
the same texts, count the same and end in the same error. What a check writes are the paths
of the objects with comments in a report in JSON. -/
theorem modes_agree {first second : Options} {environment : Environment}
    (same : first.SameSearch second)
    (readable : Readable environment.stdin first.paths) :
    let inputs := first.inputs environment
    let commented := first.commented environment
    let report := first.report environment
    let other := second.report environment
    first.search environment = second.search environment ∧
    (∀ trace, first.search environment = .ok trace →
      trace.results = inputs.map Input.entry) ∧
    report.tally = other.tally ∧
    report.tally = ⟨inputs.length, commented.length⟩ ∧
    commented.length ≤ inputs.length ∧
    report.failure = other.failure ∧
    (first.mode.verbose = second.mode.verbose →
      report.output.stderr = other.output.stderr) ∧
    (first.mode.check = true → first.mode.json = false →
      report.output.stdout = commented.flatMap (· ++ ['\n'])) ∧
    (second.mode.json = true → second.mode.check = false →
      (∃ request, second.request = .ok request) →
      ∃ entries, Json.read? other.output.stdout = some (.array entries) ∧
        (entries.filter Json.Value.hadComments).map Json.Value.path? = commented.map some ∧
        (second.mode.onlyCommented = true →
          entries.map Json.Value.path? = commented.map some)) ∧
    ∀ arguments help, Options.parse arguments = .ok first →
      (run environment arguments help).exitCode =
        if report.failure.isSome ∨ first.mode.check ∧ commented ≠ [] then 1 else 0 := by
  intro inputs commented report other
  have readableOther : Readable environment.stdin second.paths := same.paths ▸ readable
  have sameInputs : second.inputs environment = inputs := same.inputs_eq environment
  have sameCommented : second.commented environment = commented :=
    congrArg (fun inputs => (inputs.filter (·.result.hadComments)).map (·.source.label))
      sameInputs
  have tally : report.tally = ⟨inputs.length, commented.length⟩ :=
    Options.tally_report readable
  have otherTally := Options.tally_report readableOther
  rw [sameInputs, sameCommented, ← tally] at otherTally
  refine ⟨(same.search_eq environment).symm, fun trace => Options.results_search readable,
    otherTally.symm, tally, ?_, (same.failure_eq environment readable).symm,
    fun verbose => (same.stderr_eq environment readable verbose).symm,
    fun check json => Options.stdout_report_check check json readable, ?_, ?_⟩
  · have fewer := List.length_filter_le (·.result.hadComments) inputs
    exact (List.length_map _).trans_le fewer
  · intro json check valid
    rw [← sameCommented]
    exact Options.entries_report json check readableOther valid
  · intro arguments help parsed
    have some : 0 < (first.report environment).tally.commented ↔ commented ≠ [] := by
      rw [Options.tally_report readable]
      exact List.length_pos_iff
    simp only [Options.exitCode_run parsed, some, report]

private def checking : Options where
  flags := [.check]
  types := ["c".toList]
  paths := ["-", "gone", "/"].map (Utf8.encode ·.toList)

private def listing : Options := { checking with flags := [.json, .onlyCommented] }

private def mixedFiles : Environment where
  root := .directory [
    (Utf8.encode "a.c".toList, .file (.ofBytes (Utf8.encode "a; // x\n".toList))),
    (Utf8.encode "b.c".toList, .file (.ofBytes (Utf8.encode "b;\n".toList))),
    (Utf8.encode "c.c".toList, .file ⟨some 1, .error .inputOutput⟩),
    (Utf8.encode "d.c".toList, .file (.ofBytes (Utf8.encode "/* y */".toList)))]
  stdin := .ok (Utf8.encode "plain\n".toList)

theorem modes_agree_listing :
    checking.SameSearch listing ∧ Readable mixedFiles.stdin checking.paths ∧
      (checking.report mixedFiles).output.stdout = "a.c\nd.c\n".toList ∧
      (∃ entries,
        Json.read? (listing.report mixedFiles).output.stdout = some (.array entries) ∧
          entries.map Json.Value.path? = [some "a.c".toList, some "d.c".toList]) ∧
      (checking.report mixedFiles).tally = ⟨4, 2⟩ ∧
      (listing.report mixedFiles).tally = ⟨4, 2⟩ ∧
      (run mixedFiles ["--check".toList, "-tc".toList, "-".toList, "gone".toList,
        "/".toList]).exitCode = 1 := by
  have same : checking.SameSearch listing := ⟨rfl, rfl, rfl, rfl, rfl, rfl⟩
  have readable : Readable mixedFiles.stdin checking.paths := fun _ => ⟨_, rfl⟩
  have inputs : (checking.inputs mixedFiles).length = 4 := by decide +kernel
  have commented : checking.commented mixedFiles = ["a.c".toList, "d.c".toList] := by
    decide +kernel
  have parsed : Options.parse ["--check".toList, "-tc".toList, "-".toList, "gone".toList,
      "/".toList] = .ok checking := by decide +kernel
  have valid : ∃ request, listing.request = .ok request := ⟨_, rfl⟩
  rcases modes_agree same readable with
    ⟨_, _, sameTally, tally, _, _, _, check, entries, exitCode⟩
  rw [commented] at tally check entries
  rw [inputs] at tally
  rcases entries (by decide) (by decide) valid with ⟨written, read, _, paths⟩
  refine ⟨same, readable, check (by decide) (by decide), ⟨written, read, paths (by decide)⟩,
    tally, sameTally.symm.trans tally, ?_⟩
  rw [exitCode _ _ parsed, commented]
  exact if_pos (.inr ⟨rfl, List.cons_ne_nil _ _⟩)

end Program

end Uncomment
