import Uncomment.Proofs.Run.JsonReport

namespace Uncomment

/-! What a run writes, counts and ends in, told from the texts that it strips. What is
counted and how the run ends does not depend on the mode. -/

namespace Tally

def add (first second : Tally) : Tally :=
  ⟨first.files + second.files, first.commented + second.commented⟩

instance : Add Tally := ⟨add⟩

theorem add_def (first second : Tally) :
    first + second =
      ⟨first.files + second.files, first.commented + second.commented⟩ := rfl

def ofResults (results : List (Source × Stripped)) : Tally where
  files := results.length
  commented := (results.filter (·.2.hadComments)).length

theorem ofResults_append (front back : List (Source × Stripped)) :
    ofResults (front ++ back) = ofResults front + ofResults back := by
  rw [ofResults, List.length_append, List.filter_append, List.length_append]
  rfl

theorem ofResults_entries (inputs : List Input) :
    ofResults (inputs.map Input.entry) =
      ⟨inputs.length, (inputs.filter (·.result.hadComments)).length⟩ := by
  rw [ofResults, List.length_map, List.filter_map, List.length_map]
  rfl

theorem record_eq (tally : Tally) (source : Source) (result : Stripped) :
    tally.record result.hadComments = tally + ofResults [(source, result)] := by
  cases commented : result.hadComments <;>
    simp [record, ofResults, add_def, commented]

theorem zero_add (tally : Tally) : ({} : Tally) + tally = tally := by
  simp [add_def]

theorem add_assoc (first second third : Tally) :
    first + second + third = first + (second + third) := by
  simp [add_def, Nat.add_assoc]

end Tally

namespace Event

def remarks (verbose : Bool) (event : Event) : List Text :=
  (({ verbose } : Mode).writeEvent {} event).1.stderr

theorem results_cons (event : Event) (rest : List Event) :
    (event :: rest).filterMap result? = event.result?.toList ++ rest.filterMap result? := by
  rw [List.filterMap_cons]
  cases event.result? <;> rfl

end Event

namespace Mode

variable {mode : Mode}

def plainText (mode : Mode) (source : Source) (result : Stripped) : Text :=
  if mode.check then
    if result.hadComments then source.label ++ ['\n'] else []
  else if mode.shows result then plainEntry mode source result
  else []

/-! ## One event -/

theorem tally_writeText (mode : Mode) (progress : Progress) (source : Source)
    (result : Stripped) :
    (mode.writeText progress source result).2.tally =
      progress.tally.record result.hadComments := by
  unfold writeText
  dsimp only
  split_ifs <;> rfl

theorem stdout_writeText_plain (json : mode.json = false) (progress : Progress)
    (source : Source) (result : Stripped) :
    (mode.writeText progress source result).1.stdout = mode.plainText source result := by
  unfold writeText plainText shows
  rw [json]
  dsimp only
  cases mode.check <;> cases mode.onlyCommented <;> cases result.hadComments <;> rfl

theorem stderr_writeText (mode : Mode) (progress : Progress) (source : Source)
    (result : Stripped) :
    (mode.writeText progress source result).1.stderr =
      (Event.stripped source result).remarks mode.verbose := by
  unfold Event.remarks writeEvent writeText
  dsimp only
  split_ifs <;> rfl

theorem tally_writeEvent (mode : Mode) (progress : Progress) (event : Event) :
    (mode.writeEvent progress event).2.tally =
      progress.tally + Tally.ofResults event.result?.toList := by
  cases event with
  | stripped source result =>
      exact (mode.tally_writeText progress source result).trans (Tally.record_eq _ _ _)
  | _ => rfl

theorem stdout_writeEvent_plain (json : mode.json = false) (progress : Progress)
    (event : Event) :
    (mode.writeEvent progress event).1.stdout =
      event.result?.toList.flatMap fun (source, result) => mode.plainText source result := by
  cases event with
  | stripped source result =>
      exact (stdout_writeText_plain json progress source result).trans
        (List.append_nil _).symm
  | _ => rfl

theorem stderr_writeEvent (mode : Mode) (progress : Progress) (event : Event) :
    (mode.writeEvent progress event).1.stderr = event.remarks mode.verbose := by
  cases event with
  | stripped source result => exact mode.stderr_writeText progress source result
  | _ => rfl

/-! ## All events -/

theorem tally_writeEvents (mode : Mode) (progress : Progress) (events : List Event) :
    (mode.writeEvents progress events).2.tally =
      progress.tally + Tally.ofResults (events.filterMap Event.result?) := by
  induction events generalizing progress with
  | nil => rfl
  | cons event rest induction =>
      have later := induction (mode.writeEvent progress event).2
      rw [tally_writeEvent, Tally.add_assoc, ← Tally.ofResults_append] at later
      rw [Event.results_cons]
      exact later

theorem stdout_writeEvents_plain (json : mode.json = false) (progress : Progress)
    (events : List Event) :
    (mode.writeEvents progress events).1.stdout =
      (events.filterMap Event.result?).flatMap fun (source, result) =>
        mode.plainText source result := by
  induction events generalizing progress with
  | nil => rfl
  | cons event rest induction =>
      have later := induction (mode.writeEvent progress event).2
      rw [Event.results_cons, List.flatMap_append, ← later,
        ← stdout_writeEvent_plain json progress event]
      rfl

/-- Besides the stripped texts, nothing is written on the standard output. -/
theorem stdout_writeEvents_results (mode : Mode) (progress : Progress)
    (events : List Event) :
    (mode.writeEvents progress events).1.stdout =
      (mode.writeEvents progress ((events.filterMap Event.result?).map fun (source, result) =>
        .stripped source result)).1.stdout := by
  induction events generalizing progress with
  | nil => rfl
  | cons event rest induction =>
      cases event with
      | stripped source result =>
          exact congrArg ((mode.writeText progress source result).1.stdout ++ ·)
            (induction (mode.writeText progress source result).2)
      | _ => exact induction progress

theorem stderr_writeEvents (mode : Mode) (progress : Progress) (events : List Event) :
    (mode.writeEvents progress events).1.stderr =
      events.flatMap (·.remarks mode.verbose) := by
  induction events generalizing progress with
  | nil => rfl
  | cons event rest induction =>
      have later := induction (mode.writeEvent progress event).2
      rw [List.flatMap_cons, ← later, ← stderr_writeEvent mode progress event]
      rfl

end Mode

/-! ## Reports -/

namespace Report

variable (mode : Mode) (trace : Trace)

theorem tally_ofTrace : (ofTrace mode trace).tally = Tally.ofResults trace.results := by
  have counted := mode.tally_writeEvents {} trace.events
  rw [Tally.zero_add] at counted
  unfold ofTrace
  cases trace.aborted <;> exact counted

variable {mode}

theorem stdout_ofTrace_plain (json : mode.json = false) :
    (ofTrace mode trace).output.stdout =
      trace.results.flatMap fun (source, result) => mode.plainText source result := by
  have written := mode.stdout_writeEvents_plain json {} trace.events
  unfold ofTrace
  rw [json]
  cases trace.aborted with
  | some error => exact written
  | none => exact (List.append_nil _).trans written

variable (mode) in
theorem stdout_ofTrace_congr {first second : Trace} (results : first.results = second.results)
    (firstEnded : first.aborted = none) (secondEnded : second.aborted = none) :
    (ofTrace mode first).output.stdout = (ofTrace mode second).output.stdout := by
  have written : (mode.writeEvents {} first.events).1.stdout =
      (mode.writeEvents {} second.events).1.stdout := by
    rw [mode.stdout_writeEvents_results, mode.stdout_writeEvents_results {} second.events]
    exact congrArg (fun results : List (Source × Stripped) =>
      (mode.writeEvents {} (results.map fun (source, result) =>
        .stripped source result)).1.stdout) results
  unfold ofTrace
  rw [firstEnded, secondEnded]
  exact congrArg (fun body : Text => (if mode.json then ['[', '\n'] else []) ++ body ++
    if mode.json then ['\n', ']', '\n'] else []) written

/-- The error output depends on the mode by its verbosity alone. -/
theorem stderr_ofTrace (ended : trace.aborted = none) :
    (ofTrace mode trace).output.stderr =
      trace.events.flatMap (·.remarks mode.verbose) ++
        if mode.verbose then [(Tally.ofResults trace.results).message] else [] := by
  have written := mode.stderr_writeEvents {} trace.events
  have counted := tally_ofTrace mode trace
  unfold ofTrace at counted ⊢
  rw [ended] at counted ⊢
  dsimp only at counted ⊢
  rw [← counted, ← written]
  rfl

theorem failure_ofTrace (ended : trace.aborted = none) :
    (ofTrace mode trace).failure =
      if trace.events.any Event.isFailure then some incomplete else none := by
  unfold ofTrace
  rw [ended]

end Report

namespace Request

variable {request : Request} {tours : Tours} {stdin : Except OsError Bytes}

theorem tally_report (readable : Readable stdin request.paths) :
    (request.report tours stdin).tally =
      Tally.ofResults ((request.inputsOf tours stdin).map Input.entry) := by
  rw [← (results_search readable).1]
  exact Report.tally_ofTrace _ _

theorem stdout_report_plain (json : request.mode.json = false)
    (readable : Readable stdin request.paths) :
    (request.report tours stdin).output.stdout =
      (request.inputsOf tours stdin).flatMap fun input =>
        request.mode.plainText input.source input.result := by
  have written := Report.stdout_ofTrace_plain
    (request.selection.search tours stdin request.paths) json
  rw [(results_search readable).1, List.flatMap_map] at written
  exact written

theorem stderr_report (readable : Readable stdin request.paths) :
    (request.report tours stdin).output.stderr =
      (request.selection.search tours stdin request.paths).events.flatMap
          (·.remarks request.mode.verbose) ++
        if request.mode.verbose then
          [(Tally.ofResults (request.selection.search tours stdin request.paths).results).message]
        else [] :=
  Report.stderr_ofTrace _ (results_search readable).2

theorem failure_report (readable : Readable stdin request.paths) :
    (request.report tours stdin).failure =
      if (request.selection.search tours stdin request.paths).events.any Event.isFailure then
        some Report.incomplete
      else none :=
  Report.failure_ofTrace _ (results_search readable).2

/-- The failure is read off the steps of the run. -/
theorem failure_report_withMode (mode : Mode) (readable : Readable stdin request.paths) :
    ({ request with mode }.report tours stdin).failure =
      (request.report tours stdin).failure := by
  have changed : Readable stdin { request with mode }.paths := readable
  rw [failure_report changed, failure_report readable]

theorem stderr_report_withMode {mode : Mode} (verbose : mode.verbose = request.mode.verbose)
    (readable : Readable stdin request.paths) :
    ({ request with mode }.report tours stdin).output.stderr =
      (request.report tours stdin).output.stderr := by
  have changed : Readable stdin { request with mode }.paths := readable
  rw [stderr_report changed, stderr_report readable, verbose]

variable {other : Request} {elsewhere : Tours}

theorem stdout_report_congr (mode : other.mode = request.mode)
    (inputs : other.inputsOf elsewhere stdin = request.inputsOf tours stdin)
    (readable : Readable stdin request.paths) (otherReadable : Readable stdin other.paths) :
    (other.report elsewhere stdin).output.stdout =
      (request.report tours stdin).output.stdout := by
  rcases results_search readable with ⟨results, ended⟩
  rcases results_search otherReadable with ⟨otherResults, otherEnded⟩
  rw [report, report, mode]
  refine Report.stdout_ofTrace_congr _ ?_ otherEnded ended
  rw [results, otherResults, inputs]

theorem tally_report_congr
    (inputs : other.inputsOf elsewhere stdin = request.inputsOf tours stdin)
    (readable : Readable stdin request.paths) (otherReadable : Readable stdin other.paths) :
    (other.report elsewhere stdin).tally = (request.report tours stdin).tally := by
  rw [tally_report readable, tally_report otherReadable, inputs]

end Request

end Uncomment
