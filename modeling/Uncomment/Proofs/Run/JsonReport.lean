import Uncomment.Proofs.Json.Spelling
import Uncomment.Proofs.Run.Inputs

namespace Uncomment

/-! What is written in a run that reports in JSON: one array with an object for each text. -/

namespace Input

def json (input : Input) : Text := jsonEntry input.source input.result

def value (input : Input) : Json.Value :=
  .object [
    ("path".toList, .string input.source.label),
    ("file_name".toList, .string input.source.name),
    ("had_comments".toList, .bool input.result.hadComments),
    ("content".toList, .string input.result.output)]

theorem spells_json (input : Input) : Json.Spells input.json input.value := by
  have hadComments :
      Json.Spells (if input.result.hadComments then "true".toList else "false".toList)
        (.bool input.result.hadComments) := by
    cases input.result.hadComments with
    | false => exact Json.spells_false
    | true => exact Json.spells_true
  apply Json.spells_object
  · exact ⟨_, rfl, Json.spells_string input.source.label⟩
  · apply List.Forall₂.cons ⟨_, rfl, Json.spells_string input.source.name⟩
    apply List.Forall₂.cons ⟨_, rfl, hadComments⟩
    apply List.Forall₂.cons ⟨_, rfl, Json.spells_string input.result.output⟩
    exact List.Forall₂.nil

end Input

/-! ## The separators -/

def joined (separates : Bool) (entries : List Text) : Text :=
  if separates then entries.flatMap ([',', '\n'] ++ ·) else [',', '\n'].intercalate entries

theorem joined_cons (separates : Bool) (entry : Text) (others : List Text) :
    joined separates (entry :: others) =
      (if separates then [',', '\n'] else []) ++ entry ++ joined true others := by
  cases separates with
  | true => exact List.flatMap_cons
  | false => exact Text.intercalate_cons _ entry others

namespace Mode

def shows (mode : Mode) (result : Stripped) : Bool :=
  !mode.onlyCommented || result.hadComments

def entry? (mode : Mode) (source : Source) (result : Stripped) : Option Text :=
  if mode.shows result then some (jsonEntry source result) else none

def addition? (mode : Mode) (event : Event) : Option Text :=
  event.result?.bind fun (source, result) => mode.entry? source result

variable {mode : Mode}

theorem writeEvent_of_silent (check : mode.check = false) {event : Event}
    (silent : mode.addition? event = none) (progress : Progress) :
    (mode.writeEvent progress event).1.stdout = [] ∧
      (mode.writeEvent progress event).2.separates = progress.separates := by
  cases event with
  | stripped source result =>
      have hidden : (mode.onlyCommented && !result.hadComments) = true := by
        simpa [addition?, entry?, Event.result?, shows] using silent
      simp [writeEvent, writeText, check, hidden]
  | _ => exact ⟨rfl, rfl⟩

theorem writeEvent_of_entry (json : mode.json = true) (check : mode.check = false)
    {event : Event} {entry : Text} (adds : mode.addition? event = some entry)
    (progress : Progress) :
    (mode.writeEvent progress event).1.stdout =
        (if progress.separates then [',', '\n'] else []) ++ entry ∧
      (mode.writeEvent progress event).2.separates = true := by
  cases event with
  | stripped source result =>
      have shown : mode.shows result = true ∧ jsonEntry source result = entry := by
        simpa [addition?, entry?, Event.result?] using adds
      have shownText : (mode.onlyCommented && !result.hadComments) = false := by
        simpa [shows, imp_iff_not_or] using shown.1
      simp [writeEvent, writeText, json, check, shown, shownText]
  | _ => cases adds

/-- The flag that is carried along tells apart the first object from the others, however
many events that add nothing stand between them. -/
theorem stdout_writeEvents (json : mode.json = true) (check : mode.check = false)
    (progress : Progress) (events : List Event) :
    (mode.writeEvents progress events).1.stdout =
      joined progress.separates (events.filterMap mode.addition?) := by
  induction events generalizing progress with
  | nil => cases progress.separates <;> rfl
  | cons event rest induction =>
      have stdout : (mode.writeEvents progress (event :: rest)).1.stdout =
          (mode.writeEvent progress event).1.stdout ++
            joined (mode.writeEvent progress event).2.separates
              (rest.filterMap mode.addition?) := by
        rw [← induction]
        rfl
      rw [stdout]
      cases adds : mode.addition? event with
      | none =>
          rcases writeEvent_of_silent check adds progress with ⟨written, separates⟩
          rw [List.filterMap_cons_none adds, written, separates, List.nil_append]
      | some entry =>
          rcases writeEvent_of_entry json check adds progress with ⟨written, separates⟩
          rw [List.filterMap_cons_some adds, written, separates, joined_cons]

/-! ## Reports -/

theorem filterMap_entry? (mode : Mode) (inputs : List Input) :
    (inputs.filterMap fun input => mode.entry? input.source input.result) =
      (inputs.filter (mode.shows ·.result)).map Input.json := by
  induction inputs with
  | nil => rfl
  | cons input rest induction =>
      by_cases shown : mode.shows input.result
      · have entry : mode.entry? input.source input.result = some input.json := if_pos shown
        simp [entry, shown, induction]
      · have entry : mode.entry? input.source input.result = none := if_neg shown
        simp [entry, shown, induction]

theorem filterMap_addition? (mode : Mode) {trace : Trace} {inputs : List Input}
    (results : trace.results = inputs.map Input.entry) :
    trace.events.filterMap mode.addition? =
      (inputs.filter (mode.shows ·.result)).map Input.json := by
  have additions : trace.events.filterMap mode.addition? =
      trace.results.filterMap fun (source, result) => mode.entry? source result :=
    List.filterMap_filterMap.symm
  rw [additions, results, List.filterMap_map]
  exact mode.filterMap_entry? inputs

end Mode

theorem Request.stdout_report {request : Request} {tours : Tours}
    {stdin : Except OsError Bytes} (json : request.mode.json = true)
    (check : request.mode.check = false) (readable : Readable stdin request.paths) :
    (request.report tours stdin).output.stdout =
      "[\n".toList ++ [',', '\n'].intercalate
        (((request.inputsOf tours stdin).filter (request.mode.shows ·.result)).map Input.json) ++
        "\n]\n".toList := by
  rcases Request.results_search readable with ⟨results, ended⟩
  have body := Mode.stdout_writeEvents json check {}
    (request.selection.search tours stdin request.paths).events
  rw [request.mode.filterMap_addition? results] at body
  unfold Request.report Report.ofTrace
  rw [ended, json]
  change "[\n".toList ++ _ ++ "\n]\n".toList = _
  rw [body]
  rfl

theorem Request.read?_report {request : Request} {tours : Tours}
    {stdin : Except OsError Bytes} (json : request.mode.json = true)
    (check : request.mode.check = false) (readable : Readable stdin request.paths) :
    Json.read? (request.report tours stdin).output.stdout =
      some (.array (((request.inputsOf tours stdin).filter (request.mode.shows ·.result)).map
        Input.value)) := by
  rw [Request.stdout_report json check readable]
  apply Json.read?_array
  rw [List.forall₂_map_left_iff, List.forall₂_map_right_iff, List.forall₂_same]
  exact fun input _ => input.spells_json

namespace Program

/-- A run in JSON writes one array, whatever cannot be found or read in it. There is one
object for each text that is stripped, or for each that had comments. -/
theorem report_json {request : Request} {environment : Environment}
    (json : request.mode.json = true) (check : request.mode.check = false)
    (readable : Readable environment.stdin request.paths) :
    let shown := (request.inputs environment).filter (request.mode.shows ·.result)
    let stdout := (report request environment).output.stdout
    stdout = "[\n".toList ++ [',', '\n'].intercalate (shown.map Input.json) ++
        "\n]\n".toList ∧
      Json.read? stdout = some (.array (shown.map Input.value)) :=
  ⟨Request.stdout_report json check readable, Request.read?_report json check readable⟩

private def commentedOnly : Request where
  selection := { extensions := ["c".toList] }
  mode := { json := true, onlyCommented := true }
  paths := ["-", "gone", "/"].map (Utf8.encode ·.toList)

private def threeFiles : Environment where
  root := .directory [
    (Utf8.encode "a.c".toList, .file (.ofBytes (Utf8.encode "a; // \"\n".toList))),
    (Utf8.encode "b.c".toList, .file (.ofBytes (Utf8.encode "b;\n".toList))),
    (Utf8.encode "c.c".toList, .file ⟨some 1, .error .inputOutput⟩)]
  stdin := .ok (Utf8.encode "\"\" /* y */\n".toList)

theorem report_json_commentedOnly :
    commentedOnly.mode.json = true ∧ commentedOnly.mode.check = false ∧
      Readable threeFiles.stdin commentedOnly.paths ∧
      Json.read? (report commentedOnly threeFiles).output.stdout = some (.array [
        .object [
          ("path".toList, .string "-".toList), ("file_name".toList, .string "-".toList),
          ("had_comments".toList, .bool true), ("content".toList, .string "\"\"\n".toList)],
        .object [
          ("path".toList, .string "a.c".toList), ("file_name".toList, .string "a.c".toList),
          ("had_comments".toList, .bool true), ("content".toList, .string "a;\n".toList)]]) := by
  have readable : Readable threeFiles.stdin commentedOnly.paths := fun _ => ⟨_, rfl⟩
  let read : Input := ⟨.stdin, Utf8.encode "\"\" /* y */\n".toList⟩
  let quoted : Input := ⟨.file "a.c".toList "a.c".toList, Utf8.encode "a; // \"\n".toList⟩
  let bare : Input := ⟨.file "b.c".toList "b.c".toList, Utf8.encode "b;\n".toList⟩
  have inputs : commentedOnly.inputs threeFiles = [read, quoted, bare] := by decide +kernel
  have readResult : read.result = ⟨"\"\"\n".toList, true⟩ := by decide +kernel
  have quotedResult : quoted.result = ⟨"a;\n".toList, true⟩ := by decide +kernel
  have bareResult : bare.result = ⟨"b;\n".toList, false⟩ := by decide +kernel
  refine ⟨rfl, rfl, readable, ?_⟩
  rw [(report_json rfl rfl readable).2, inputs]
  simp only [List.filter, Mode.shows, readResult, quotedResult, bareResult, commentedOnly,
    Bool.not_true, Bool.false_or, List.map_cons, List.map_nil, Input.value]
  rfl

end Program

end Uncomment
