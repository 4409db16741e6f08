import Uncomment.Run.Event
import Uncomment.Text.JsonString
import Uncomment.Text.Quoted

namespace Uncomment

/-! How a run is reported. -/

structure Mode where
  json : Bool := false
  check : Bool := false
  onlyCommented : Bool := false
  endMarker : Bool := false
  verbose : Bool := false
deriving DecidableEq, Repr

structure Tally where
  files : Nat := 0
  commented : Nat := 0
deriving DecidableEq, Repr

namespace Tally

def record (tally : Tally) (hadComments : Bool) : Tally where
  files := tally.files + 1
  commented := if hadComments then tally.commented + 1 else tally.commented

def message (tally : Tally) : Text :=
  "Filtered ".toList ++ Decimal.write tally.files ++ " file(s), ".toList ++
    Decimal.write tally.commented ++ " had comments".toList

end Tally

structure Output where
  stdout : Text := []
  stderr : List Text := []
deriving DecidableEq, Repr

namespace Output

def append (first second : Output) : Output :=
  ⟨first.stdout ++ second.stdout, first.stderr ++ second.stderr⟩

instance : Append Output := ⟨append⟩

def line (message : Text) : Output := { stderr := [message] }

end Output

/-! ## Single texts -/

def jsonEntry (source : Source) (result : Stripped) : Text :=
  let field (name : String) (value : Text) := JsonString.write name.toList ++ ':' :: value
  let hadComments := if result.hadComments then "true".toList else "false".toList
  '{' :: [','].intercalate [
    field "path" (JsonString.write source.label),
    field "file_name" (JsonString.write source.name),
    field "had_comments" hadComments,
    field "content" (JsonString.write result.output)] ++ ['}']

def framed (mode : Mode) (label output : Text) : Text :=
  let head := "========== FILE: ".toList ++ label ++ " ==========\n".toList
  let lineBreak := if output.getLast? = some '\n' then [] else ['\n']
  let foot :=
    if mode.endMarker then "========== END FILE: ".toList ++ label ++ " ==========\n".toList
    else []
  head ++ output ++ lineBreak ++ foot ++ ['\n']

/-- The text of a source that is written as it is: the standard input bare, so that the
program can stand in a pipe. -/
def plainEntry (mode : Mode) (source : Source) (result : Stripped) : Text :=
  match source with
  | .stdin => result.output
  | .file label _ => framed mode label result.output

/-! ## Runs -/

/-- What is known in the middle of a report. `separates` tells that an object has been
written, which the next one is set off from. -/
structure Progress where
  separates : Bool := false
  tally : Tally := {}
deriving DecidableEq, Repr

namespace Mode

def writeText (mode : Mode) (progress : Progress) (source : Source) (result : Stripped) :
    Output × Progress :=
  let progress := { progress with tally := progress.tally.record result.hadComments }
  let finding := if result.hadComments then ": comments removed" else ": no comments"
  let stderr := if mode.verbose then [source.label ++ finding.toList] else []
  if mode.check then
    let stdout := if result.hadComments then source.label ++ ['\n'] else []
    (⟨stdout, stderr⟩, progress)
  else if mode.onlyCommented && !result.hadComments then
    (⟨[], stderr⟩, progress)
  else if mode.json then
    let separator := if progress.separates then [',', '\n'] else []
    (⟨separator ++ jsonEntry source result, stderr⟩, { progress with separates := true })
  else
    (⟨plainEntry mode source result, stderr⟩, progress)

def writeEvent (mode : Mode) (progress : Progress) : Event → Output × Progress
  | .stripped source result => mode.writeText progress source result
  | .oversized label size limit =>
      (.line ("Skipping ".toList ++ label ++ " (size ".toList ++ Decimal.write size ++
        " bytes > max ".toList ++ Decimal.write limit ++ " bytes)".toList), progress)
  | .unreadable failure =>
      (.line ("Error printing ".toList ++ failure.label ++ ": ".toList ++ failure.message),
        progress)
  | .lostRoot argument error =>
      (.line ("Skipping root ".toList ++ Quoted.write argument ++ ": ".toList ++
        error.message), progress)
  | .lostEntry fault => (.line ("Walk error: ".toList ++ fault.message), progress)
  | .badIgnoreFiles faults =>
      (.line ("Walk error: ".toList ++ ['\n'].intercalate (faults.map Ignore.Fault.message)),
        progress)

def writeEvents (mode : Mode) (progress : Progress) : List Event → Output × Progress
  | [] => ({}, progress)
  | event :: rest =>
      let (output, progress) := mode.writeEvent progress event
      let (others, progress) := mode.writeEvents progress rest
      (output ++ others, progress)

end Mode

structure Report where
  output : Output
  tally : Tally
  failure : Option Text
deriving DecidableEq, Repr

namespace Report

def incomplete : Text :=
  "One or more files could not be read. See stderr for details.".toList

def aborted (error : OsError) : Text :=
  "Failed to filter stdin: Failed to read stdin: ".toList ++ error.message

def ofTrace (mode : Mode) (trace : Trace) : Report :=
  let head : Output := { stdout := if mode.json then ['[', '\n'] else [] }
  let (body, progress) := mode.writeEvents {} trace.events
  match trace.aborted with
  -- The closing lines are missing from a run that was cut short.
  | some error => ⟨head ++ body, progress.tally, some (aborted error)⟩
  | none =>
      let foot : Output := {
        stdout := if mode.json then ['\n', ']', '\n'] else []
        stderr := if mode.verbose then [progress.tally.message] else [] }
      let failure := if trace.events.any Event.isFailure then some incomplete else none
      ⟨head ++ body ++ foot, progress.tally, failure⟩

end Report

end Uncomment
