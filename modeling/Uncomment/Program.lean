import Uncomment.Options.Parser
import Uncomment.Run.Report
import Uncomment.Run.Selection

namespace Uncomment

/-! The program: arguments and an environment in, output and an exit code out. Arguments are
texts here, while a request may be about paths of any bytes. The text that is shown when
help is asked for is handed in, and of a usage error only the first line is told. -/

structure Request where
  selection : Selection
  mode : Mode
  paths : List Path

def Request.report (request : Request) (tours : Tours) (stdin : Except OsError Bytes) : Report :=
  .ofTrace request.mode (request.selection.search tours stdin request.paths)

inductive RequestError
  | noExtension
  | badExclude (error : Exclusion.Error)
deriving DecidableEq, Repr

def RequestError.message : RequestError → Text
  | .noExtension => "No valid extensions provided (after normalisation).".toList
  | .badExclude error => error.message

namespace Options

def mode (options : Options) : Mode where
  json := options.flags.contains .json
  check := options.flags.contains .check
  onlyCommented := options.flags.contains .onlyCommented
  endMarker := options.flags.contains .endMarker
  verbose := options.flags.contains .verbose

def request (options : Options) : Except RequestError Request :=
  match Extension.select? options.types, Exclusion.compile options.excludes with
  | none, _ => .error .noExtension
  | some _, .error error => .error (.badExclude error)
  | some extensions, .ok excludes => .ok {
      mode := options.mode
      paths := options.paths
      selection := {
        extensions, excludes
        maxBytes := options.maxBytes
        followLinks := options.flags.contains .followLinks
        ignoreFiles := !options.flags.contains .noIgnoreFiles } }

end Options

structure Outcome where
  exitCode : Nat
  output : Output
deriving DecidableEq, Repr

namespace Program

def versionLine : Text := "ccf 0.1.0\n".toList

def errorLine (message : Text) : Output := .line ("Error: ".toList ++ message)

def report (request : Request) (environment : Environment) : Report :=
  request.report (request.selection.tour environment) environment.stdin

def conclude (mode : Mode) (report : Report) : Outcome :=
  match report.failure with
  | some message => ⟨1, report.output ++ errorLine message⟩
  | none => ⟨if mode.check && 0 < report.tally.commented then 1 else 0, report.output⟩

def run (environment : Environment) (arguments : List Text) (help : Text := []) : Outcome :=
  match Options.parse arguments with
  | .error .version => ⟨0, { stdout := versionLine }⟩
  | .error .help => ⟨0, { stdout := help }⟩
  | .error (.fault error) => ⟨2, .line error.message⟩
  | .ok options =>
      match options.request with
      | .error error => ⟨1, errorLine error.message⟩
      | .ok request => conclude request.mode (report request environment)

end Program

end Uncomment
