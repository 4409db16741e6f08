import Uncomment.Snapshot

open Uncomment

def main (arguments : List String) : IO UInt32 := do
  let arguments := arguments.map String.toList
  let environment ← match Options.parse arguments with
    | .ok options => Snapshot.environment options
    | .error _ => pure { root := .directory [] }
  let outcome := Program.run environment arguments
  for message in outcome.output.stderr do
    IO.eprintln (String.ofList message)
  IO.print (String.ofList outcome.output.stdout)
  return UInt32.ofNat outcome.exitCode
