import Uncomment.Glob.Use
import Uncomment.Ignore.Rule
import Uncomment.Tree.Basic

namespace Uncomment

namespace Ignore

/-! What reading an ignore file gives: its rules, and what is wrong with it. -/

/-! ## Faults -/

inductive LineFault
  | notText
  | badGlob (rule : Text) (cause : Glob.Error)
deriving DecidableEq, Repr

inductive FileFault
  | notText
  | unreadable (error : OsError)
deriving DecidableEq, Repr

inductive Fault
  | line (path : Path) (number : Nat) (fault : LineFault)
  | file (path : Path) (fault : FileFault)
  | globs (error : Glob.UseError)
deriving DecidableEq, Repr

def notTextMessage : Text := "stream did not contain valid UTF-8".toList

def LineFault.message : LineFault → Text
  | notText => notTextMessage
  | badGlob rule cause => cause.message rule

def FileFault.message : FileFault → Text
  | notText => notTextMessage
  | unreadable error => error.message

def Fault.message : Fault → Text
  | line path number fault =>
      Utf8.decodeLossy path ++ ": line ".toList ++ Decimal.write number ++ ": ".toList ++
        fault.message
  | file path fault => Utf8.decodeLossy path ++ ": ".toList ++ fault.message
  | globs error => error.message

/-! ## Lines -/

def newline : UInt8 := 0x0A

def carriageReturn : UInt8 := 0x0D

def lines (content : Bytes) : List Bytes :=
  let pieces := content.splitOn newline
  let ended := pieces.dropLast.map fun piece =>
    if piece.getLast? = some carriageReturn then piece.dropLast else piece
  ended ++ pieces.getLast?.toList

/-! ## Files -/

structure Contents where
  rules : List Rule := []
  faults : List Fault := []

namespace Contents

def addRule (contents : Contents) (rule : Rule) : Contents :=
  { contents with rules := rule :: contents.rules }

def addFault (contents : Contents) (fault : Fault) : Contents :=
  { contents with faults := fault :: contents.faults }

/-- Reads some lines, of which the first one has the given number. A line that is not
valid UTF-8 is the last one read. Byte order marks may lead the first line. -/
def ofLines (path : Path) (number : Nat) : List Bytes → Contents
  | [] => {}
  | line :: rest =>
      match Utf8.decode? line with
      | none => { faults := [.line path number .notText] }
      | some text =>
          let text := if number = 1 then text.dropWhile (· == '\uFEFF') else text
          let others := ofLines path (number + 1) rest
          match Line.rule? text with
          | none => others
          | some rule =>
              match Rule.parse rule with
              | .ok parsed => others.addRule parsed
              | .error cause => others.addFault (.line path number (.badGlob rule cause))

def hushed (contents : Contents) : Contents :=
  match contents.faults with
  -- Nobody is told of a line that is no text, if nothing else is wrong.
  | [.line _ _ .notText] => { contents with faults := [] }
  | _ => contents

def checked (contents : Contents) : Contents :=
  match Glob.useError? dialect (contents.rules.map Rule.glob) with
  | none => contents
  | some error => ⟨[], contents.faults ++ [.globs error]⟩

def ofBytes (path : Path) (content : Bytes) : Contents :=
  (ofLines path 1 (lines content)).hushed.checked

def read (path : Path) : Option (Except OsError Bytes) → Contents
  | some (.ok content) => ofBytes path content
  | _ => {}

end Contents

end Ignore

end Uncomment
