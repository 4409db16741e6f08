import Uncomment.Glob.Parser
import Uncomment.Text.Blank

namespace Uncomment

namespace Ignore

/-! The rules of an ignore file, one a line. -/

def dialect : Glob.Dialect := { crosses := false, bareBracket := true }

/-- A rule about the paths that match its glob. It tells to ignore them, or to keep
them in spite of earlier rules; `directoriesOnly` rules say nothing about files. -/
structure Rule where
  glob : Glob
  keeps : Bool
  directoriesOnly : Bool

structure Line where
  pattern : Text
  keeps : Bool
  anchored : Bool
  directoriesOnly : Bool
deriving DecidableEq, Repr

namespace Line

def ofFront : Text → Line
  -- The backslash keeps a first `!` or `#` from having its meaning.
  | '\\' :: '!' :: rest => ⟨'!' :: rest, false, false, false⟩
  | '\\' :: '#' :: rest => ⟨'#' :: rest, false, false, false⟩
  | '!' :: '/' :: rest => ⟨rest, true, true, false⟩
  | '!' :: rest => ⟨rest, true, false, false⟩
  | '/' :: rest => ⟨rest, false, true, false⟩
  | rest => ⟨rest, false, false, false⟩

def ofBack (line : Line) : Line :=
  match line.pattern.reverse with
  | '/' :: '\\' :: rest => { line with pattern := rest.reverse, directoriesOnly := true }
  | '/' :: rest => { line with pattern := rest.reverse, directoriesOnly := true }
  | _ => line

def trimEnd (text : Text) : Text :=
  match text.reverse with
  -- An escaped space keeps all the white space at the end.
  | ' ' :: '\\' :: _ => text
  | _ => Text.trimTrailing Text.isBlank text

def rule? (text : Text) : Option Text :=
  if text.head? = some '#' then none
  else
    match trimEnd text with
    | [] => none
    | rule => some rule

def ofRule (rule : Text) : Line := ofBack (ofFront rule)

/-- The glob that the rule stands for. A name alone is looked for at any depth. Two stars
at the end stand for what is inside a directory, and not for the directory. -/
def globText (line : Line) : Text :=
  let pattern := line.pattern
  let anywhere := !line.anchored && !pattern.contains '/' && pattern != ['*', '*']
  let pattern := if anywhere then '*' :: '*' :: '/' :: pattern else pattern
  if ['/', '*', '*'].isSuffixOf pattern then pattern ++ ['/', '*'] else pattern

end Line

example : (Line.ofRule "!/build/".toList).globText = "build".toList := rfl

example : Line.rule? "a\\ ".toList = some "a\\ ".toList := rfl

example : (Line.ofRule "src/**".toList).globText = "src/**/*".toList := rfl

namespace Rule

def parse (rule : Text) : Except Glob.Error Rule := do
  let line := Line.ofRule rule
  return ⟨← Glob.parse dialect line.globText, line.keeps, line.directoriesOnly⟩

end Rule

end Ignore

end Uncomment
