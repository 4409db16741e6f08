import Uncomment.Glob.Match
import Uncomment.Glob.Parser
import Uncomment.Glob.Use
import Uncomment.Path.Relative
import Uncomment.Text.Blank
import Uncomment.Tree.Basic

namespace Uncomment

namespace Exclusion

/-! The globs by which a request leaves entries out. -/

def dialect : Glob.Dialect := { crosses := true, bareBracket := false }

inductive Error
  | badPattern (pattern : Text) (cause : Glob.Error)
  | unusable (error : Glob.UseError)
deriving DecidableEq, Repr

def Error.message : Error → Text
  | badPattern pattern cause =>
      "Invalid --exclude glob pattern: ".toList ++ pattern ++ ": ".toList ++
        cause.message pattern
  | unusable error => "Failed to build exclude glob set: ".toList ++ error.message

def parse : List Text → Except Error (List Glob)
  | [] => .ok []
  | pattern :: rest =>
      let pattern := pattern.trim
      if pattern.isEmpty then
        parse rest
      else
        match Glob.parse dialect pattern with
        | .error cause => .error (.badPattern pattern cause)
        | .ok glob => (parse rest).map (glob :: ·)

def compile (patterns : List Text) : Except Error (List Glob) :=
  match parse patterns with
  | .error error => .error error
  | .ok globs =>
      match Glob.useError? dialect globs with
      | some error => .error (.unusable error)
      | none => .ok globs

def hits (globs : List Glob) (relative : Text) : Bool :=
  globs.any (·.accepts dialect (Utf8.encode relative))

/-- Whether an entry is left out. A directory is also tried with a slash after its name,
so that a glob for all that is inside leaves out the directory as well. -/
def excludes (globs : List Glob) (relative : Text) (isDirectory : Bool) : Bool :=
  hits globs relative ||
    (isDirectory && relative.getLast? != some '/' && hits globs (relative ++ ['/']))

def relativeText (root place : Location) : Text :=
  Path.slashed ([Path.separator].intercalate (place.drop root.length))

end Exclusion

end Uncomment
