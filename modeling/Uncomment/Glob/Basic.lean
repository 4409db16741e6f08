import Uncomment.Text.Basic

namespace Uncomment

namespace Glob

/-! The parts of a glob, and what can be wrong with one. -/

structure Range where
  low : Char
  high : Char
deriving DecidableEq, Repr

/-- A part of a glob. The three kinds of `**` stand for whole path components:
`leadingDirs` at the start, together with the separator after it; `innerDirs` with
the separators on both its sides; `trailingDirs` with the separator before it. -/
inductive Token
  | literal (char : Char)
  | anyByte
  | anyRun
  | leadingDirs
  | innerDirs
  | trailingDirs
  | oneOf (negated : Bool) (ranges : List Range)
  | group (branches : List (List Token))

inductive Error
  | unclosedClass
  | emptyRange (range : Range)
  | unclosedGroup
  | unopenedGroup
  | danglingEscape
deriving DecidableEq, Repr

namespace Error

def reason : Error → Text
  | unclosedClass => "unclosed character class; missing ']'".toList
  | emptyRange range =>
      "invalid range; '".toList ++ [range.low] ++ "' > '".toList ++ [range.high, '\'']
  | unclosedGroup =>
      ("unclosed alternate group; missing '\x7d' " ++
        "(maybe escape '\x7b' with '[\x7b]'?)").toList
  | unopenedGroup =>
      ("unopened alternate group; missing '\x7b' " ++
        "(maybe escape '\x7d' with '[\x7d]'?)").toList
  | danglingEscape => "dangling '\\'".toList

def message (glob : Text) (error : Error) : Text :=
  "error parsing glob '".toList ++ glob ++ "': ".toList ++ error.reason

end Error

end Glob

structure Glob where
  tokens : List Glob.Token

namespace Glob

/-- What globs are read and matched by, which differs from one use of them to another.
`crosses` tells that `*` and `?` match a separator; `bareBracket` tells that an opening
bracket that no bracket closes stands for itself. -/
structure Dialect where
  crosses : Bool
  bareBracket : Bool
deriving DecidableEq, Repr

end Glob

end Uncomment
