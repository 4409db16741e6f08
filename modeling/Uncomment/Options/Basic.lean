import Uncomment.Path.Basic
import Uncomment.Text.Decimal
import Uncomment.Text.Escape

namespace Uncomment

/-! The options of the command line. -/

inductive Flag
  | followLinks
  | noIgnoreFiles
  | json
  | endMarker
  | onlyCommented
  | check
  | verbose
  | version
  | help
deriving DecidableEq, Repr

namespace Flag

def all : List Flag :=
  [followLinks, noIgnoreFiles, json, endMarker, onlyCommented, check, verbose, version, help]

def longName : Flag → Text
  | followLinks => "follow-symlinks".toList
  | noIgnoreFiles => "no-gitignore".toList
  | json => "json".toList
  | endMarker => "end-marker".toList
  | onlyCommented => "only-commented".toList
  | check => "check".toList
  | verbose => "verbose".toList
  | version => "version".toList
  | help => "help".toList

def shortName? : Flag → Option Char
  | verbose => some 'v'
  | version => some 'V'
  | help => some 'h'
  | _ => none

def usage (flag : Flag) : Text := "--".toList ++ flag.longName

end Flag

inductive Setting
  | type
  | exclude
  | maxBytes
deriving DecidableEq, Repr

namespace Setting

def all : List Setting := [type, exclude, maxBytes]

def longNames : Setting → List Text
  | type => ["type".toList, "ext".toList]
  | exclude => ["exclude".toList]
  | maxBytes => ["max-bytes".toList]

def shortName? : Setting → Option Char
  | type => some 't'
  | exclude => some 'E'
  | maxBytes => none

def usage : Setting → Text
  | type => "--type <EXT>".toList
  | exclude => "--exclude <GLOB>".toList
  | maxBytes => "--max-bytes <N>".toList

end Setting

inductive Opt
  | plain (flag : Flag)
  | valued (setting : Setting)
deriving DecidableEq, Repr

namespace Opt

def ofLongName? (name : Text) : Option Opt :=
  match Setting.all.find? (·.longNames.contains name) with
  | some setting => some (.valued setting)
  | none => (Flag.all.find? (·.longName == name)).map .plain

def ofShortName? (char : Char) : Option Opt :=
  match Setting.all.find? (·.shortName? == some char) with
  | some setting => some (.valued setting)
  | none => (Flag.all.find? (·.shortName? == some char)).map .plain

end Opt

structure Options where
  flags : List Flag := []
  types : List Text := []
  excludes : List Text := []
  maxBytes : Option Nat := none
  paths : List Path := []
deriving DecidableEq, Repr

inductive UsageError
  | unexpectedArgument (argument : Text)
  | missingValue (option : Text)
  | unexpectedValue (value option : Text)
  | repeated (option : Text)
  | conflict (first second : Text)
  | badNumber (value : Text) (cause : Decimal.ReadError)
deriving DecidableEq, Repr

namespace UsageError

def message : UsageError → Text
  | unexpectedArgument argument =>
      "error: unexpected argument '".toList ++ Escape.strip argument ++ "' found".toList
  | missingValue option =>
      "error: a value is required for '".toList ++ option ++
        "' but none was supplied".toList
  | unexpectedValue value option =>
      "error: unexpected value '".toList ++ Escape.strip value ++ "' for '".toList ++ option ++
        "' found; no more were expected".toList
  | repeated option =>
      "error: the argument '".toList ++ option ++ "' cannot be used multiple times".toList
  | conflict first second =>
      "error: the argument '".toList ++ first ++ "' cannot be used with '".toList ++
        second ++ "'".toList
  | badNumber value cause =>
      "error: invalid value '".toList ++ Escape.strip value ++ "' for '".toList ++
        Setting.maxBytes.usage ++ "': ".toList ++ cause.message

end UsageError

end Uncomment
