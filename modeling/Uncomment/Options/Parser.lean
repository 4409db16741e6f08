import Uncomment.Options.Basic

namespace Uncomment

namespace Options

/-! Reading the arguments. A value that stands in an argument of its own is not looked at
before the next option or path, or the end, is reached: an unknown argument in between
is reported first. -/

inductive Stop
  | fault (error : UsageError)
  | version
  | help
deriving DecidableEq, Repr

/-- What has been read and not been looked at: an option with its value, or without one
yet, or paths in a row. -/
inductive Pending
  | nothing
  | setting (setting : Setting) (value : Option Text)
  | paths (paths : List Text)
deriving DecidableEq, Repr

structure State where
  options : Options := {}
  pending : Pending := .nothing

/-- The first number that is too large for a size of 64 bits. -/
def sizeBound : Nat := 0x1_0000_0000_0000_0000

def addValue (options : Options) (setting : Setting) (value : Text) :
    Except Stop Options :=
  match setting with
  -- Empty pieces between commas are kept here.
  | .type => .ok { options with types := options.types ++ value.splitOn ',' }
  | .exclude => .ok { options with excludes := options.excludes ++ value.splitOn ',' }
  | .maxBytes =>
      if options.maxBytes.isSome then
        .error (.fault (.repeated setting.usage))
      else
        match Decimal.read sizeBound value with
        | .ok limit => .ok { options with maxBytes := some limit }
        | .error cause => .error (.fault (.badNumber value cause))

def addFlag (options : Options) (flag : Flag) : Except Stop Options :=
  match flag with
  | .version => .error .version
  | .help => .error .help
  | _ =>
      if options.flags.contains flag then .error (.fault (.repeated flag.usage))
      else .ok { options with flags := options.flags ++ [flag] }

def addPaths (options : Options) (paths : List Text) : Except Stop Options :=
  if paths.contains [] then .error (.fault (.missingValue "[PATH]...".toList))
  else .ok { options with paths := options.paths ++ paths.map Utf8.encode }

namespace State

def settle (state : State) : Except Stop Options :=
  match state.pending with
  | .nothing => .ok state.options
  | .setting setting none => .error (.fault (.missingValue setting.usage))
  | .setting setting (some value) => addValue state.options setting value
  | .paths paths => addPaths state.options paths

def withFlag (state : State) (flag : Flag) : Except Stop State := do
  return { options := ← addFlag (← state.settle) flag }

def withValue (state : State) (setting : Setting) (value : Text) : Except Stop State := do
  return { options := ← addValue (← state.settle) setting value }

def awaiting (state : State) (setting : Setting) : Except Stop State := do
  return { options := ← state.settle, pending := .setting setting none }

def withPath (state : State) (path : Text) : Except Stop State := do
  match state.pending with
  | .paths paths => return { state with pending := .paths (paths ++ [path]) }
  | _ => return { options := ← state.settle, pending := .paths [path] }

def withPlain (state : State) (argument : Text) : Except Stop State :=
  match state.pending with
  | .setting setting none =>
      .ok { state with pending := .setting setting (some argument) }
  | _ => state.withPath argument

def withLong (state : State) (argument : Text) : Except Stop State :=
  let (name, attached) := argument.span (· != '=')
  match Opt.ofLongName? name, attached with
  | none, _ => .error (.fault (.unexpectedArgument ("--".toList ++ name)))
  | some (.plain flag), [] => state.withFlag flag
  | some (.plain flag), _ :: value => .error (.fault (.unexpectedValue value flag.usage))
  | some (.valued setting), [] => state.awaiting setting
  | some (.valued setting), _ :: value => state.withValue setting value

/-- Short options in a row. What follows the name of an option with a value is its value;
an equals sign in front of the value is dropped. -/
def withShorts (state : State) : Text → Except Stop State
  | [] => .ok state
  | char :: rest =>
      match Opt.ofShortName? char with
      | none => .error (.fault (.unexpectedArgument ['-', char]))
      | some (.plain flag) => do (← state.withFlag flag).withShorts rest
      | some (.valued setting) =>
          match rest with
          | [] => state.awaiting setting
          | '=' :: value => state.withValue setting value
          | value => state.withValue setting value

end State

def readPaths (state : State) : List Text → Except Stop State
  | [] => .ok state
  | argument :: rest => do readPaths (← state.withPath argument) rest

def readAll (state : State) : List Text → Except Stop State
  | [] => .ok state
  | argument :: rest =>
      match argument with
      | ['-', '-'] => readPaths state rest
      | '-' :: '-' :: long => do readAll (← state.withLong long) rest
      | '-' :: char :: shorts => do readAll (← state.withShorts (char :: shorts)) rest
      | plain => do readAll (← state.withPlain plain) rest

def conflict? (options : Options) : Option UsageError :=
  match options.flags.filter fun flag => flag = .check ∨ flag = .json with
  | first :: second :: _ => some (.conflict first.usage second.usage)
  | _ => none

def parse (arguments : List Text) : Except Stop Options := do
  let options ← (← readAll {} arguments).settle
  match options.conflict? with
  | some error => .error (.fault error)
  | none =>
      return if options.paths.isEmpty then { options with paths := [[Path.dot]] } else options

end Options

end Uncomment
