import Uncomment.Glob.Pattern
import Uncomment.Text.Decimal

namespace Uncomment

namespace Glob

/-! How a glob is put to use. One of a simple shape is matched by comparing texts; the
others are compiled, and their patterns may be nested only so deep. How large compiled
patterns may grow is not told here. -/

def literals? : List Token → Option Text
  | [] => some []
  | .literal char :: rest => (literals? rest).map (char :: ·)
  | _ :: _ => none

def isExtension : Text → Bool
  | '.' :: rest => !rest.contains '.' && !rest.contains '/'
  | _ => false

/-- A glob for a whole text, or for the end of one: literals, after leading directories or
after a star that crosses separators. Before an extension, the leading directories let
any star cross them. -/
def comparesEnd (crosses : Bool) (tokens : List Token) : Bool :=
  let (directories, tokens) := match tokens with
    | .leadingDirs :: rest => (true, rest)
    | _ => (false, tokens)
  match tokens with
  | .anyRun :: rest =>
      match literals? rest with
      | some text =>
          (crosses && text != [] && text != ['/']) ||
            ((directories || crosses) && isExtension text)
      | none => false
  | _ => (literals? tokens).any (· != [])

def comparesStart (crosses : Bool) (tokens : List Token) : Bool :=
  match tokens.getLast? with
  | some .anyRun => crosses && (literals? tokens.dropLast).any (· != [])
  | some .trailingDirs => (literals? tokens.dropLast).isSome
  | _ => false

def endsInExtension : List Token → Bool
  | .literal '.' :: _ => true
  | .literal '/' :: _ => false
  | .literal _ :: rest => endsInExtension rest
  | _ => false

/-- The ways to use a glob. A compiled one that ends in an extension is kept apart from
the other compiled ones, since the extension is compared first. -/
inductive Use
  | compared
  | guarded
  | compiled
deriving DecidableEq, Repr

def use (glob : Glob) (dialect : Dialect) : Use :=
  if comparesEnd dialect.crosses glob.tokens || comparesStart dialect.crosses glob.tokens then
    .compared
  else if endsInExtension glob.tokens.reverse then .guarded
  else .compiled

/-! ## Limits -/

def depthLimit : Nat := 250

/-- Why some globs cannot be used together: the pattern of one of them is too deep. Guarded
ones are known by their pattern, the others by their number among themselves. -/
inductive UseError
  | guardedTooDeep (pattern : Text)
  | compiledTooDeep (number : Nat)
deriving DecidableEq, Repr

def UseError.message : UseError → Text
  | guardedTooDeep pattern =>
      "error parsing glob '".toList ++ pattern ++ "': error parsing pattern 0".toList
  | compiledTooDeep number => "error parsing pattern ".toList ++ Decimal.write number

def isTooDeep (glob : Glob) (dialect : Dialect) : Bool := depthLimit < glob.depth dialect

def useError? (dialect : Dialect) (globs : List Glob) : Option UseError :=
  let used (way : Use) := globs.filter (·.use dialect = way)
  match (used .guarded).find? (·.isTooDeep dialect) with
  | some glob => some (.guardedTooDeep (glob.writePattern dialect))
  | none => ((used .compiled).findIdx? (·.isTooDeep dialect)).map .compiledTooDeep

end Glob

end Uncomment
