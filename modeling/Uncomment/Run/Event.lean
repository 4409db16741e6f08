import Uncomment.Ignore.Contents
import Uncomment.Strip
import Uncomment.Tree.View

namespace Uncomment

/-! What happens in a run, apart from how it is reported. -/

/-- Where a text comes from. A file is known by the path it is shown under and by its
own name. -/
inductive Source
  | stdin
  | file (label name : Text)
deriving DecidableEq, Repr

namespace Source

def stdinArgument : Text := ['-']

def stdinPath : Path := Utf8.encode stdinArgument

def label : Source → Text
  | stdin => stdinArgument
  | file label _ => label

def name : Source → Text
  | stdin => stdinArgument
  | file _ name => name

end Source

structure ReadError where
  label : Text
  error : OsError
deriving DecidableEq, Repr

def ReadError.message (failure : ReadError) : Text :=
  "Failed to read ".toList ++ failure.label ++ ": ".toList ++ failure.error.message

def stripBytes (content : Bytes) : Stripped := strip (Utf8.decodeLossy content)

def stripContent (label : Text) (content : Except OsError Bytes) :
    Except ReadError Stripped :=
  match content with
  | .ok bytes => .ok (stripBytes bytes)
  | .error error => .error ⟨label, error⟩

/-- A step of a run: a text has been stripped, a file has been passed over for its size,
or something is wrong with a file, a root, an entry or the ignore files around a root. -/
inductive Event
  | stripped (source : Source) (result : Stripped)
  | oversized (label : Text) (size limit : Nat)
  | unreadable (failure : ReadError)
  | lostRoot (argument : Path) (error : OsError)
  | lostEntry (fault : Tree.Fault)
  | badIgnoreFiles (faults : List Ignore.Fault)
deriving DecidableEq, Repr

def Event.isFailure : Event → Bool
  | unreadable _ | lostRoot _ _ | lostEntry _ | badIgnoreFiles _ => true
  | stripped _ _ | oversized _ _ _ => false

/-- The steps of a run in order. A standard input that cannot be read cuts it short. -/
structure Trace where
  events : List Event
  aborted : Option OsError

namespace Trace

def prepend (events : List Event) (trace : Trace) : Trace :=
  { trace with events := events ++ trace.events }

end Trace

end Uncomment
