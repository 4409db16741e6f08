import Uncomment.Path.Basic
import Uncomment.Text.Decimal

namespace Uncomment

/-! A file system as a tree of named nodes. -/

structure OsError where
  description : Text
  code : Nat
deriving DecidableEq, Repr

namespace OsError

def message (error : OsError) : Text :=
  error.description ++ " (os error ".toList ++ Decimal.write error.code ++ [')']

def notFound : OsError := ⟨"No such file or directory".toList, 2⟩

def inputOutput : OsError := ⟨"Input/output error".toList, 5⟩

def permissionDenied : OsError := ⟨"Permission denied".toList, 13⟩

def notDirectory : OsError := ⟨"Not a directory".toList, 20⟩

def isDirectory : OsError := ⟨"Is a directory".toList, 21⟩

def nameTooLong : OsError := ⟨"File name too long".toList, 36⟩

def linkLoop : OsError := ⟨"Too many levels of symbolic links".toList, 40⟩

end OsError

structure File where
  size : Option Nat
  content : Except OsError Bytes

def File.ofBytes (bytes : Bytes) : File := ⟨some bytes.length, .ok bytes⟩

/-- How the listing of a directory goes: to its end, not at all, or up to the point where
the system breaks it off. -/
inductive Listing
  | complete
  | refused (error : OsError)
  | cutShort (error : OsError)
deriving DecidableEq, Repr

/-- What stands under a name. A directory holds its entries in the order in which they
are listed; they can be reached by name even where the listing is refused. A symbolic link
holds the path it points to. A `device` can be opened like a file and has nothing to read,
and of a `lost` entry nothing can be found out. -/
inductive Node
  | file (file : File)
  | directory (entries : List (Bytes × Node)) (listing : Listing := .complete)
  | link (target : Path)
  | device
  | lost (error : OsError)

namespace Node

def isDirectory : Node → Bool
  | directory _ _ => true
  | _ => false

def child? (node : Node) (name : Bytes) : Option Node :=
  match node with
  | directory entries _ => entries.lookup name
  | _ => none

/-- The tree with a node put at the given names; directories on the way are made where
there are none. An empty directory that is put on a directory changes nothing. -/
def insert (node leaf : Node) : List Bytes → Node
  | [] =>
      match leaf, node with
      | directory [] .complete, directory entries listing => directory entries listing
      | _, _ => leaf
  | name :: names =>
      let (entries, listing) := match node with
        | directory entries listing => (entries, listing)
        | _ => ([], .complete)
      let before := entries.takeWhile (·.1 != name)
      match entries.dropWhile (·.1 != name) with
      | (_, old) :: after => directory (before ++ (name, old.insert leaf names) :: after) listing
      | [] => directory (before ++ [(name, (directory []).insert leaf names)]) listing

end Node

abbrev Location := List Bytes

def Location.path (location : Location) : Path :=
  Path.separator :: [Path.separator].intercalate location

example : Location.path [[0x61], [0x62]] = Utf8.encode "/a/b".toList := rfl

end Uncomment
