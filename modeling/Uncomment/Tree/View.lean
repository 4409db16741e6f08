import Uncomment.Tree.Resolve

namespace Uncomment

namespace Tree

/-! What a walk can see of the tree: links are either followed or left aside. -/

/-- What keeps a walk from an entry. The system may break off a listing without a word about
the place, and does not name the directory that a followed link cannot open. -/
inductive Fault
  | unreachable (entry : Path) (error : OsError)
  | loop (link ancestor : Path)
  | unnamed (error : OsError)
deriving DecidableEq, Repr

namespace Fault

def message : Fault → Text
  | unreachable entry error =>
      let entry := Utf8.decodeLossy entry
      entry ++ ": IO error for operation on ".toList ++ entry ++ ": ".toList ++ error.message
  | loop link ancestor =>
      "File system loop found: ".toList ++ Utf8.decodeLossy link ++
        " points to an ancestor ".toList ++ Utf8.decodeLossy ancestor
  | unnamed error => error.message

end Fault

/-- A tree without links. A link that is not followed leaves a `bystander`, and so does a
device. -/
inductive View
  | file (file : File)
  | directory (entries : List (Bytes × View))
  | bystander
  | fault (fault : Fault)

namespace View

def isDirectory : View → Bool
  | directory _ => true
  | _ => false

def isFault : View → Bool
  | fault _ => true
  | _ => false

/-- The view of the directory at a path, in which some entries would be seen. What is wrong
with its listing is met inside, and only if the directory is entered. -/
def ofListing (path : Path) (entries : List (Bytes × View)) : Listing → View
  | .complete => directory entries
  | .refused error => directory [([], fault (.unreachable path error))]
  | .cutShort error => directory (entries ++ [([], fault (.unnamed error))])

end View

/-- A directory on a walk: its trail, the location under which it is shown, and the
directories entered to get there, itself first, as pairs of where they are and where
they are shown. The links on the way count against the limit for one path; `links` more
may follow. -/
structure Place where
  trail : Trail
  shown : Location
  entered : List (Location × Location)
  links : Nat

namespace Place

def start (trail : Trail) : Place :=
  ⟨trail, trail.location, [(trail.location, trail.location)], linkLimit⟩

def enter (place : Place) (name : Bytes) (arrival : Arrival) : Place :=
  let shown := place.shown ++ [name]
  let location := arrival.trail.location
  ⟨arrival.trail, shown, (location, shown) :: place.entered, arrival.links⟩

def child (place : Place) (name : Bytes) : Path :=
  Location.path (place.shown ++ [name])

def isFull (place : Place) (name : Bytes) : Bool := pathLimit < (place.child name).length

def unreachable (place : Place) (name : Bytes) (error : OsError) : View :=
  .fault (.unreachable (place.child name) error)

end Place

def lostFile (error : OsError) : File := ⟨none, .error error⟩

/-! `follow` gives the view of a link from the directory that holds it and its name. -/

mutual
/-- The view of an entry of a directory. Where its path is too long, a file can still be
met, and a directory still be entered, but nothing can be read in them. -/
def viewOf (follow : Place → Bytes → View) (place : Place) (name : Bytes) : Node → View
  | .file file => .file (if place.isFull name then lostFile .nameTooLong else file)
  | .directory entries listing =>
      let arrival := ⟨(name, .directory entries listing) :: place.trail, place.links⟩
      let views := viewsOf follow (place.enter name arrival) entries
      let listing := if place.isFull name then .refused .nameTooLong else listing
      .ofListing (place.child name) views listing
  | .link _ => follow place name
  | .device => .bystander
  | .lost error => place.unreachable name error

def viewsOf (follow : Place → Bytes → View) (place : Place) :
    List (Bytes × Node) → List (Bytes × View)
  | [] => []
  | (name, node) :: rest =>
      (name, viewOf follow place name node) :: viewsOf follow place rest
end

/-- The view of a link that is followed. It may not lead into a directory that it was
reached through. Each link followed inside another one takes from what is left of the
limit, so that `depth` is never used up before it. -/
def followLink (root : Node) : Nat → Place → Bytes → View
  | 0, place, name => place.unreachable name .linkLoop
  | depth + 1, place, name =>
      if place.isFull name then
        place.unreachable name .nameTooLong
      else
        match resolve root place.links place.trail [name] with
        | .error error => place.unreachable name error
        | .ok arrival =>
            match arrival.trail.node root with
            | .file file => .file file
            | .link _ | .device | .lost _ => .bystander
            | .directory entries listing =>
                match listing, place.entered.lookup arrival.trail.location with
                | .refused error, _ => .fault (.unnamed error)
                | _, some ancestor => .fault (.loop (place.child name) ancestor.path)
                | _, none =>
                    let views :=
                      viewsOf (followLink root depth) (place.enter name arrival) entries
                    .ofListing (place.child name) views listing

def view (root : Node) (followLinks : Bool) (trail : Trail) : View :=
  match trail.node root with
  | .file file => .file file
  | .link _ | .device => .bystander
  | .lost error => .fault (.unreachable trail.location.path error)
  | .directory entries listing =>
      let follow :=
        if followLinks then followLink root (linkLimit + 1) else fun _ _ => .bystander
      .ofListing trail.location.path (viewsOf follow (.start trail) entries) listing

end Tree

end Uncomment
