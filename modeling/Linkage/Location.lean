import Linkage.Assoc
import Linkage.Path
/-!
Locations of files as they are given: empty and `.` segments vanish, `..` segments stay until the
location is resolved to a place, an absolute path without them.
-/

namespace Linkage

/-- The segments of an absolute path. -/
abbrev Place := List String

namespace Place

def text (place : Place) : String := "/" ++ String.intercalate "/" place

/-- Follows segments upwards and downwards; above the root there is nothing. -/
def follow (place : Place) (segments : List String) : Place :=
  segments.foldl (fun place segment =>
    if segment = ".." then place.dropLast else place ++ [segment]) place

def parent (place : Place) : Place := place.dropLast

def name (place : Place) : String := place.getLast?.getD ""

end Place

/-- A path as given: the slashes it starts with, of which there are at most two, and its segments. -/
structure Location where
  slashes : Nat := 0
  segments : List String := []
  deriving DecidableEq, Repr

namespace Location

def ofText (text : String) : Location :=
  { slashes := (Path.leadingSlashes text.toList).length
    segments := ((Path.split text.toList).filter (fun segment => segment != [] && segment != ['.'])).map
      String.ofList }

def ofPlace (place : Place) : Location := ⟨1, place⟩

/-- The text of a location; an empty one is the current directory. -/
def text (location : Location) : String :=
  if location.slashes = 0 && location.segments.isEmpty then "."
  else
    String.ofList (List.replicate location.slashes '/') ++ String.intercalate "/" location.segments

def parent (location : Location) : Location :=
  { location with segments := location.segments.dropLast }

def child (location : Location) (name : String) : Location :=
  { location with segments := location.segments ++ [name] }

/-- The place a location names, seen from the current directory, whatever is really there. -/
def resolve (current : Place) (location : Location) : Place :=
  Place.follow (if location.slashes = 0 then current else []) location.segments

/-- Replaces a tilde at the start by the home directory, and a tilde with a name by the home of the
user of that name. An unknown name fails. -/
def expand? (home : Place) (homes : List (String × Place)) (location : Location) : Option Location :=
  match location.slashes, location.segments with
  | 0, first :: rest =>
    match first.toList with
    | ['~'] => some (.ofPlace (home ++ rest))
    | '~' :: name => (Assoc.get? (String.ofList name) homes).map (fun home => .ofPlace (home ++ rest))
    | _ => some location
  | _, _ => some location

def hasNull (location : Location) : Bool :=
  location.segments.any (fun segment => segment.toList.contains (Char.ofNat 0))

def hasNullName (location : Location) : Bool :=
  location.slashes = 0
    && location.segments.head?.any (fun first =>
      first.toList.head? = some '~' && first.toList.contains (Char.ofNat 0))

end Location

end Linkage
