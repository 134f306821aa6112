import Linkage.Assoc
import Linkage.Location
/-!
A tree of directories and files. Locations are walked segment by segment: every segment but the last
must be a directory, and none may be too long.
-/

namespace Linkage

/-- What a file holds: a text, or bytes that need not be one. -/
inductive Content where
  | text (value : String)
  | bytes (values : List UInt8)
  deriving DecidableEq, Repr

def Content.add (text : String) : Content → Content
  | .text value => .text (value ++ text)
  | .bytes values => .bytes (values ++ text.toUTF8.toList)

inductive Entry where
  | directory
  | file (content : Content)
  deriving DecidableEq, Repr

inductive Obstacle where
  | missing | present | notDirectory | isDirectory | tooLong
  deriving DecidableEq, Repr

def Obstacle.code : Obstacle → Nat
  | missing => 2
  | present => 17
  | notDirectory => 20
  | isDirectory => 21
  | tooLong => 36

def Obstacle.reason : Obstacle → String
  | missing => "No such file or directory"
  | present => "File exists"
  | notDirectory => "Not a directory"
  | isDirectory => "Is a directory"
  | tooLong => "File name too long"

/-- Entries by the text of their place. The root is not listed. -/
structure FileTree where
  entries : List (String × Entry) := []
  deriving DecidableEq, Repr

namespace FileTree

def entry? (tree : FileTree) (place : Place) : Option Entry :=
  if place.isEmpty then some .directory else Assoc.get? place.text tree.entries

def put (tree : FileTree) (place : Place) (entry : Entry) : FileTree :=
  ⟨Assoc.put place.text entry tree.entries⟩

def enter (tree : FileTree) (place : Place) : Except Obstacle Unit :=
  match tree.entry? place with
  | some .directory => .ok ()
  | some (.file _) => .error .notDirectory
  | none => .error .missing

/-- The most bytes in a segment. -/
def segmentLimit : Nat := 255

/-- The most bytes in the text of a location. -/
def locationLimit : Nat := 4095

/-- Walks along segments. Nothing need stand at the end. -/
def walk (tree : FileTree) (place : Place) : List String → Except Obstacle Place
  | [] => .ok place
  | segment :: rest => do
    tree.enter place
    if segmentLimit < segment.utf8ByteSize then throw .tooLong
    tree.walk (place.follow [segment]) rest

def locate (tree : FileTree) (current : Place) (location : Location) : Except Obstacle Place := do
  if locationLimit < location.text.utf8ByteSize then throw .tooLong
  tree.walk (if location.slashes = 0 then current else []) location.segments

def find (tree : FileTree) (current : Place) (location : Location) : Except Obstacle Entry := do
  let place ← tree.locate current location
  match tree.entry? place with
  | some entry => return entry
  | none => throw .missing

def isDirectory (tree : FileTree) (current : Place) (location : Location) : Bool :=
  match tree.find current location with
  | .ok .directory => true
  | _ => false

def read (tree : FileTree) (current : Place) (location : Location) : Except Obstacle Content := do
  match ← tree.find current location with
  | .file content => return content
  | .directory => throw .isDirectory

def target (tree : FileTree) (current : Place) (location : Location) : Except Obstacle Place := do
  let place ← tree.locate current location
  match tree.entry? place with
  | some .directory => throw .isDirectory
  | _ => return place

def write (tree : FileTree) (current : Place) (location : Location) (text : String) :
    Except Obstacle FileTree := do
  return tree.put (← tree.target current location) (.file (.text text))

/-- Adds a text to a file, which is made if there is none. -/
def append (tree : FileTree) (place : Place) (text : String) : FileTree :=
  match tree.entry? place with
  | some (.file content) => tree.put place (.file (Content.add text content))
  | some .directory => tree
  | none => tree.put place (.file (.text text))

def makeDirectory (tree : FileTree) (current : Place) (location : Location) :
    Except Obstacle FileTree := do
  let place ← tree.locate current location
  match tree.entry? place with
  | some _ => throw .present
  | none => return tree.put place .directory

def ensureOne (tree : FileTree) (current : Place) (location : Location) :
    Except (Obstacle × Location) FileTree :=
  match tree.makeDirectory current location with
  | .ok made => .ok made
  | .error obstacle =>
    if tree.isDirectory current location then .ok tree else .error (obstacle, location)

/-- Makes a directory and those above it, as far as they are missing. On failure it names the
directory that could not be made. The bound is the number of segments. -/
def ensure (tree : FileTree) (current : Place) :
    Nat → Location → Except (Obstacle × Location) FileTree
  | 0, location => tree.ensureOne current location
  | bound + 1, location =>
    match tree.makeDirectory current location with
    | .error .missing => do
      let tree ← tree.ensure current bound location.parent
      tree.ensureOne current location
    | _ => tree.ensureOne current location

def ensureDirectory (tree : FileTree) (current : Place) (location : Location) :
    Except (Obstacle × Location) FileTree :=
  tree.ensure current location.segments.length location

/-- A tree from places and entries, with the directories above them. -/
def ofList (entries : List (Place × Entry)) : FileTree :=
  entries.foldl (fun tree (place, entry) =>
    let above := (List.range place.length).map (fun depth => place.take depth)
    (above.foldl (fun tree directory =>
      if (tree.entry? directory).isSome then tree else tree.put directory .directory) tree).put
      place entry) {}

def changedFrom (tree before : FileTree) : List (String × Content) :=
  tree.entries.filterMap (fun (path, entry) =>
    match entry with
    | .directory => none
    | .file content =>
      if Assoc.get? path before.entries = some entry then none else some (path, content))

end FileTree

end Linkage
