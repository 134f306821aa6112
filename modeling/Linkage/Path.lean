/-!
Slash-separated path texts. The normal form has no empty and no `.` segment, and a `..` segment only
at the start of a relative path. A path that starts with exactly two slashes keeps both.
-/

namespace Linkage.Path

def forwardSlashes (path : String) : String :=
  String.ofList (path.toList.map (fun c => if c = '\\' then '/' else c))

/-- The texts between slashes; there is always at least one. -/
def split : List Char → List (List Char)
  | [] => [[]]
  | c :: rest =>
    if c = '/' then [] :: split rest
    else
      match split rest with
      | [] => [[c]]
      | segment :: segments => (c :: segment) :: segments

def join : List (List Char) → List Char
  | [] => []
  | [segment] => segment
  | segment :: segments => segment ++ '/' :: join segments

/-- The directory part: all before the last slash, without the slashes at its end unless it has
nothing else. -/
def dirname (path : String) : String :=
  let head := path.toList.reverse.dropWhile (· != '/')
  let bare := head.dropWhile (· == '/')
  String.ofList (if bare.isEmpty then head else bare.reverse)

def basename (path : String) : String :=
  String.ofList (path.toList.reverse.takeWhile (· != '/')).reverse

def parent : List Char := ['.', '.']

/-- Follows one segment from the segments walked so far, the last one first. At an absolute root
there is nothing above. -/
def follow (rooted : Bool) (walked : List (List Char)) (segment : List Char) : List (List Char) :=
  if segment = [] || segment = ['.'] then walked
  else if segment = parent then
    match walked with
    | [] => if rooted then [] else [parent]
    | last :: before => if last = parent then parent :: last :: before else before
  else segment :: walked

def leadingSlashes : List Char → List Char
  | '/' :: '/' :: '/' :: _ => ['/']
  | '/' :: '/' :: _ => ['/', '/']
  | '/' :: _ => ['/']
  | _ => []

def normalizeChars (chars : List Char) : List Char :=
  let slashes := leadingSlashes chars
  let segments := ((split chars).foldl (follow (!slashes.isEmpty)) []).reverse
  match slashes ++ join segments with
  | [] => ['.']
  | normal => normal

def normalize (path : String) : String := String.ofList (normalizeChars path.toList)

/-- The base name without its last extension; a name that only starts with a dot is kept whole. -/
def stem (path : String) : String :=
  let name := basename (forwardSlashes path)
  match name.toList.reverse.dropWhile (· != '.') with
  | '.' :: before => if before.isEmpty then name else String.ofList before.reverse
  | _ => name

end Linkage.Path
