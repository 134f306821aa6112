import Linkage.Json.Reader
import Linkage.Path
/-!
What a request is sent to. Of a target only the path counts: a scheme, a host, a query and a fragment
are dropped, `.` and `..` segments are followed, and percent escapes are decoded, twice.
-/

namespace Linkage.Service.Target

def isSchemeChar (c : Char) : Bool := c.isAlphanum || c = '+' || c = '.' || c = '-'

/-- The scheme at the start of a target, and what follows its colon. A scheme starts with a letter. -/
def splitScheme (chars : List Char) : List Char × List Char :=
  let scheme := chars.takeWhile isSchemeChar
  match chars.drop scheme.length with
  | ':' :: rest => if scheme.head?.all Char.isAlpha then (scheme, rest) else ([], chars)
  | _ => ([], chars)

def splitHost : List Char → List Char × List Char
  | '/' :: '/' :: rest => rest.span (fun c => c != '/' && c != '?' && c != '#')
  | chars => ([], chars)

/-- Follows the segments of a path. Above the root there is nothing. -/
def follow (segments : List (List Char)) : List (List Char) :=
  segments.foldl (fun taken segment =>
    if segment = ['.'] then taken
    else if segment = ['.', '.'] then
      if taken = [] || taken = [[]] then taken else taken.dropLast
    else taken ++ [segment]) []

def withoutDots (path : List Char) : List Char :=
  Path.join (follow (Path.split path))

/-- Decodes percent escapes. A byte that is no ASCII character is replaced. -/
def decode : List Char → List Char
  | '%' :: a :: b :: rest =>
    match Json.hexValue? a, Json.hexValue? b with
    | some high, some low =>
      let code := high * 16 + low
      Char.ofNat (if code < 0x80 then code else 0xFFFD) :: decode rest
    | _, _ => '%' :: decode (a :: b :: rest)
  | c :: rest => c :: decode rest
  | [] => []

structure Parts where
  scheme : List Char
  host : List Char
  path : List Char

def parts (target : String) : Parts :=
  let (scheme, rest) := splitScheme target.toList
  let (host, rest) := splitHost rest
  ⟨scheme, host, rest.takeWhile (fun c => c != '?' && c != '#')⟩

/-- The path of a target. A target that does not name both a scheme and a host starts with one
slash. -/
def path (target : String) : List Char :=
  let parts := parts target
  let given :=
    if parts.scheme.isEmpty && parts.host.isEmpty then parts.path else withoutDots parts.path
  let full :=
    if parts.scheme.isEmpty || parts.host.isEmpty then '/' :: given.dropWhile (· = '/') else given
  decode (decode (withoutDots full))

end Linkage.Service.Target
