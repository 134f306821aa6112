import Linkage.Path
/-!
Resolving import specifiers to files. A relative specifier is joined to the importer's directory,
also when it starts with a slash; the result is tried as it is, then with each extension, then as a
directory that holds an index file. All other specifiers name packages and resolve to nothing.
-/

namespace Linkage.Resolution

def defaultExtensions : List String := [".js", ".ts", ".jsx", ".tsx", ".mjs", ".cjs"]

def isRelative (specifier : String) : Bool :=
  match specifier.toList with
  | c :: _ => c = '.' || c = '/'
  | [] => false

/-- The importer's directory; a file at the top is in the directory `.`. -/
def directory (importer : String) : String :=
  let dir := Path.dirname (Path.forwardSlashes importer)
  if dir = "" then "." else dir

/-- The path a relative specifier stands for, before any extension is tried. -/
def base (importer specifier : String) : String :=
  Path.normalize (directory importer ++ "/" ++ Path.forwardSlashes specifier)

/-- The files a base path may mean, in order of preference. -/
def candidates (base : String) (extensions : List String) : List String :=
  base :: extensions.map (base ++ ·) ++ extensions.map (base ++ "/index" ++ ·)

/-- The file that the specifier names when it is imported from `importer`. -/
def resolve (files extensions : List String) (importer specifier : String) : Option String :=
  if isRelative specifier then
    (candidates (base importer specifier) extensions).find? files.contains
  else none

end Linkage.Resolution
