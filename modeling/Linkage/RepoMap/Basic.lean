import Linkage.Assoc
import Linkage.Resolution
/-!
The repo map: for every file of a repository, in order, what it exports, declares and imports. No
path occurs twice.
-/

namespace Linkage

structure Export where
  name : String
  kind : Option String := none
  line : Option Int := none
  deriving DecidableEq, Repr

structure Declaration where
  name : String
  exported : Bool := false
  line : Option Int := none
  deriving DecidableEq, Repr

structure Import where
  source : String
  kind : Option String := none
  names : Option (List String) := none
  deriving DecidableEq, Repr

/-- The names an import binds when it resolves to `target`. A default import is taken to bind the
target's stem; imports of a whole module bind no name. -/
def Import.binds (entry : Import) (target : String) : List String :=
  match entry.kind with
  | some "named" | some "import" => entry.names.getD []
  | some "default" => [Path.stem target]
  | _ => []

structure FileRecord where
  exports : List Export := []
  classes : List Declaration := []
  functions : List Declaration := []
  imports : List Import := []
  deriving DecidableEq, Repr

structure RepoMap where
  files : List (String × FileRecord)
  distinct : (Assoc.keys files).Nodup

namespace RepoMap

def empty : RepoMap := ⟨[], List.nodup_nil⟩

def paths (map : RepoMap) : List String := Assoc.keys map.files

def size (map : RepoMap) : Nat := map.files.length

def isEmpty (map : RepoMap) : Bool := map.files.isEmpty

def contains (map : RepoMap) (path : String) : Bool := map.paths.contains path

/-- Records a file. A path that is present keeps its place. -/
def put (map : RepoMap) (path : String) (record : FileRecord) : RepoMap :=
  ⟨Assoc.put path record map.files, Assoc.nodup_put map.distinct⟩

def erase (map : RepoMap) (path : String) : RepoMap :=
  ⟨Assoc.erase path map.files, Assoc.nodup_erase map.distinct⟩

def ofList (files : List (String × FileRecord)) : RepoMap :=
  files.foldl (fun map file => map.put file.1 file.2) empty

def imports (map : RepoMap) : List (String × Import) :=
  map.files.flatMap (fun (path, record) => record.imports.map (path, ·))

def unresolved (map : RepoMap) (extensions : List String) : List (String × Import) :=
  map.imports.filter (fun (importer, entry) =>
    (Resolution.resolve map.paths extensions importer entry.source).isNone)

end RepoMap

end Linkage
