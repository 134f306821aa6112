import Linkage.Finding
import Linkage.Naming
import Linkage.UsageIndex
/-!
Orphaned infrastructure: exported classes and factory functions, known by their names, of files that
nobody imports. An import of the file by any other name keeps them.
-/

namespace Linkage.Orphans

def infrastructure : String := "infrastructure"

def factory : String := "factory"

def isOrphan (index : UsageIndex) (file : String) (declaration : Declaration) : Bool :=
  declaration.exported && !index.isSymbolUsed file declaration.name && !index.isFileImported file

def finding (file kind role : String) (declaration : Declaration) : Finding :=
  { file
    name := declaration.name
    line := declaration.line
    kind
    certainty := Certainty.high
    role := some role }

/-- The orphaned classes of a file. Without suffixes no class is infrastructure. -/
def classes (index : UsageIndex) (suffixes : List String) (file : String) (record : FileRecord) :
    List Finding :=
  if suffixes.isEmpty then []
  else
    (record.classes.filter (fun declaration =>
      Naming.isInfrastructure suffixes declaration.name && isOrphan index file declaration)).map
      (finding file "class" infrastructure)

def functions (index : UsageIndex) (beginnings : List String) (file : String)
    (record : FileRecord) : List Finding :=
  if beginnings.isEmpty then []
  else
    (record.functions.filter (fun declaration =>
      Naming.isFactory beginnings declaration.name && isOrphan index file declaration)).map
      (finding file "function" factory)

/-- The orphaned infrastructure of a repo map under an index: by file, classes before functions. -/
def find (map : RepoMap) (index : UsageIndex) (suffixes beginnings : List String) : List Finding :=
  map.files.flatMap (fun (file, record) =>
    classes index suffixes file record ++ functions index beginnings file record)

end Linkage.Orphans
