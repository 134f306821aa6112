import Linkage.Finding
import Linkage.Text.Lower
import Linkage.UsageIndex
/-!
Unused exports: names that a file exports and nobody imports by name. Files that are run from
outside, known by their stem, are passed over.
-/

namespace Linkage.Unused

def defaultEntryPoints : List String := ["index", "main", "app", "server", "cli", "bin"]

/-- Whether a file's stem is one of the names, whatever the case. -/
def isEntryPoint (entryPoints : List String) (file : String) : Bool :=
  (entryPoints.map Text.lower).contains (Text.lower (Path.stem file))

/-- The grade of an unused export: low when its file is imported for something else. -/
def grade (index : UsageIndex) (file : String) : String :=
  if index.isFileImported file then Certainty.low else Certainty.medium

/-- The kind an export is reported with: its own, unless it has none or an empty one. -/
def kindOf (entry : Export) : String := (entry.kind.filter (· != "")).getD "export"

def finding (index : UsageIndex) (file : String) (entry : Export) : Finding :=
  { file
    name := entry.name
    line := entry.line
    kind := kindOf entry
    certainty := grade index file }

def ofFile (index : UsageIndex) (entryPoints : List String) (file : String) (record : FileRecord) :
    List Finding :=
  if isEntryPoint entryPoints file then []
  else
    (record.exports.filter (fun entry => !index.isSymbolUsed file entry.name)).map
      (finding index file)

/-- The unused exports of a repo map under an index, in map order. -/
def find (map : RepoMap) (index : UsageIndex) (entryPoints : List String) : List Finding :=
  map.files.flatMap (fun (file, record) => ofFile index entryPoints file record)

end Linkage.Unused
