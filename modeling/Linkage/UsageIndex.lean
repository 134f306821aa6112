import Linkage.Json.Basic
import Linkage.Multimap
import Linkage.RepoMap.Basic
/-!
Reverse look-ups: who imports a file, and who imports a name from a file. A name of a file is looked
up under one key text, the file and the name with a colon between them.
-/

namespace Linkage

structure UsageIndex where
  bySymbol : Multimap := []
  byFile : Multimap := []
  exportsByFile : Multimap := []
  deriving DecidableEq, Repr

namespace UsageIndex

def symbolKey (file name : String) : String := file ++ ":" ++ name

def exportNames (record : FileRecord) : List String :=
  TextSet.ofList (record.exports.map Export.name)

/-- Records the importer of a statement under the file that it reaches and under each name that it
binds there. A statement that does not resolve is passed over. -/
def addImport (files extensions : List String) (importer : String) (index : UsageIndex)
    (entry : Import) : UsageIndex :=
  match Resolution.resolve files extensions importer entry.source with
  | none => index
  | some target =>
    { index with
      bySymbol := (entry.binds target).foldl
        (fun bySymbol name => bySymbol.add (symbolKey target name) importer) index.bySymbol
      byFile := index.byFile.add target importer }

/-- The index of a repo map. What the files export is recorded before any import is resolved. -/
def build (map : RepoMap) (extensions : List String) : UsageIndex :=
  if map.isEmpty then {}
  else
    let exportsByFile : Multimap := map.files.foldl
      (fun exports (path, record) => exports.set path (exportNames record)) []
    map.files.foldl
      (fun index (path, record) => record.imports.foldl (addImport map.paths extensions path) index)
      { exportsByFile }

/-- The files that import a name from a file, ascending. -/
def usages (index : UsageIndex) (file name : String) : List String :=
  index.bySymbol.get (symbolKey file name)

def dependents (index : UsageIndex) (file : String) : List String := index.byFile.get file

def isSymbolUsed (index : UsageIndex) (file name : String) : Bool :=
  !(index.usages file name).isEmpty

def isFileImported (index : UsageIndex) (file : String) : Bool := !(index.dependents file).isEmpty

def multimapJson (map : Multimap) : Json :=
  .object (map.map (fun (key, values) => (key, .ofStrings values)))

def toJson (index : UsageIndex) : Json :=
  .object [("bySymbol", multimapJson index.bySymbol), ("byFile", multimapJson index.byFile),
    ("exportsByFile", multimapJson index.exportsByFile)]

end UsageIndex

end Linkage
