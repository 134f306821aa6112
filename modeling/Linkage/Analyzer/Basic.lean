import Linkage.Log.Notes
import Linkage.Orphans
import Linkage.Settings.Basic
import Linkage.Unused
/-!
Analyzers: two built-in ones, and plugins, which bring a name, a rule on which maps they apply to,
and a function that makes findings.
-/

namespace Linkage

/-- An analyzer from outside. `typeName` stands in for a name that is empty. -/
structure Plugin where
  name : String := ""
  typeName : String
  supports : RepoMap → Bool := fun map => !map.isEmpty
  analyze : RepoMap → UsageIndex → List Finding

inductive Analyzer where
  | unusedExports (entryPoints : List String)
  | orphans (suffixes beginnings : List String)
  | plugin (plugin : Plugin)

namespace Analyzer

def unusedExportsName : String := "unused-exports"

def orphansName : String := "orphaned-infrastructure"

def name : Analyzer → String
  | unusedExports _ => unusedExportsName
  | orphans _ _ => orphansName
  | plugin p => p.name

def typeName : Analyzer → String
  | unusedExports _ => "UnusedExportAnalyzer"
  | orphans _ _ => "OrphanedInfrastructureAnalyzer"
  | plugin p => p.typeName

/-- The name of the group in a report that holds the analyzer's findings. -/
def group (analyzer : Analyzer) : String :=
  if analyzer.name = "" then analyzer.typeName else analyzer.name

def declares (record : FileRecord) : Bool := !record.classes.isEmpty || !record.functions.isEmpty

/-- Whether the analyzer applies to a map: orphans need a declaration, unused exports a file. -/
def supports : Analyzer → RepoMap → Bool
  | unusedExports _, map => !map.isEmpty
  | orphans _ _, map => map.files.any (fun (_, record) => declares record)
  | plugin p, map => p.supports map

def findings (map : RepoMap) (index : UsageIndex) : Analyzer → List Finding
  | unusedExports entryPoints => Unused.find map index entryPoints
  | orphans suffixes beginnings => Orphans.find map index suffixes beginnings
  | plugin p => p.analyze map index

def notes (map : RepoMap) (index : UsageIndex) : Analyzer → List Log.Record
  | analyzer@(unusedExports _) => Log.unusedFound map (analyzer.findings map index).length
  | analyzer@(orphans _ _) => Log.orphansFound map (analyzer.findings map index).length
  | plugin _ => []

def builtIn (settings : Settings) : List Analyzer :=
  [unusedExports settings.entryPoints, orphans settings.suffixes settings.beginnings]

end Analyzer

end Linkage
