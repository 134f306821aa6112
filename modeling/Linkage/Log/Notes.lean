import Linkage.Graph.Cycles
import Linkage.Log.Record
import Linkage.UsageIndex
/-!
The records that the library's operations leave. Counts are for debugging; progress and import
cycles are reported at higher levels.
-/

namespace Linkage.Log

def record (logger : String) (level : Level) (message : String) : Record :=
  ⟨loggerName (some logger), level, message⟩

/-- What building an index reports; an empty map is indexed in silence. -/
def indexed (map : RepoMap) (extensions : List String) : List Record :=
  if map.isEmpty then []
  else
    let index := UsageIndex.build map extensions
    [record "usage_index" .debug ("Indexed " ++ toString map.size ++ " files: "
      ++ toString index.bySymbol.length ++ " symbol keys, "
      ++ toString index.byFile.length ++ " imported files, "
      ++ toString (map.unresolved extensions).length ++ " unresolved imports")]

def cyclesFound (graph : Graph) (cycles : List (List String)) : Record :=
  record "graph" .debug ("Found " ++ toString cycles.length ++ " import cycles across "
    ++ toString graph.nodes.length ++ " files")

def unusedFound (map : RepoMap) (count : Nat) : List Record :=
  if map.isEmpty then []
  else [record "analyzers.unused_exports" .debug ("Found " ++ toString count ++ " unused exports")]

def orphansFound (map : RepoMap) (count : Nat) : List Record :=
  if map.isEmpty then []
  else
    [record "analyzers.orphaned" .debug
      ("Found " ++ toString count ++ " orphaned infrastructure items")]

def mapLoaded (map : RepoMap) (file : String) : Record :=
  record "loader" .debug ("Loaded repo map with " ++ toString map.size ++ " files from " ++ file)

def progress (level : Level) (message : String) : Record := record "orchestrator" level message

def starting (path : String) : Record := progress .info ("Starting analysis of " ++ path)

def mapLists (map : RepoMap) : Record :=
  progress .debug ("Repo map lists " ++ toString map.size ++ " files")

def selected (count : Nat) : Record :=
  progress .debug ("Selected " ++ toString count ++ " analyzers")

def skipping (analyzer : String) : Record := progress .debug ("Skipping analyzer " ++ analyzer)

def running (analyzer : String) : Record := progress .debug ("Running analyzer " ++ analyzer)

def circular (cycles : List (List String)) : List Record :=
  if cycles.isEmpty then []
  else
    [progress .warning ("Detected " ++ toString cycles.length ++ " circular import chains")]

def complete (files findings : Nat) : Record :=
  progress .info
    ("Analysis complete: " ++ toString files ++ " files, " ++ toString findings ++ " findings")

end Linkage.Log
