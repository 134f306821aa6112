import Linkage.Analyzer.Discovery
import Linkage.Report
/-!
Whole analyses of a repo map, with the log records they leave.
-/

namespace Linkage.Analysis

/-- The analyzers of an analysis: given ones, or those found among the plugins on offer. -/
inductive Selection where
  | given (analyzers : List Analyzer)
  | discovered (offers : List Discovery.Offer)

def Selection.analyzers (settings : Settings) : Selection → Except Discovery.Fault (List Analyzer)
  | given analyzers => .ok analyzers
  | discovered offers => Discovery.discover settings.enabled settings offers

def turn (map : RepoMap) (index : UsageIndex) (analyzer : Analyzer) : List Log.Record :=
  if analyzer.supports map then Log.running analyzer.name :: analyzer.notes map index
  else [Log.skipping analyzer.name]

/-- The report on a map. The map is indexed before the analyzers are selected. -/
def analyze (map : RepoMap) (settings : Settings) (selection : Selection) :
    Run Discovery.Fault Report := do
  Logged.notes (Log.indexed map settings.extensions)
  let analyzers ← selection.analyzers settings
  let index := UsageIndex.build map settings.extensions
  let report := Report.compile map settings analyzers
  Logged.note (Log.selected analyzers.length)
  Logged.notes (analyzers.flatMap (turn map index))
  Logged.note (Log.cyclesFound report.graph report.cycles)
  Logged.notes (Log.circular report.cycles)
  Logged.note (Log.complete map.size report.findings.length)
  return report

def index (map : RepoMap) (extensions : List String) : Logged UsageIndex :=
  ⟨Log.indexed map extensions, .build map extensions⟩

def cycles (graph : Graph) : Logged (List (List String)) :=
  ⟨[Log.cyclesFound graph graph.cycles], graph.cycles⟩

/-- The index to search with: the given one, or one built for the purpose. -/
def indexOr (map : RepoMap) (extensions : List String) : Option UsageIndex → Logged UsageIndex
  | some index => pure index
  | none => index map extensions

def unused (map : RepoMap) (given : Option UsageIndex) (extensions entryPoints : List String) :
    Logged (List Finding) := do
  let index ← indexOr map extensions given
  let findings := Unused.find map index entryPoints
  Logged.notes (Log.unusedFound map findings.length)
  return findings

def orphans (map : RepoMap) (given : Option UsageIndex)
    (extensions suffixes beginnings : List String) : Logged (List Finding) := do
  let index ← indexOr map extensions given
  let findings := Orphans.find map index suffixes beginnings
  Logged.notes (Log.orphansFound map findings.length)
  return findings

end Linkage.Analysis
