import Linkage.Analyzer.Basic
import Linkage.Glob
import Linkage.Graph.Cycles
/-!
Reports: the findings of every analyzer that ran, the dependency graph and its cycles, and a summary
that counts them.
-/

namespace Linkage

def isExcluded (patterns : List String) (file : String) : Bool :=
  patterns.any (fun pattern => Glob.fits pattern file)

def keepIncluded (patterns : List String) (findings : List Finding) : List Finding :=
  if patterns.isEmpty then findings
  else findings.filter (fun finding => !isExcluded patterns finding.file)

theorem keepIncluded_eq (patterns : List String) (findings : List Finding) :
    keepIncluded patterns findings =
      findings.filter (fun finding => !isExcluded patterns finding.file) := by
  cases patterns with
  | nil => exact (List.filter_eq_self.mpr fun _ _ => rfl).symm
  | cons pattern patterns => rfl

structure Report where
  /-- Findings by group, in the order in which the groups were first filled. -/
  groups : List (String × List Finding) := []
  cycles : List (List String) := []
  graph : Graph := {}
  deriving DecidableEq, Repr

namespace Report

/-- The findings of a group; a group that is absent has none. -/
def group (report : Report) (name : String) : List Finding :=
  (Assoc.get? name report.groups).getD []

def findings (report : Report) : List Finding := report.groups.flatMap Prod.snd

def count (counts : List (String × Int)) (finding : Finding) : List (String × Int) :=
  Assoc.modify finding.certainty 0 (· + 1) counts

/-- How many findings have each certainty. The three usual grades are always listed. -/
def byCertainty (report : Report) : List (String × Int) :=
  report.findings.foldl count (Certainty.levels.map (·, 0))

structure Summary where
  files : Nat
  edges : Nat
  cycles : Nat
  findings : List (String × Nat)
  byCertainty : List (String × Int)
  deriving DecidableEq, Repr

def summary (report : Report) : Summary :=
  { files := report.graph.nodes.length
    edges := report.graph.edges.length
    cycles := report.cycles.length
    findings := report.groups.map (fun (name, findings) => (name, findings.length))
    byCertainty := report.byCertainty }

def Summary.toJson (summary : Summary) : Json :=
  .object [("files", .int summary.files), ("edges", .int summary.edges),
    ("cycles", .int summary.cycles),
    ("findings", .object (summary.findings.map (fun (name, size) => (name, .int size)))),
    ("by_certainty", .object (summary.byCertainty.map (fun (name, size) => (name, .int size))))]

def cyclesJson (cycles : List (List String)) : Json := .array (cycles.map Json.ofStrings)

def toJson (report : Report) : Json :=
  .object [("summary", report.summary.toJson),
    ("findings", .object
      (report.groups.map (fun (name, findings) => (name, Finding.listJson findings)))),
    ("cycles", cyclesJson report.cycles), ("graph", report.graph.toJson)]

/-- Runs one analyzer and files its findings; those of a later analyzer replace an earlier group of
the same name. -/
def file (map : RepoMap) (index : UsageIndex) (excluded : List String)
    (groups : List (String × List Finding)) (analyzer : Analyzer) :
    List (String × List Finding) :=
  if analyzer.supports map then
    Assoc.put analyzer.group (keepIncluded excluded (analyzer.findings map index)) groups
  else groups

def compile (map : RepoMap) (settings : Settings) (analyzers : List Analyzer) : Report :=
  let index := UsageIndex.build map settings.extensions
  let graph := Graph.ofRepoMap map settings.extensions
  { groups := analyzers.foldl (file map index settings.excluded) []
    cycles := graph.cycles
    graph }

end Report

end Linkage
