import Linkage.Json.Basic
import Linkage.RepoMap.Basic
/-!
Dependency graphs: files and one edge for every import that resolves. Nodes and edges are lists, so a
graph made by hand may repeat either and may have edges between unlisted nodes.
-/

namespace Linkage

structure Edge where
  source : String
  target : String
  deriving DecidableEq, Repr

def Edge.toJson (edge : Edge) : Json :=
  .object [("from", .string edge.source), ("to", .string edge.target)]

structure Graph where
  nodes : List String := []
  edges : List Edge := []
  deriving DecidableEq, Repr

namespace Graph

def addImport (files extensions : List String) (importer : String) (graph : Graph) (entry : Import) :
    Graph :=
  match Resolution.resolve files extensions importer entry.source with
  | none => graph
  | some target => { graph with edges := graph.edges ++ [⟨importer, target⟩] }

def ofRepoMap (map : RepoMap) (extensions : List String) : Graph :=
  map.files.foldl
    (fun graph (path, record) => record.imports.foldl (addImport map.paths extensions path) graph)
    { nodes := map.paths }

/-- Every node with its targets in edge order: first the listed nodes, then sources that are not
listed. -/
def adjacency (graph : Graph) : List (String × List String) :=
  graph.edges.foldl
    (fun rows edge => Assoc.modify edge.source [] (· ++ [edge.target]) rows)
    (graph.nodes.foldl (fun rows node => Assoc.put node [] rows) [])

def targets (rows : List (String × List String)) (node : String) : List String :=
  (Assoc.get? node rows).getD []

def toJson (graph : Graph) : Json :=
  .object [("nodes", .ofStrings graph.nodes), ("edges", .array (graph.edges.map Edge.toJson))]

end Graph

end Linkage
