import Linkage.Graph.Basic
/-!
Import cycles by depth-first search. The search keeps a stack of frames, one for each node on the
path from the root, with the targets that are still to be looked at. A target on the path closes a
cycle. A node is entered once in the whole search, whichever root reaches it first.
-/

namespace Linkage

structure Frame where
  node : String
  pending : List String
  deriving DecidableEq, Repr

/-- Where a search stands. Frames are innermost first; the path is root first. -/
structure Search where
  frames : List Frame := []
  path : List String := []
  active : List String := []
  visited : List String := []
  cycles : List (List String) := []
  deriving DecidableEq, Repr

namespace Search

def enter (rows : List (String × List String)) (node : String) (search : Search) : Search :=
  { search with
    frames := ⟨node, Graph.targets rows node⟩ :: search.frames
    path := search.path ++ [node]
    active := node :: search.active
    visited := node :: search.visited }

def leave (node : String) (outer : List Frame) (search : Search) : Search :=
  { search with
    frames := outer
    path := search.path.dropLast
    active := search.active.filter (· != node) }

def closing (path : List String) (target : String) : List String :=
  path.dropWhile (· != target) ++ [target]

/-- Looks at one target of the innermost node, or leaves the node when none is left. -/
def step (rows : List (String × List String)) (search : Search) : Search :=
  match search.frames with
  | [] => search
  | ⟨node, []⟩ :: outer => search.leave node outer
  | ⟨node, target :: pending⟩ :: outer =>
    let advanced := { search with frames := ⟨node, pending⟩ :: outer }
    if !search.visited.contains target then advanced.enter rows target
    else if search.active.contains target then
      { advanced with cycles := search.cycles ++ [closing search.path target] }
    else advanced

def run (rows : List (String × List String)) : Nat → Search → Search
  | 0, search => search
  | bound + 1, search => if search.frames.isEmpty then search else run rows bound (step rows search)

/-- A bound on the steps from any root: every target is looked at once and every node left once. -/
def bound (graph : Graph) : Nat := graph.nodes.length + 2 * graph.edges.length + 1

/-- Visits all that is reachable from a root, unless the root was reached before. -/
def visit (graph : Graph) (rows : List (String × List String)) (search : Search) (root : String) :
    Search :=
  if search.visited.contains root then search
  else run rows (bound graph) (search.enter rows root)

def all (graph : Graph) : Search :=
  graph.nodes.foldl (visit graph graph.adjacency) {}

end Search

/-- The import cycles of a graph, each starting and ending on the same node. -/
def Graph.cycles (graph : Graph) : List (List String) := (Search.all graph).cycles

def RepoMap.cycles (map : RepoMap) (extensions : List String) : List (List String) :=
  (Graph.ofRepoMap map extensions).cycles

end Linkage
