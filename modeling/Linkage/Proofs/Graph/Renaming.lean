import Linkage.Graph.Cycles
import Linkage.Proofs.Graph.Walks
/-!
Renaming the nodes of a graph. The search for cycles only compares nodes with one another, so giving
them other names, different nodes different ones, gives the same cycles under the new names. Renaming
the files of a repo map renames the nodes of its graph, as long as the imports still resolve to the
same files.
-/

namespace Linkage

def Edge.rename (f : String → String) (edge : Edge) : Edge := ⟨f edge.source, f edge.target⟩

def Graph.rename (f : String → String) (graph : Graph) : Graph :=
  { nodes := graph.nodes.map f, edges := graph.edges.map (Edge.rename f) }

def Frame.rename (f : String → String) (frame : Frame) : Frame := ⟨f frame.node, frame.pending.map f⟩

def Search.rename (f : String → String) (search : Search) : Search :=
  { frames := search.frames.map (Frame.rename f)
    path := search.path.map f
    active := search.active.map f
    visited := search.visited.map f
    cycles := search.cycles.map (List.map f) }

section

variable {f : String → String} (injective : Function.Injective f)

include injective

theorem contains_map_of_injective (texts : List String) (text : String) :
    (texts.map f).contains (f text) = texts.contains text := by
  rw [Bool.eq_iff_iff, List.contains_iff_mem, List.contains_iff_mem,
    List.mem_map_of_injective injective]

theorem ne_comp_of_injective (text : String) :
    (fun other => other != f text) ∘ f = fun other => other != text := by
  funext other
  simp [bne, injective.eq_iff]

theorem Graph.targets_rename (graph : Graph) (node : String) :
    targets (graph.rename f).adjacency (f node) = (targets graph.adjacency node).map f := by
  have leaves : (fun edge : Edge => decide (edge.source = f node)) ∘ Edge.rename f =
      fun edge : Edge => decide (edge.source = node) := by
    funext edge
    exact decide_eq_decide.mpr injective.eq_iff
  rw [targets_adjacency, targets_adjacency, targetsOf, targetsOf, rename, List.filter_map, leaves,
    List.map_map, List.map_map]
  rfl

namespace Search

theorem enter_rename (graph : Graph) (node : String) (search : Search) :
    (search.rename f).enter (graph.rename f).adjacency (f node) =
      (search.enter graph.adjacency node).rename f := by
  simp [enter, rename, Frame.rename, graph.targets_rename injective]

theorem leave_rename (node : String) (outer : List Frame) (search : Search) :
    (search.rename f).leave (f node) (outer.map (Frame.rename f)) =
      (search.leave node outer).rename f := by
  simp [leave, rename, List.map_dropLast, List.filter_map, ne_comp_of_injective injective]

theorem closing_rename (path : List String) (target : String) :
    closing (path.map f) (f target) = (closing path target).map f := by
  rw [closing, closing, List.dropWhile_map, ne_comp_of_injective injective, List.map_append,
    List.map_singleton]

theorem step_rename (graph : Graph) (search : Search) :
    (search.rename f).step (graph.rename f).adjacency = (search.step graph.adjacency).rename f := by
  obtain ⟨frames, path, active, visited, cycles⟩ := search
  match frames with
  | [] => rfl
  | ⟨node, []⟩ :: outer => exact leave_rename injective node outer _
  | ⟨node, target :: pending⟩ :: outer =>
    simp only [step, rename, Frame.rename, List.map_cons, contains_map_of_injective injective,
      closing_rename injective]
    split
    · exact enter_rename injective graph target
        ⟨⟨node, pending⟩ :: outer, path, active, visited, cycles⟩
    · split <;> simp [Frame.rename]

theorem run_rename (graph : Graph) (bound : Nat) (search : Search) :
    (search.rename f).run (graph.rename f).adjacency bound =
      (search.run graph.adjacency bound).rename f := by
  induction bound generalizing search with
  | zero => rfl
  | succ bound ih =>
    have open_frames : (search.rename f).frames.isEmpty = search.frames.isEmpty := List.isEmpty_map
    rw [run, run, open_frames, step_rename injective, ih]
    split <;> rfl

theorem visit_rename (graph : Graph) (search : Search) (root : String) :
    visit (graph.rename f) (graph.rename f).adjacency (search.rename f) (f root) =
      (visit graph graph.adjacency search root).rename f := by
  have seen : (search.rename f).visited.contains (f root) = search.visited.contains root :=
    contains_map_of_injective injective _ _
  have same_bound : bound (graph.rename f) = bound graph := by simp [bound, Graph.rename]
  rw [visit, visit, seen, same_bound, enter_rename injective, run_rename injective]
  split <;> rfl

theorem all_rename (graph : Graph) : all (graph.rename f) = (all graph).rename f := by
  calc all (graph.rename f)
      = graph.nodes.foldl (fun search root =>
          visit (graph.rename f) (graph.rename f).adjacency search (f root)) (rename f {}) :=
        List.foldl_map
    _ = (all graph).rename f := List.foldl_hom (rename f) (visit_rename injective graph)

end Search

theorem Graph.cycles_rename (graph : Graph) :
    (graph.rename f).cycles = graph.cycles.map (List.map f) := by
  rw [cycles, Search.all_rename injective]
  rfl

end

/-! ### Repo maps -/

theorem Assoc.keys_rename {α : Type} (f : String → String) (entries : List (String × α)) :
    keys (entries.map (Prod.map f id)) = (keys entries).map f := by
  simp [keys, Function.comp_def]

def RepoMap.rename (f : String → String) (map : RepoMap) (distinct : (map.paths.map f).Nodup) :
    RepoMap where
  files := map.files.map (Prod.map f id)
  distinct := by
    rw [Assoc.keys_rename]
    exact distinct

def Link.rename (f : String → String) (link : Link) : Link :=
  { link with importer := f link.importer, target := f link.target }

section

variable {f : String → String} {map : RepoMap} {extensions : List String}
  (distinct : (map.paths.map f).Nodup)

theorem RepoMap.paths_rename : (map.rename f distinct).paths = map.paths.map f :=
  Assoc.keys_rename f map.files

theorem RepoMap.imports_rename :
    (map.rename f distinct).imports = map.imports.map (Prod.map f id) := by
  simp [imports, rename, List.flatMap_map, List.map_flatMap, Function.comp_def]

variable (resolved : ∀ importer entry, (importer, entry) ∈ map.imports →
  Resolution.resolve (map.paths.map f) extensions (f importer) entry.source =
    (Resolution.resolve map.paths extensions importer entry.source).map f)

include resolved

theorem RepoMap.links_rename :
    (map.rename f distinct).links extensions = (map.links extensions).map (Link.rename f) := by
  rw [links, links, imports_rename, paths_rename, List.filterMap_map, List.map_filterMap]
  apply List.filterMap_congr
  rintro ⟨importer, entry⟩ member
  simp only [Function.comp_apply, Prod.map, id, resolved importer entry member, Option.map_map]
  rfl

theorem Graph.ofRepoMap_rename :
    ofRepoMap (map.rename f distinct) extensions = (ofRepoMap map extensions).rename f := by
  rw [ofRepoMap_eq, RepoMap.links_rename distinct resolved, RepoMap.paths_rename, List.map_map]
  simp only [ofRepoMap_eq, rename, List.map_map]
  rfl

end

end Linkage
