import Linkage.Analysis
/-!
A workspace: a repo map that is edited step by step, and the last index built of it. The index is not
refreshed by edits.
-/

namespace Linkage

structure Workspace where
  map : RepoMap := .empty
  index : Option UsageIndex := none

namespace Workspace

def put (workspace : Workspace) (path : String) (record : FileRecord) : Workspace :=
  { workspace with map := workspace.map.put path record }

def erase? (workspace : Workspace) (path : String) : Option Workspace :=
  if workspace.map.contains path then some { workspace with map := workspace.map.erase path }
  else none

def reindex (workspace : Workspace) (extensions : List String) : Workspace :=
  { workspace with index := some (.build workspace.map extensions) }

/-- The index to search with. One that is built only for a search is not kept. -/
def searchIndex (workspace : Workspace) (extensions : List String) : UsageIndex :=
  workspace.index.getD (.build workspace.map extensions)

def unused (workspace : Workspace) (extensions : List String) : List Finding :=
  Unused.find workspace.map (workspace.searchIndex extensions) Unused.defaultEntryPoints

def orphans (workspace : Workspace) (extensions : List String) : List Finding :=
  Orphans.find workspace.map (workspace.searchIndex extensions) Naming.defaultSuffixes
    Naming.defaultBeginnings

end Workspace

end Linkage
