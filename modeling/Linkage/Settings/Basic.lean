import Linkage.Naming
import Linkage.Resolution
import Linkage.Unused
/-!
The settings of an analysis.
-/

namespace Linkage

structure Settings where
  /-- Extensions tried when an import is resolved. -/
  extensions : List String := Resolution.defaultExtensions
  /-- Stems of the files that are run from outside. -/
  entryPoints : List String := Unused.defaultEntryPoints
  /-- Endings of infrastructure class names. -/
  suffixes : List String := Naming.defaultSuffixes
  /-- Beginnings of factory function names. -/
  beginnings : List String := Naming.defaultBeginnings
  /-- The analyzers to run; all of them when absent. -/
  enabled : Option (List String) := none
  /-- Patterns of files whose findings are dropped. -/
  excluded : List String := []
  deriving DecidableEq, Repr

end Linkage
