/-!
How faults are dealt with, whether they are found by the program or raised by a plugin.
-/

namespace Linkage

/-- Something was not found, the repo map or the settings are refused, the run just failed, or it is
to end at once, which nothing on the way prevents. -/
inductive Fault.Kind where
  | notFound | repoMap | settings | other | exit
  deriving DecidableEq, Repr

structure Raised where
  text : String
  kind : Fault.Kind := .other
  deriving DecidableEq, Repr

end Linkage
