import Linkage.Pattern
/-!
Naming conventions: endings that mark infrastructure classes and beginnings that mark factories.
-/

namespace Linkage.Naming

def defaultSuffixes : List String :=
  ["Client", "Connection", "Pool", "Service", "Provider", "Manager", "Factory", "Repository",
    "Gateway", "Adapter", "Handler", "Broker", "Queue", "Cache", "Store", "Transport", "Channel",
    "Socket", "Server", "Database"]

def defaultBeginnings : List String :=
  ["create", "make", "build", "new", "init", "setup", "connect"]

/-- Names that end in one of the words, a line feed at the very end aside. -/
def infrastructure (suffixes : List String) : Pattern := .followed (.oneOf suffixes) .finish

/-- Names that start with one of the words and go on with a capital letter from A to Z. -/
def factory (beginnings : List String) : Pattern :=
  .followed .start (.followed (.oneOf beginnings) (.range 'A' 'Z'))

def isInfrastructure (suffixes : List String) (name : String) : Bool :=
  (infrastructure suffixes).search name

def isFactory (beginnings : List String) (name : String) : Bool := (factory beginnings).search name

end Linkage.Naming
