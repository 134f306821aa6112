import Linkage.Host
/-!
Setting up the log: a console, and a file that gets everything.
-/

namespace Linkage.Log

/-- The place of a log file. A tilde means nothing here. -/
def placeOf (current : Place) (location : Location) : Place := location.resolve current

def pathText (current : Place) (location : Location) : String :=
  if location.slashes = 2 then "/" ++ (placeOf current location).text
  else (placeOf current location).text

/-- Opens a log file, which is made if there is none. -/
def openFile (location : Location) : Action Place := do
  if location.hasNull then throw .nullCharacter
  let host ← get
  let place := placeOf host.current location
  let target ← Action.ofExcept (.file · (pathText host.current location))
    (host.tree.target host.current (.ofPlace place))
  set { host with tree := host.tree.append target "" }
  return target

/-- Sets up the log anew. When the file cannot be opened the console stays set up. -/
def configure (verbosity : Verbosity) (file : Option Location) : Action Unit := do
  match verbosity.level? with
  | none => throw .conflictingFlags
  | some level =>
    modify (fun host => { host with logger := host.logger.toConsole level })
    match file with
    | none => pure ()
    | some location =>
      let place ← openFile location
      modify (fun host => { host with logger := host.logger.andFile place })

end Linkage.Log
