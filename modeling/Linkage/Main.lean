import Linkage.Command.Execution
import Linkage.Command.Scope
import Linkage.Log.Stamp
/-!
The command line program. It takes a picture of the files that a run depends on, carries the run out
on the picture, and writes back what has changed.
-/

namespace Linkage.Program

def entryAt (path : String) : IO (Option Entry) := do
  try
    let bytes ← IO.FS.readBinFile path
    match String.fromUTF8? bytes with
    | some text => return some (.file (.text text))
    | none => return some (.file (.bytes bytes.toList))
  catch _ =>
    try
      let real ← IO.FS.realPath path
      return if ← real.isDir then some .directory else none
    catch _ => return none

def picture (places : List Place) : IO FileTree := do
  let mut entries : List (Place × Entry) := []
  for place in places.eraseDups do
    if !place.isEmpty then
      if let some entry ← entryAt place.text then
        entries := (place, entry) :: entries
  return .ofList entries.reverse

/-- The time, read off a file that is made for the purpose. -/
def now : IO String := do
  let (_, path) ← IO.FS.createTempFile
  let modified := (← path.metadata).modified
  IO.FS.removeFile path
  return Log.Stamp.text modified.sec.toNat (modified.nsec.toNat / 1000000)

def writeBack (before after : FileTree) : IO Unit := do
  for (path, content) in after.changedFrom before do
    IO.FS.createDirAll (Location.ofText path).parent.text
    match content with
    | .text text => IO.FS.writeFile path text
    | .bytes values => IO.FS.writeBinFile path ⟨values.toArray⟩

def hostOf (invocation : Command.Invocation) : IO Host := do
  let current := (Location.ofText (← IO.currentDir).toString).segments
  let home := (Location.ofText ((← IO.getEnv "HOME").getD "/")).segments
  let tree ← picture (current :: invocation.places current home)
  return { tree, current, home, limits := .usual, stamp := ← now }

def run (words : List String) : IO UInt32 := do
  let host ←
    match Command.Invocation.ofWords words with
    | .ok invocation => hostOf invocation
    | .error _ => pure {}
  let (outcome, after) := Command.run words host
  writeBack host.tree after.tree
  IO.eprint (after.console ++ outcome.complaint)
  IO.print outcome.output
  match outcome.served with
  | some (address, port) =>
    IO.println (String.intercalate ":" (address ++ port.map toString))
  | none => pure ()
  match outcome.ending with
  | .exit code => return UInt32.ofNat code
  | .fault fault =>
    IO.eprintln fault.message
    return 1

end Linkage.Program

def main (words : List String) : IO UInt32 := Linkage.Program.run words
