/-
The command line program: reads the files that a run looks at, runs it, and writes what changed.
-/
import Trellis.Calendar
import Trellis.Command.Basic

namespace Trellis.Command

/-- Reads a place into files; what cannot be read is left out. -/
partial def fetch (files : Files) (place : Place) : IO Files := do
  if place.path.isEmpty then return files
  let path := (← IO.currentDir) / place.path
  if ← path.isDir then
    let files := if files.has place.path then files else
      { files with
        tree := FileTree.set (.folder []) (Path.names (files.full place.path)) files.tree }
    if place.endings.isEmpty then return files
    (← path.readDir).foldlM (fun files entry =>
      fetch files { place with path := Path.join [place.path, entry.fileName] }) files
  else if !place.endings.isEmpty && !place.endings.contains (Path.ending place.path) then
    return files
  else
    try return files.put place.path (← IO.FS.readFile path)
    catch _ => return files

/-- The variables of the environment. -/
def environment : IO (List (String × String)) := do
  try
    let text ← IO.FS.readFile "/proc/self/environ"
    return (Text.splitOnChar text '\x00').filterMap (Text.cut? · "=")
  catch _ => return []

/-- The time at which the program was started. -/
def startTime : IO String := do
  try
    let data ← ((← IO.currentDir) / "/proc/self").metadata
    return (Calendar.ofSeconds data.modified.sec).stamp
  catch _ => return ""

/-- Whether arguments ask for the input. -/
def asksForInput (args : List String) : Bool := args.contains "-" || args.contains Verb.shell.name

end Trellis.Command

open Trellis Command in
def main (args : List String) : IO UInt32 := do
  let here := (← IO.currentDir).toString
  let vars ← environment
  let env := fun (name : String) => ((vars.find? (·.1 == name)).map (·.2)).getD ""
  let folder : Files := { tree := FileTree.set (.folder []) (Path.names here) (.folder []), here }
  let input ← if asksForInput args then do (← IO.getStdin).readToEnd else pure ""
  let start : Start := { args, env, home := env "HOME", files := folder, input, now := ← startTime }
  let start := { start with files := ← (settingsPlaces start).foldlM fetch start.files }
  let start := { start with files := ← (places start).foldlM fetch start.files }
  let outcome := run start
  (← IO.getStdout).putStr outcome.output
  (← IO.getStderr).putStr outcome.complaints
  for (path, body) in changes start.files outcome.files do
    IO.FS.createDirAll (Path.folder path)
    IO.FS.writeFile path body
  match outcome.fault with
  | none => return 0
  | some f =>
    (← IO.getStderr).putStr ("error: " ++ f.text ++ "\n")
    return 1
