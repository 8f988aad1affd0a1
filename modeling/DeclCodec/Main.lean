import DeclCodec.Command.Run

/-!
# The command line

The directories and files that the command line names are read into a tree, the
command is run on it, and the files that it leaves are written. Everything else is
decided by the command.
-/

namespace DeclCodec

/-- The time of the present moment, as the file system gives it to a file that is made now. -/
def presentTime : IO Time :=
  IO.FS.withTempFile fun _ path => do
    let modified := (← path.metadata).modified
    pure (modified.sec * 1000000000 + modified.nsec.toNat)

/-- Add the file or directory at a path. Only the texts of declaration files, and of a file that is
named itself, are read. -/
def addNode (files : Files) (now : Time) (location : Location) (named : Bool) : IO Files := do
  let path := "/" ++ "/".intercalate location
  match ← ((← IO.currentDir) / path).metadata.toBaseIO with
  | .error _ => pure files
  | .ok data =>
    let changed := data.modified.sec * 1000000000 + data.modified.nsec.toNat
    match data.type with
    | .dir => pure (files.addDirectory location now)
    | .file =>
      let isRead := named || isSourceName (location.getLast?.getD "")
      let text ← if isRead then IO.FS.readFile path else pure ""
      pure (files.addFile location text changed now)
    | _ => pure files

/-- Add what a path leads to: every directory on the way, and what is in a directory at its end. -/
def addPath (files : Files) (now : Time) (text : String) : IO Files := do
  let path := Path.ofText text
  let mut files := files
  for length in List.range (path.names.length + 1) do
    files ← addNode files now (files.locationOf ⟨path.root, path.names.take length⟩) true
  if files.isDirectory text then
    let location := files.locationOf path
    for found in ← ((← IO.currentDir) / ("/" ++ "/".intercalate location)).readDir do
      files ← addNode files now (location ++ [found.fileName]) false
  pure files

/-- Write the files that a command has changed. -/
def writeChanges (before after : Files) : IO Unit := do
  for (location, node) in after.nodes do
    if before.nodes.lookup location ≠ some node then
      if let .file text _ := node then
        IO.FS.writeFile ("/" ++ "/".intercalate location) text

/-- Run the command on a command line and return its exit code. -/
def runCommandLine (words : List String) : IO UInt32 := do
  let now ← presentTime
  let place := (← IO.currentDir).components.filter Path.isStep
  let mut files : Files := (⟨place, []⟩ : Files).addDirectory place now
  for path in namedPaths words do
    files ← addPath files now path
  let outcome := runCommand files now words
  writeChanges files outcome.files
  for entry in outcome.log do
    IO.eprintln (entry.level.text ++ " " ++ entry.text)
  IO.print outcome.output
  IO.eprint outcome.ending.errors
  match outcome.ending with
  | .brokenOff fault => IO.eprintln fault.message
  | .unshowable fault => IO.eprintln fault.message
  | _ => pure ()
  pure (UInt32.ofNat outcome.ending.exitCode)

end DeclCodec

/-- The program. -/
def main (words : List String) : IO UInt32 := DeclCodec.runCommandLine words
