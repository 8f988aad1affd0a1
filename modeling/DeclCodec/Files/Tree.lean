import DeclCodec.Files.Path
import DeclCodec.Table

/-!
# A tree of files

The files that a command works with, as a value. Every file and every directory is
kept under its place, the row of names that leads to it from the root; the root
itself is always a directory. Everything has the time of its last change.

A path is followed name by name, and each name but the last has to lead to a
directory. `..` leads back to the directory above.
-/

namespace DeclCodec

/-- A modification time, as it is reported. Only the order of the times is used. -/
abbrev Time := Int

/-- A place in the tree: the names that lead to it from the root. -/
abbrev Location := List String

/-- What is kept at a place. -/
inductive Node
  | file (text : String) (changed : Time)
  | directory (changed : Time)
deriving DecidableEq, Repr

/-- The time of the last change. -/
def Node.changed : Node → Time
  | .file _ time => time
  | .directory time => time

/-- Is the node a file? -/
def Node.isFile : Node → Bool
  | .file _ _ => true
  | .directory _ => false

/-- Why a file cannot be used. -/
inductive FileFault
  | missing
  | notDirectory
  | isDirectory
deriving DecidableEq, Repr

/-- A tree of files and the directory in which paths start. -/
structure Files where
  workingDirectory : Location
  nodes : List (Location × Node)
deriving DecidableEq

namespace Files

/-- What is kept at a place. -/
def node? (files : Files) (place : Location) : Option Node :=
  if place = [] then some (.directory 0) else files.nodes.lookup place

/-- Follow names from a place. -/
def walk (files : Files) (place : Location) : List String → Except FileFault Location
  | [] => .ok place
  | name :: rest =>
    match files.node? place with
    | none => .error .missing
    | some (.file _ _) => .error .notDirectory
    | some (.directory _) =>
      if !Path.isStep name then walk files place rest
      else if name = ".." then walk files place.dropLast rest
      else walk files (place ++ [name]) rest

/-- The place at which a written path starts. -/
def start (files : Files) (path : String) : Location :=
  if Path.rootOf path.toList = "" then files.workingDirectory else []

/-- The place that a written path leads to. Nothing need be kept there. -/
def locate (files : Files) (path : String) : Except FileFault Location :=
  if path = "" then .error .missing
  else files.walk (files.start path) ((Text.splitAt '/' path.toList).map String.ofList)

/-- What is kept where a written path leads. -/
def find (files : Files) (path : String) : Except FileFault Node := do
  match files.node? (← files.locate path) with
  | some node => pure node
  | none => throw .missing

/-- The text of a file. -/
def read (files : Files) (path : String) : Except FileFault String := do
  match ← files.find path with
  | .file text _ => pure text
  | .directory _ => throw .isDirectory

/-- The tree with a text written to a file, which is made if it is not there. -/
def write (files : Files) (path text : String) (now : Time) : Except FileFault Files := do
  let place ← files.locate path
  match files.node? place with
  | some (.directory _) => throw .isDirectory
  | _ => pure { files with nodes := Table.put place (.file text now) files.nodes }

/-- The name of a place inside a directory. -/
def nameIn? (directory place : Location) : Option String :=
  match place.getLast? with
  | some name => if place.dropLast = directory then some name else none
  | none => none

/-- The names and nodes in a directory. -/
def list (files : Files) (path : String) : Except FileFault (List (String × Node)) := do
  let place ← files.locate path
  match files.node? place with
  | some (.directory _) =>
    pure (files.nodes.filterMap fun entry =>
      (nameIn? place entry.1).map fun name => (name, entry.2))
  | some (.file _ _) => throw .notDirectory
  | none => throw .missing

/-- Does the path lead to a directory? -/
def isDirectory (files : Files) (path : String) : Bool :=
  match files.find path with
  | .ok (.directory _) => true
  | _ => false

/-- Keep directories at a place and at every place above it, unless something is kept there. -/
def addDirectory (files : Files) (place : Location) (now : Time) : Files :=
  (List.range place.length).foldl
    (fun files depth =>
      let above := place.take (depth + 1)
      if (files.node? above).isSome then files
      else { files with nodes := files.nodes ++ [(above, .directory now)] })
    files

/-- Keep a file at a place, with directories at every place above it. -/
def addFile (files : Files) (place : Location) (text : String) (changed now : Time) : Files :=
  let files := files.addDirectory place.dropLast now
  { files with nodes := Table.put place (.file text changed) files.nodes }

/-- The place that names lead to if all of them but `..` lead down. -/
def locationOf (files : Files) (path : Path) : Location :=
  path.names.foldl
    (fun place name => if name = ".." then place.dropLast else place ++ [name])
    (files.start path.text)

end Files

end DeclCodec
