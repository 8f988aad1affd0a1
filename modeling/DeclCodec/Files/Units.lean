import DeclCodec.Decl.UnitText
import DeclCodec.Files.Tree
import DeclCodec.Text.LineEnd
import DeclCodec.Text.Order

/-!
# Declaration files

The declaration files of a directory are its files whose names end with `.decl`
and have something in front of it. They are read in ascending order of their
names. A file without a package clause belongs to the package that is named like
its directory.

The module of a package is written next to its declarations. It is out of date if
it is missing or if a declaration file was changed after it.
-/

namespace DeclCodec

/-- Why declaration files cannot be used. -/
inductive SourceFault
  | file (fault : FileFault)
  | declarations (fault : Fault)
deriving DecidableEq

/-- The words of a fault. -/
def SourceFault.message : SourceFault → String
  | .file .missing => "no such file or directory"
  | .file .notDirectory => "not a directory"
  | .file .isDirectory => "is a directory"
  | .declarations fault => fault.message

/-- The end of the names of declaration files. -/
def sourceSuffix : String := ".decl"

/-- Is a file of this name a declaration file? -/
def isSourceName (name : String) : Bool :=
  name != sourceSuffix && sourceSuffix.toList.isSuffixOf name.toList

/-- The module file of a package. -/
def outputFile (directory package suffix : String) : Path :=
  (Path.ofText directory).join (.ofText (package ++ suffix ++ ".py"))

namespace Files

/-- The names of the declaration files in a directory, in ascending order. -/
def sourceNames (files : Files) (directory : String) : Except FileFault (List String) := do
  let entries ← files.list (Path.ofText directory).text
  pure (Text.sort ((entries.filter fun entry => isSourceName entry.1 && entry.2.isFile).map (·.1)))

/-- The path of a file in a directory. -/
def fileIn (directory name : String) : Path := (Path.ofText directory).join ⟨"", [name]⟩

/-- The declaration files of a directory. -/
def sourceFiles (files : Files) (directory : String) : Except FileFault (List Path) := do
  pure ((← files.sourceNames directory).map (fileIn directory))

/-- The text of a declaration file. -/
def unitText (files : Files) (path : Path) (package : String) : Except FileFault UnitText := do
  let text ← files.read path.text
  pure ⟨path.name, package, String.ofList (Text.unifyLineEnds text.toList)⟩

/-- Read declaration files one after another. -/
def readUnits (files : Files) (package : String) (paths : List Path) :
    Except SourceFault (List DeclUnit) := do
  let sources ← (paths.mapM fun path => files.unitText path package).mapError .file
  (UnitText.parseAll sources).mapError .declarations

/-- The name of a directory. -/
def directoryName (files : Files) (directory : Path) : String :=
  (files.locationOf directory).getLast?.getD ""

/-- Read the declaration files of a directory. -/
def loadUnits (files : Files) (directory : String) : Except SourceFault (List DeclUnit) := do
  let sources ← (files.sourceFiles directory).mapError .file
  files.readUnits (files.directoryName (Path.ofText directory)) sources

/-- Read a single declaration file. -/
def loadUnit (files : Files) (path : String) : Except SourceFault (List DeclUnit) :=
  let path := Path.ofText path
  files.readUnits ((files.locationOf path).dropLast.getLast?.getD "") [path]

/-- Is an output missing, or older than a source? The source has to be there if the output is. -/
def isOutOfDate (files : Files) (output source : String) : Except FileFault Bool :=
  match files.find output with
  | .error .missing => .ok true
  | .error fault => .error fault
  | .ok made => do
    let changed ← files.find source
    pure (decide (made.changed < changed.changed))

/-- Is an output out of date for one of its sources? The first one that shows it decides. -/
def needsUpdate (files : Files) (output : String) : List String → Except FileFault Bool
  | [] => .ok false
  | source :: rest => do
    if ← files.isOutOfDate output source then pure true else needsUpdate files output rest

end Files

end DeclCodec
