import DeclCodec.Command.Arguments
import DeclCodec.Command.Outcome

/-!
# Generating the modules of directories

The command takes directories one after another. In each it generates the
packages whose module is out of date, or all of them if it is told to, and writes
each module next to its declarations. It stops at the first fault; what was
written before stays.

A package is out of date if its module is missing or older than one of its
declaration files. When the modules are printed instead of written, all packages
are generated.
-/

namespace DeclCodec

/-- What the command is told. -/
structure GenerateOptions where
  settings : Settings
  /-- Print the modules instead of writing them. -/
  toOutput : Bool
  directories : List String
deriving DecidableEq, Repr

namespace GenerateOptions

/-- The options of the command. -/
def forms : List OptionForm :=
  [⟨"id-type", none, true⟩, ⟨"suffix", none, true⟩, ⟨"force", none, false⟩, ⟨"trace", none, false⟩,
    ⟨"import", none, true⟩, ⟨"runtime-import", none, true⟩, ⟨"stdout", none, false⟩]

/-- What the command is told by its command line, on which there must be a directory. -/
def ofWords? (words : List String) : Option GenerateOptions := do
  let arguments ← Arguments.parse forms words
  if arguments.positional.isEmpty then failure
  let standard : Settings := {}
  pure {
    settings := { standard with
      idType := (arguments.value? "id-type").getD standard.idType
      suffix := (arguments.value? "suffix").getD standard.suffix
      force := arguments.has "force"
      trace := arguments.has "trace"
      imports := arguments.values "import"
      runtimeImport := (arguments.value? "runtime-import").getD standard.runtimeImport }
    toOutput := arguments.has "stdout"
    directories := arguments.positional }

/-- The least important level that is logged. -/
def logLevel (options : GenerateOptions) : Level :=
  if options.settings.trace then .info else .warning

/-- The module file of a package in a directory. -/
def target (options : GenerateOptions) (directory package : String) : String :=
  (outputFile directory package options.settings.suffix).text

/-- Is a package to be generated? -/
def wants (options : GenerateOptions) (files : Files) (directory package : String)
    (units : List DeclUnit) : Except FileFault Bool :=
  if options.settings.force || options.toOutput then .ok true
  else
    files.needsUpdate (options.target directory package)
      (units.map fun unit => (Files.fileIn directory unit.name).text)

/-- The units of the packages to be generated, and the lines about the others. -/
def select (options : GenerateOptions) (files : Files) (directory : String) :
    List (String × List DeclUnit) → String × Except FileFault (List DeclUnit)
  | [] => ("", .ok [])
  | (package, units) :: rest =>
    match options.wants files directory package units with
    | .error fault => ("", .error fault)
    | .ok true =>
      let later := options.select files directory rest
      (later.1, later.2.map (units ++ ·))
    | .ok false =>
      let later := options.select files directory rest
      (options.target directory package ++ " is up to date\n" ++ later.1, later.2)

end GenerateOptions

/-- What the command has done so far. -/
structure Workspace where
  files : Files
  output : String
  log : List LogEntry

namespace Workspace

/-- Print a text. -/
def print (workspace : Workspace) (text : String) : Workspace :=
  { workspace with output := workspace.output ++ text }

/-- Log an entry that is important enough. -/
def record (workspace : Workspace) (level : Level) (entry : LogEntry) : Workspace :=
  if level.rank ≤ entry.level.rank then { workspace with log := workspace.log ++ [entry] }
  else workspace

/-- Write the module of a package, or print it. -/
def deliver (workspace : Workspace) (options : GenerateOptions) (now : Time)
    (directory package text : String) : Except FileFault Workspace :=
  if options.toOutput then .ok (workspace.print text)
  else do
    let path := options.target directory package
    let files ← workspace.files.write path text now
    pure ({ workspace with files }.print ("Generated " ++ path ++ "\n"))

/-- Do what the events of a run ask for, up to the first text that cannot be written. -/
def perform (workspace : Workspace) (options : GenerateOptions) (now : Time) (directory : String) :
    List Event → Workspace × Option FileFault
  | [] => (workspace, none)
  | .logged entry :: rest =>
    (workspace.record options.logLevel entry).perform options now directory rest
  | .handedOver package text :: rest =>
    match workspace.deliver options now directory package text with
    | .error fault => (workspace, some fault)
    | .ok workspace => workspace.perform options now directory rest

/-- Generate the packages of a directory. -/
def generateDirectory (workspace : Workspace) (options : GenerateOptions) (now : Time)
    (directory : String) : Workspace × Option SourceFault :=
  match workspace.files.loadUnits directory with
  | .error fault => (workspace, some fault)
  | .ok units =>
    match groupUnits units with
    | .error fault => (workspace, some (.declarations fault))
    | .ok groups =>
      match options.select workspace.files directory groups with
      | (notices, .error fault) => (workspace.print notices, some (.file fault))
      | (notices, .ok stale) =>
        let run := generate options.settings stale
        match (workspace.print notices).perform options now directory run.events with
        | (workspace, some fault) => (workspace, some (.file fault))
        | (workspace, none) =>
          match run.result with
          | .error fault => (workspace, some (.declarations fault))
          | .ok _ => (workspace, none)

/-- Generate the packages of directories, up to the first fault. -/
def generateAll (workspace : Workspace) (options : GenerateOptions) (now : Time) :
    List String → Workspace × Option SourceFault
  | [] => (workspace, none)
  | directory :: rest =>
    match workspace.generateDirectory options now directory with
    | (workspace, some fault) => (workspace, some fault)
    | (workspace, none) => workspace.generateAll options now rest

end Workspace

/-- The command, run at some time. Every directory has to be there. -/
def runGenerate (files : Files) (now : Time) (words : List String) : Outcome :=
  match GenerateOptions.ofWords? words with
  | none => .misused files
  | some options =>
    if options.directories.all files.isDirectory then
      match (⟨files, "", []⟩ : Workspace).generateAll options now options.directories with
      | (workspace, fault?) =>
        ⟨(fault?.map Ending.ofFault).getD .done, workspace.output, workspace.log, workspace.files⟩
    else .misused files

end DeclCodec
