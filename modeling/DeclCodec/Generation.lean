import DeclCodec.Emit.Render

/-!
# Generation runs

A run turns units into modules, package by package in ascending order of the
package names, and hands each module's text over as soon as it is complete. The
first package that fails ends the run; what was handed over before stays so.

A run is described by its events in the order in which they happen, and by its
result. The texts handed over and the log are two views of the events. Nothing of
a package is handed over unless all of it succeeds.
-/

namespace DeclCodec

/-- How important a log entry is. -/
inductive Level
  | debug
  | info
  | warning
  | error
deriving DecidableEq, Repr

/-- The word for a level. -/
def Level.text : Level → String
  | .debug => "DEBUG"
  | .info => "INFO"
  | .warning => "WARNING"
  | .error => "ERROR"

/-- The place of a level in ascending order of importance. -/
def Level.rank : Level → Nat
  | .debug => 0
  | .info => 1
  | .warning => 2
  | .error => 3

/-- An entry of the log. -/
structure LogEntry where
  level : Level
  text : String
deriving DecidableEq, Repr

/-- What happens in a run. -/
inductive Event
  | logged (entry : LogEntry)
  | handedOver (package text : String)
deriving DecidableEq, Repr

/-- What a run did, and what came of it. -/
structure Run (α : Type) where
  events : List Event
  result : Except Fault α

/-- The log entry of an event. -/
def Event.logged? : Event → Option LogEntry
  | .logged entry => some entry
  | .handedOver _ _ => none

/-- The package and the text that an event hands over. -/
def Event.output? : Event → Option (String × String)
  | .logged _ => none
  | .handedOver package text => some (package, text)

namespace Run

/-- The log of a run. -/
def log {α : Type} (run : Run α) : List LogEntry := run.events.filterMap Event.logged?

/-- The texts handed over in a run, each with its package. -/
def outputs {α : Type} (run : Run α) : List (String × String) := run.events.filterMap Event.output?

end Run

/-- The level at which the steps of a run are reported. -/
def Settings.stepLevel (settings : Settings) : Level := if settings.trace then .info else .debug

/-- The events of reporting steps. -/
def Settings.stepEvents (settings : Settings) (steps : List Step) : List Event :=
  steps.map fun step => .logged ⟨settings.stepLevel, step.message⟩

/-- Reporting hands nothing over. -/
theorem Settings.outputs_stepEvents (settings : Settings) (steps : List Step) :
    (settings.stepEvents steps).filterMap Event.output? = [] := by
  simp [stepEvents, Event.output?]

/-- Turn the units of one package into its module. -/
def processPackage (name : String) (settings : Settings) (units : List DeclUnit) : Run String :=
  match Package.collect name settings units with
  | .error failure => ⟨settings.stepEvents failure.steps, .error failure.fault⟩
  | .ok package =>
    let reported := settings.stepEvents (package.collectSteps ++ [package.emittingStep])
    match package.emit with
    | .error fault => ⟨reported, .error fault⟩
    | .ok text => ⟨reported ++ [.handedOver name text], .ok text⟩

/-- A package hands over its module's text and nothing else, and that only if it succeeds. -/
theorem outputs_processPackage (name : String) (settings : Settings) (units : List DeclUnit) :
    (processPackage name settings units).outputs =
      match (processPackage name settings units).result with
      | .ok text => [(name, text)]
      | .error _ => [] := by
  unfold processPackage Run.outputs
  split
  · exact settings.outputs_stepEvents _
  · dsimp only
    split
    · exact settings.outputs_stepEvents _
    · simp only [List.filterMap_append, settings.outputs_stepEvents]
      rfl

/-- Add a unit to the group of its package. A new group goes to the end. -/
def addToGroup (unit : DeclUnit) : List (String × List DeclUnit) → List (String × List DeclUnit)
  | [] => [(unit.package, [unit])]
  | (package, units) :: rest =>
    if unit.package = package then (package, units ++ [unit]) :: rest
    else (package, units) :: addToGroup unit rest

/-- Add a unit to the group of its package, which it must have. -/
def groupUnit (groups : List (String × List DeclUnit)) (unit : DeclUnit) :
    Except Fault (List (String × List DeclUnit)) :=
  if unit.package = "" then .error (.missingPackage unit.name) else .ok (addToGroup unit groups)

/-- The units by package, in the order in which the packages first appear. -/
def groupUnits (units : List DeclUnit) : Except Fault (List (String × List DeclUnit)) :=
  units.foldlM groupUnit []

/-- What is logged when a package fails. Only faults of the declarations are reported. -/
def failureEvents (package : String) (finished : Nat) (fault : Fault) : List Event :=
  if fault.isGeneration then
    [.logged ⟨.error,
      package ++ ": generation failed after " ++ toString finished ++ " packages"⟩]
  else []

/-- Process packages one after another, given the names of those already finished. -/
def processEach (settings : Settings) (finished : List String) :
    List (String × List DeclUnit) → Run (List String)
  | [] => ⟨[], .ok finished⟩
  | (package, units) :: rest =>
    let run := processPackage package settings units
    match run.result with
    | .error fault => ⟨run.events ++ failureEvents package finished.length fault, .error fault⟩
    | .ok _ =>
      let later := processEach settings (finished ++ [package]) rest
      ⟨run.events ++ later.events, later.result⟩

/-- Generate the modules of all packages in the units, in ascending order of the package names. The
result names the packages. -/
def generate (settings : Settings) (units : List DeclUnit) : Run (List String) :=
  match groupUnits units with
  | .error fault => ⟨[], .error fault⟩
  | .ok groups => processEach settings [] (Text.sortBy (·.1) groups)

end DeclCodec
