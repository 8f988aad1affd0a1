import DeclCodec.Command.Generate
import DeclCodec.Command.Overview

/-!
# Running a command

The first word of a command line names the command.
-/

namespace DeclCodec

/-- Run the command on a command line at some time. -/
def runCommand (files : Files) (now : Time) : List String → Outcome
  | [] => .misused files
  | command :: words =>
    if command = "gen" then runGenerate files now words
    else if command = "info" then runOverview files words
    else if command = "ident" then runDescribe files words
    else .misused files

/-- The paths of the directories and files that a command line names. -/
def namedPaths : List String → List String
  | [] => []
  | command :: words =>
    if command = "gen" then ((GenerateOptions.ofWords? words).map (·.directories)).getD []
    else if command = "info" then
      ((Arguments.parse overviewForms words).bind (·.value? "input")).toList
    else []

/-- Only generating changes files or logs anything. -/
theorem runCommand_quiet (files : Files) (now : Time) {command : String} (other : command ≠ "gen")
    (words : List String) :
    (runCommand files now (command :: words)).files = files ∧
      (runCommand files now (command :: words)).log = [] := by
  simp only [runCommand, if_neg other, runOverview, runDescribe]
  repeat' split
  all_goals exact ⟨rfl, rfl⟩

end DeclCodec
