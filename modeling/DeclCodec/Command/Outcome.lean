import DeclCodec.Files.Units
import DeclCodec.Generation
import DeclCodec.Text.Markup

/-!
# Outcomes of commands

A command works on a tree of files. It leaves a tree, prints something, logs
something, and ends in one of five ways: it is done; it is refused because of the
declarations; it breaks off because of a file or of a tag's text; it breaks off
because a text on its way to the screen is marked up wrongly; or its command line
cannot be understood.
-/

namespace DeclCodec

/-- How a command ends. -/
inductive Ending
  | done
  | refused (fault : Fault)
  | brokenOff (fault : SourceFault)
  | unshowable (fault : Text.MarkupFault)
  | misused
deriving DecidableEq

namespace Ending

/-- How a command ends that meets a fault. -/
def ofFault : SourceFault → Ending
  | .declarations fault =>
    if fault.isGeneration then .refused fault else .brokenOff (.declarations fault)
  | .file fault => .brokenOff (.file fault)

/-- The number with which a command ends. -/
def exitCode : Ending → Nat
  | .done => 0
  | .refused _ => 1
  | .brokenOff _ => 1
  | .unshowable _ => 1
  | .misused => 2

/-- What is printed about faults. -/
def errors : Ending → String
  | .done => ""
  | .refused fault => "refgen: " ++ fault.message ++ "\n"
  | .brokenOff _ => ""
  | .unshowable _ => ""
  | .misused => "refgen: cannot understand the command line\n"

/-- A command ends with zero only if it is done. -/
theorem exitCode_eq_zero {ending : Ending} : ending.exitCode = 0 ↔ ending = .done := by
  cases ending <;> simp [exitCode]

end Ending

/-- What a command leaves. -/
structure Outcome where
  ending : Ending
  output : String
  log : List LogEntry
  files : Files

/-- A command that changes no file and logs nothing. -/
def Outcome.quiet (files : Files) (ending : Ending) (output : String) : Outcome :=
  ⟨ending, output, [], files⟩

/-- A command that is not understood does nothing. -/
def Outcome.misused (files : Files) : Outcome := .quiet files .misused ""

end DeclCodec
