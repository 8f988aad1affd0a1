import DeclCodec.Emit.Codec
import DeclCodec.Main
import DeclCodec.Wire.Session
import DeclCodec.Proofs.Json.Numbers
import DeclCodec.Proofs.Json.RoundTrip
import DeclCodec.Proofs.Number.Integers
import DeclCodec.Proofs.Traversal
import DeclCodec.Proofs.Wire.Parts
import DeclCodec.Proofs.Wire.Entries
import DeclCodec.Proofs.Wire.MapEntries
import DeclCodec.Proofs.Wire.Alike
import DeclCodec.Proofs.Wire.Canonical
import DeclCodec.Proofs.Number.Range
import DeclCodec.Proofs.Number.Spellings
import DeclCodec.Proofs.Wire.Matching
import DeclCodec.Proofs.Wire.Mismatch
import DeclCodec.Proofs.Wire.Travel
import DeclCodec.Proofs.Wire.Rereading
import DeclCodec.Proofs.Package.Acyclic
import DeclCodec.Proofs.Package.Collected
import DeclCodec.Proofs.Package.Aliases
import DeclCodec.Proofs.Emit.Expansion
import DeclCodec.Proofs.Emit.Loaded
import DeclCodec.Proofs.Session.Names
import DeclCodec.Proofs.Json.Printable
import DeclCodec.Proofs.Package.Structs
import DeclCodec.Proofs.Emit.Classes
import DeclCodec.Proofs.Session.Fits
import DeclCodec.Proofs.Session.Crossing
import DeclCodec.Proofs.Decl.Layout
import DeclCodec.Proofs.Decl.Types
import DeclCodec.Proofs.Decl.Reached
import DeclCodec.Proofs.Decl.Written
import DeclCodec.Proofs.Decl.Units
import DeclCodec.Proofs.Package.Origins
import DeclCodec.Proofs.Package.Wrappers
import DeclCodec.Proofs.Session.Members
import DeclCodec.Proofs.Session.Records
import DeclCodec.Proofs.Session.RoundTrip
import DeclCodec.Proofs.Emit.Annotations
import DeclCodec.Proofs.Session.Defaults
import DeclCodec.Proofs.Generation.Runs
import DeclCodec.Proofs.Emit.Emission
import DeclCodec.Proofs.Emit.Wrapped
import DeclCodec.Proofs.Package.Cycles
import DeclCodec.Proofs.Package.Refused
import DeclCodec.Proofs.Session.Finite
import DeclCodec.Proofs.Emit.NamesApart
import DeclCodec.Proofs.Json.Strict
import DeclCodec.Proofs.Wire.Strict
import DeclCodec.Proofs.Wire.Clean
import DeclCodec.Proofs.Command.Faults
import DeclCodec.Proofs.Command.UpToDate
import DeclCodec.Proofs.Json.Assembled
import DeclCodec.Proofs.Session.Selection
import DeclCodec.Proofs.Session.Agreement
import DeclCodec.Proofs.Session.Effect
import DeclCodec.Proofs.Text.Bytes
import DeclCodec.Proofs.Session.Omission
import DeclCodec.Proofs.Package.Mentions
import DeclCodec.Proofs.Emit.Imports
import DeclCodec.Proofs.Tag.Written
import DeclCodec.Proofs.Tag.Policies
import DeclCodec.Proofs.Text.Quoted
import DeclCodec.Proofs.Emit.NameLiterals
import DeclCodec.Proofs.Decl.PackageClauses
import DeclCodec.Proofs.Files.Directories
import DeclCodec.Proofs.Command.Stale
import DeclCodec.Proofs.Command.Handled
import DeclCodec.Proofs.Command.Effect
import DeclCodec.Proofs.Package.Search
import DeclCodec.Proofs.Decl.Scanned
import DeclCodec.Proofs.Decl.Passage
import DeclCodec.Proofs.Decl.Completion
import DeclCodec.Proofs.Text.Positions
import DeclCodec.Proofs.Decl.Mistakes
import DeclCodec.Proofs.Decl.Lines
import DeclCodec.Proofs.Decl.Bodies
