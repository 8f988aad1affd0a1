import DeclCodec.Command.Arguments
import DeclCodec.Command.Outcome
import DeclCodec.Json.Text
import DeclCodec.Text.Columns

/-!
# Describing a type expression

The command prints what a descriptor tells about a type: its two names, the number
of its pointer and slice layers, its key, and whether its values can be absent.
-/

namespace DeclCodec

/-- What a description says under one label. -/
inductive Detail
  | text (value : String)
  | count (value : Nat)
  | maybe (value : Option String)
  | truth (value : Bool)
deriving DecidableEq, Repr

namespace Detail

/-- The JSON value of a detail. -/
def json : Detail → Json
  | .text value => .str value
  | .count value => .int value
  | .maybe (some value) => .str value
  | .maybe none => .null
  | .truth value => .bool value

/-- The words for a detail. -/
def words : Detail → String
  | .text value => value
  | .count value => toString value
  | .maybe (some value) => value
  | .maybe none => "None"
  | .truth true => "True"
  | .truth false => "False"

end Detail

/-- The details of a type under their labels. -/
def Descriptor.details (type : Descriptor) : List (String × Detail) :=
  [("name", .text type.written),
    ("base", .text type.base),
    ("indirects", .count type.indirects),
    ("dims", .count type.dims),
    ("key", .maybe (type.key?.map Descriptor.written)),
    ("nullable", .truth type.nullable)]

/-- Text in lines. -/
def linesText (lines : List (List Char)) : String :=
  String.ofList (lines.flatMap fun line => line ++ ['\n'])

/-- The details as a table. -/
def Descriptor.detailsTable (type : Descriptor) : Except Text.MarkupFault String :=
  let labels := type.details.map fun entry => entry.1.toList
  let values := type.details.map fun entry => entry.2.words.toList
  (Text.tableLines ⟨2, 2⟩ none type.details.length [labels, values]).map linesText

/-- The details as JSON. -/
def Descriptor.detailsJson (type : Descriptor) : String :=
  linesText [Json.indented 0 (.object (type.details.map fun entry => (entry.1, entry.2.json)))]

/-- The command. -/
def runDescribe (files : Files) (words : List String) : Outcome :=
  match Arguments.parse [⟨"json", none, false⟩] words with
  | some arguments =>
    match arguments.positional with
    | [expression] =>
      match Descriptor.parse expression with
      | .error fault => .quiet files (.ofFault (.declarations fault)) ""
      | .ok type =>
        if arguments.has "json" then .quiet files .done type.detailsJson
        else
          match type.detailsTable with
          | .error fault => .quiet files (.unshowable fault) ""
          | .ok table => .quiet files .done table
    | _ => .misused files
  | none => .misused files

end DeclCodec
