import DeclCodec.Command.Describe

/-!
# An overview of packages

The command collects the packages of a directory, or of one file, and prints their
types with the policies of the fields. Nothing is printed unless all packages can
be collected. What is printed is marked-up text; at the first table or line that is
marked up wrongly the command breaks off, and what was printed before stays.
-/

namespace DeclCodec

/-- The JSON list of names. -/
def Json.ofNames (names : List String) : Json := .list (names.map fun (name : String) => .str name)

/-- The JSON value of a type expression. -/
def TypeExpr.json : TypeExpr → Json
  | .named [] name => .object [("name", .str name)]
  | .named package name => .object [("parts", .ofNames (package ++ [name]))]
  | .pointer elem => .object [("elem", elem.json)]
  | .slice elem => .object [("elem", elem.json)]
  | .array length elem => .object [("length", .int length), ("elem", elem.json)]
  | .map key value => .object [("key", key.json), ("value", value.json)]

/-- The JSON value of a field line. -/
def Field.json (field : Field) : Json :=
  .object [("names", .ofNames field.names), ("type", field.type.json),
    ("tag", (field.tag.map Json.str).getD .null)]

/-- The JSON value of a declaration. -/
def Decl.json : Decl → Json
  | .struct name fields unit =>
    .object [("name", .str name), ("fields", .list (fields.map Field.json)), ("unit", .str unit)]
  | .alias name type unit =>
    .object [("name", .str name), ("type", type.json), ("unit", .str unit)]

/-- The variant of a reference. -/
def Policy.variant? : Policy → Option Variant
  | .reference _ _ variant _ => some variant
  | _ => none

/-- The policy of a member that goes on the wire. -/
def Member.wired? (member : Member) : Option Policy := member.policy.filter Policy.isWired

/-- The JSON value of a member. -/
def Member.json (member : Member) : Json :=
  .object [("name", .str member.name), ("type", .str member.type.written),
    ("wire_name", (member.wired?.map fun policy => Json.str policy.wireName).getD .null),
    ("variant",
      ((member.wired?.bind Policy.variant?).map fun variant => Json.str variant.text).getD .null)]

/-- The JSON value of a package. -/
def Package.json (package : Package) : Json :=
  .object
    [("types", .object (package.types.map fun entry => (entry.1, entry.2.json))),
      ("wrappers", .object (package.referenced.map fun entry =>
        (package.wrapperName entry.2, .str entry.2.written))),
      ("fields", .object (package.structs.map fun entry =>
        (entry.1, .list (entry.2.map Member.json))))]

/-- What a table says about the wire name and the reference of a member. -/
def Member.wireWords (member : Member) : Points × Points :=
  match member.wired? with
  | none => ([], "omitted")
  | some (.omitted name) => (name, [])
  | some (.plain name omitEmpty) => (name ++ if omitEmpty then ",omitempty" else "", [])
  | some (.reference name id variant omitEmpty) =>
    (name ++ if omitEmpty then ",omitempty" else "", id ++ (" (" ++ variant.text ++ ")"))

/-- The columns of a table about members. -/
def memberColumns (members : List Member) : List (List Points) :=
  ["Field" :: members.map (·.name), "Type" :: members.map (·.type.written),
    "Wire name" :: members.map (·.wireWords.1), "Reference" :: members.map (·.wireWords.2)]

/-- What is printed at once: its lines, if it can be shown. -/
abbrev Print := Except Text.MarkupFault (List (List Char))

/-- An empty line. -/
def Print.gap : Print := .ok [[]]

/-- A struct: its name over a table of its members. A table with a surrogate in it is laid out, but
cannot be shown. -/
def structTable (name : String) (members : List Member) : Print := do
  let columns := memberColumns members
  let lines ← Text.tableLines ⟨0, 2⟩ (some name.toList) (members.length + 1)
    (columns.map fun column => column.map fun text => text.map CodePoint.glyph)
  if columns.all fun column => column.all fun text => (Text.chars? text).isSome then .ok lines
  else .error .surrogate

/-- Wrappers under a heading. -/
def Package.wrapperPrints (package : Package) : List Print :=
  match package.referenced with
  | [] => []
  | referenced =>
    Text.printedLines "[bold cyan]Wrappers[/bold cyan]".toList ::
      (Text.sortBy (·.1) referenced).map (fun entry =>
        Text.printedLines ("  " ++ package.wrapperName entry.2 ++ " [dim]" ++ entry.2.written ++
          "[/dim]").toList) ++ [Print.gap]

/-- What is printed about a package. -/
def Package.overview (package : Package) : List Print :=
  Text.printedLines ("[bold cyan]Package " ++ package.name ++ "[/bold cyan]").toList ::
    package.structs.flatMap (fun entry => [structTable entry.1 entry.2, Print.gap]) ++
    package.wrapperPrints

/-- The text that is printed up to the first fault, and the fault. -/
def printed : List Print → String × Option Text.MarkupFault
  | [] => ("", none)
  | .error fault :: _ => ("", some fault)
  | .ok lines :: rest =>
    let later := printed rest
    (linesText lines ++ later.1, later.2)

/-- The packages of a directory or a file, in ascending order of their names. -/
def Files.overview (files : Files) (path : String) : Except SourceFault (List Package) := do
  let units ← if files.isDirectory path then files.loadUnits path else files.loadUnit path
  let groups ← (groupUnits units).mapError .declarations
  (Text.sortBy (·.1) groups).mapM fun group =>
    (Package.collect group.1 {} group.2).mapError fun failure => .declarations failure.fault

/-- The options of the command. -/
def overviewForms : List OptionForm := [⟨"input", some 'i', true⟩, ⟨"json", none, false⟩]

/-- The command. Its input has to be there. -/
def runOverview (files : Files) (words : List String) : Outcome :=
  match Arguments.parse overviewForms words with
  | some arguments =>
    match arguments.positional, arguments.value? "input" with
    | [], some path =>
      match files.find path with
      | .error _ => .misused files
      | .ok _ =>
        match files.overview path with
        | .error fault => .quiet files (.ofFault fault) ""
        | .ok packages =>
          if arguments.has "json" then
            let json : Json := .object (packages.map fun package => (package.name, package.json))
            .quiet files .done (linesText [json.indented 0])
          else
            match printed (packages.flatMap Package.overview) with
            | (text, none) => .quiet files .done text
            | (text, some fault) => .quiet files (.unshowable fault) text
    | _, _ => .misused files
  | none => .misused files

end DeclCodec
