import DeclCodec.Emit.Module
import DeclCodec.Json.Text
import DeclCodec.Text.Quoted

/-!
# The text of a module

A module is written as Python source. The names on the wire stand in it as string
literals, so that no name, whatever characters it has, reaches the code around it
or breaks a line.
-/

namespace DeclCodec

/-- A line one level deeper. -/
def indent (levels : Nat) (line : String) : String :=
  if line = "" then line else String.ofList (List.replicate (4 * levels) ' ') ++ line

/-- Lines, each ended by a line feed. -/
def unlines (lines : List String) : String := String.join (lines.map (· ++ "\n"))

/-- The lines of a wrapper class, after two empty ones. -/
def Wrapper.lines (wrapper : Wrapper) : List String :=
  let value := wrapper.valueAnnotation.text
  let id := wrapper.idAnnotation.text
  ["", "", "@dataclass",
    "class " ++ wrapper.name ++ ":",
    "    \"\"\"Reference to " ++ wrapper.type.written ++ " held by value or by identifier.\"\"\"",
    "",
    "    Id: " ++ id ++ " = " ++ wrapper.idDefault.text,
    "    Value: " ++ value ++ " = None",
    "",
    "    @classmethod",
    "    def from_value(cls, value: " ++ value ++ ") -> " ++ wrapper.name ++ ":",
    "        return cls(Value=value)",
    "",
    "    @classmethod",
    "    def from_id(cls, ident: " ++ id ++ ") -> " ++ wrapper.name ++ ":",
    "        return cls(Id=ident)",
    "",
    "    def has_value(self) -> bool:",
    "        return self.Value is not None"]

/-- The literal of the text that stands in front of a written value. -/
def keyLiteral (name : Points) : String :=
  Text.Quoted.literal (Text.points (Json.quote name ++ [':']))

/-- The condition of an entry, if it has one, and the expression of what it writes. -/
def Write.condition (entry : Write) : Option String × String :=
  let field := "self." ++ entry.field
  match entry.part with
  | .always => (none, field)
  | .unlessEmpty => (some ("not _wire.is_empty(" ++ field ++ ")"), field)
  | .wrapperId =>
    (some (field ++ " is not None and not _wire.is_empty(" ++ field ++ ".Id)"), field ++ ".Id")
  | .wrapperValue =>
    (some (field ++ " is not None and " ++ field ++ ".has_value()"), field ++ ".Value")

/-- The statements that write an entry. -/
def Write.lines (entry : Write) : List String :=
  let (condition?, value) := entry.condition
  let body :=
    ["if _n:",
      "    _buf.append(\",\")",
      "_buf.append(" ++ keyLiteral entry.key ++ " + _wire.encode(" ++ value ++ "))",
      "_n += 1"]
  match condition? with
  | none => body
  | some condition => ("if " ++ condition ++ ":") :: body.map (indent 1)

/-- The body of the method that writes a struct. -/
def marshalLines (writes : List Write) : List String :=
  match writes with
  | [] => ["return b\"\x7b\x7d\""]
  | _ =>
    ["_buf = [\"\x7b\"]", "_n = 0"] ++ writes.flatMap Write.lines ++
      ["_buf.append(\"\x7d\")", "return \"\".join(_buf).encode(\"utf-8\")"]

/-- The statements that read an entry. -/
def Read.lines (entry : Read) : List String :=
  let field := "self." ++ entry.field
  let decoded (shape : Shape) := "_wire.decode(_raw, " ++ shape.source ++ ")"
  let head :=
    ["_raw = fields.get(" ++ Text.Quoted.literal entry.wireName ++ ")", "if _raw is not None:"]
  match entry.reference with
  | none => head ++ ["    " ++ field ++ " = " ++ decoded entry.shape]
  | some reference =>
    head ++
      ["    " ++ field ++ " = " ++ reference.wrapper ++ ".from_value(" ++
          decoded entry.shape ++ ")",
        "else:",
        "    _raw = fields.get(" ++ Text.Quoted.literal reference.idName ++ ")",
        "    if _raw is not None:",
        "        " ++ field ++ " = " ++ reference.wrapper ++ ".from_id(" ++
          decoded reference.idShape ++ ")"]

/-- The body of the method that reads a struct. -/
def assignLines (reads : List Read) : List String :=
  match reads with
  | [] => ["pass"]
  | _ => reads.flatMap Read.lines

/-- The line of a field. -/
def FieldLine.line (field : FieldLine) : String :=
  "    " ++ field.name ++ ": " ++ field.annotation.text ++ " = " ++ field.default.text

/-- The lines of a struct's class, after two empty ones. -/
def StructClass.lines (cls : StructClass) : List String :=
  ["", "", "@dataclass", "class " ++ cls.name ++ ":"] ++
    cls.fields.map FieldLine.line ++ (if cls.fields.isEmpty then [] else [""]) ++
    ["    def marshal(self) -> bytes:"] ++ (marshalLines cls.writes).map (indent 2) ++
    ["",
      "    def unmarshal(self, data: bytes | str) -> None:",
      "        self._assign(_wire.decode_object(data))",
      "",
      "    @classmethod",
      "    def from_wire(cls, fields: Any) -> " ++ cls.name ++ ":",
      "        value = cls()",
      "        value._assign(_wire.expect_object(fields))",
      "        return value",
      "",
      "    def _assign(self, fields: dict[str, Any]) -> None:"] ++
    (assignLines cls.reads).map (indent 2)

/-- The lines of a module. -/
def Module.lines (module : Module) : List String :=
  ["# Code generated by refgen from " ++ ", ".intercalate module.units ++ ". DO NOT EDIT.",
    "\"\"\"Reference types and wire codecs for package " ++ module.package ++ ".\"\"\"",
    "",
    "from __future__ import annotations",
    "",
    "from dataclasses import dataclass, field",
    "from typing import Any",
    "",
    "import " ++ module.runtimeImport ++ " as _wire"] ++
    module.dependencies.map ("import " ++ ·) ++
    module.wrappers.flatMap Wrapper.lines ++
    module.structs.flatMap StructClass.lines ++
    (if module.aliases.isEmpty then [] else ["", ""]) ++
    module.aliases.map fun line => line.1 ++ " = " ++ line.2.text

/-- The text of a module. -/
def Module.render (module : Module) : String := unlines module.lines

/-- The text of the module of a package. -/
def Package.emit (package : Package) : Except Fault String := do
  pure (← package.module).render

end DeclCodec
