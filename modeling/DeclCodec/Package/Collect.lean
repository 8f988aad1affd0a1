import DeclCodec.Graph
import DeclCodec.Package.Basic
import DeclCodec.Text.Order

/-!
# Collecting a package

Collecting goes over the units twice. First every declaration of every unit is
recorded, in the order of the units' names; then every declaration is resolved,
which may mention any recorded type. A declaration's faults are reported in
order of occurrence: its type, the policies of a field line, then the names of
the line one by one.

Afterwards three checks look at the package as a whole: no alias stands for a
type that mentions the alias itself, no struct holds itself by value, and no
wrapper is named like a declared type.

A failed collection still tells which wrappers were announced before the fault.
-/

namespace DeclCodec

/-- A step that a run reports. -/
inductive Step
  | collected (package : String) (types units : Nat)
  | announced (package base written : String)
  | emitting (package : String) (wrappers codecs : Nat)
deriving DecidableEq, Repr

/-- The words of a step. -/
def Step.message : Step → String
  | .collected package types units =>
    package ++ ": collected " ++ toString types ++ " types from " ++ toString units ++ " units"
  | .announced package base written => package ++ ": wrapper " ++ base ++ " for " ++ written
  | .emitting package wrappers codecs =>
    package ++ ": emitting " ++ toString wrappers ++ " wrappers and " ++ toString codecs ++
      " codecs"

/-- A fault and the steps reported before it. -/
structure Failure where
  fault : Fault
  steps : List Step

/-- Words that the emitted language reserves. -/
def languageKeywords : List String :=
  ["False", "None", "True", "and", "as", "assert", "async", "await", "break", "class", "continue",
    "def", "del", "elif", "else", "except", "finally", "for", "from", "global", "if", "import",
    "in", "is", "lambda", "nonlocal", "not", "or", "pass", "raise", "return", "try", "while",
    "with", "yield"]

/-- Names that an emitted module binds itself or uses unqualified. -/
def moduleNames : List String :=
  ["Any", "annotations", "dataclass", "field", "_wire", "bool", "bytes", "dict", "float", "int",
    "list", "object", "str", "cls", "self", "fields", "value", "_raw", "_buf", "_n"]

/-- Names of the methods of an emitted class. -/
def methodNames : List String := ["marshal", "unmarshal", "from_wire", "_assign"]

/-- Refuse a reserved name. -/
def checkName (use : NameUse) (name : String) : Except Fault Unit :=
  if languageKeywords.contains name || moduleNames.contains name then
    .error (.reservedName use name)
  else .ok ()

namespace Package

/-- Record a declaration. -/
def recordDecl (types : List (String × Decl)) (decl : Decl) :
    Except Fault (List (String × Decl)) := do
  checkName .type decl.name
  match types.lookup decl.name with
  | some previous => throw (.redeclared decl.unit decl.name previous.unit)
  | none => pure (types ++ [(decl.name, decl)])

/-- The first name in a type that is neither builtin nor declared. -/
def unknownName? (types : List (String × Decl)) (type : Descriptor) : Option String :=
  type.localNames.find? fun name => !isBuiltin name && (types.lookup name).isNone

/-- Check that every type which a descriptor mentions is known. -/
def checkKnown (types : List (String × Decl)) (type : Descriptor) : Except Fault Unit :=
  match unknownName? types type with
  | some name => .error (.unknownType name)
  | none => .ok ()

/-- Describe a type expression that mentions known types only. -/
def describeKnown (types : List (String × Decl)) (type : TypeExpr) : Except Fault Descriptor := do
  let described ← type.describe
  checkKnown types described
  pure described

/-- Refuse a field name that is reserved, a method's, or taken. -/
def checkField (name : String) (taken : List Member) : Except Fault Unit := do
  checkName .field name
  if methodNames.contains name then throw (.methodName name)
  if (taken.map (·.name)).contains name then throw (.duplicateField name)

/-- Make sure that there is a wrapper for the type of a reference. -/
def announce (referenced : List (String × Descriptor)) (field : String) (type : Descriptor) :
    Except Fault (List (String × Descriptor)) :=
  if !type.exported then .error (.unexportedReference field type.written)
  else
    match referenced.lookup type.base with
    | none => .ok (referenced ++ [(type.base, type)])
    | some first =>
      if first.qualified = type.qualified then .ok referenced
      else .error (.sharedWrapper type.base first.qualified type.qualified)

/-- What is collected of structs so far: the members of the present one, the types that need a
wrapper and the packages to import. -/
structure Progress where
  members : List Member
  referenced : List (String × Descriptor)
  imported : List String

/-- A fault, with the wrappers announced before it. -/
abbrev Collecting (α : Type) := Except (Fault × List (String × Descriptor)) α

/-- Report a fault with the wrappers announced so far. -/
def Progress.attempt {α : Type} (progress : Progress) (result : Except Fault α) : Collecting α :=
  result.mapError fun fault => (fault, progress.referenced)

/-- Collect a name of a field line. -/
def collectName (type : Descriptor) (policies : List (String × Policy)) (progress : Progress)
    (name : String) : Collecting Progress := do
  progress.attempt (checkField name progress.members)
  let member : Member := ⟨name, type, policies.lookup name⟩
  let referenced ←
    if member.isReference then progress.attempt (announce progress.referenced name type)
    else pure progress.referenced
  pure { progress with members := progress.members ++ [member], referenced }

/-- A type is met, and with it the packages that it mentions. -/
def Progress.meet (progress : Progress) (type : Descriptor) : Progress :=
  { progress with imported := progress.imported ++ type.foreignPackages }

/-- Collect a field line of a struct. -/
def collectField (settings : Settings) (types : List (String × Decl)) (progress : Progress)
    (field : Field) : Collecting Progress := do
  let type ← progress.attempt (describeKnown types field.type)
  let policies ← progress.attempt
    (Policy.resolveField field.names field.tag settings.wireTag settings.refTag)
  field.names.foldlM (collectName type policies) (progress.meet type)

/-- What is collected before a declaration is resolved. -/
def progress (package : Package) : Progress := ⟨[], package.referenced, package.imported⟩

/-- Resolve a declaration. -/
def resolveDecl (package : Package) (decl : Decl) : Collecting Package :=
  match decl with
  | .alias name type _ => do
    let target ← package.progress.attempt (describeKnown package.types type)
    pure { package with
      aliases := package.aliases ++ [(name, target)]
      imported := (package.progress.meet target).imported }
  | .struct name fields _ => do
    let progress ← fields.foldlM (collectField package.settings package.types) package.progress
    pure { package with
      structs := package.structs ++ [(name, progress.members)]
      referenced := progress.referenced
      imported := progress.imported }

/-- Resolve a declaration, naming it in a fault. -/
def resolveNamed (package : Package) (decl : Decl) : Collecting Package :=
  (resolveDecl package decl).mapError fun failure =>
    (failure.1.within decl.unit decl.name, failure.2)

/-- The aliases that each alias mentions. -/
def aliasGraph (package : Package) : Graph :=
  package.aliases.map fun entry =>
    (entry.1, entry.2.localNames.filter fun name => (package.aliases.lookup name).isSome)

/-- The struct that a type holds by value, aliases followed. Each step follows one alias. -/
def heldStruct? (package : Package) : Nat → Descriptor → Option String
  | 0, _ => none
  | steps + 1, .named path name =>
    if path = "" then
      match package.types.lookup name with
      | some (.struct name _ _) => some name
      | some (.alias name _ _) =>
        match package.aliases.lookup name with
        | some target => heldStruct? package steps target
        | none => none
      | none => none
    else none
  | _, _ => none

/-- The structs that each struct holds by value. A reference holds nothing. -/
def structGraph (package : Package) : Graph :=
  package.structs.map fun entry =>
    (entry.1, (entry.2.filter fun member => !member.isReference).filterMap fun member =>
      package.heldStruct? (package.aliases.length + 1) member.type)

/-- Refuse a graph with a cycle. -/
def checkAcyclic (graph : Graph) : Except Fault Unit :=
  match graph.findCycle? with
  | some cycle => .error (.recursiveType cycle)
  | none => .ok ()

/-- Refuse a wrapper that is named like a declared type. -/
def checkWrapperNames (package : Package) : Except Fault Unit :=
  match package.referenced.find? fun entry =>
      (package.types.lookup (package.wrapperName entry.2)).isSome with
  | some entry => .error (.wrapperCollision (package.wrapperName entry.2))
  | none => .ok ()

/-- The checks of a package as a whole. -/
def checkWhole (package : Package) : Except Fault Unit := do
  checkAcyclic package.aliasGraph
  checkAcyclic package.structGraph
  package.checkWrapperNames

/-- The step of recording the declarations. -/
def collectedStep (package : Package) : Step :=
  .collected package.name package.types.length package.units.length

/-- The steps of announcing wrappers. -/
def announcedSteps (package : Package) (referenced : List (String × Descriptor)) : List Step :=
  referenced.map fun entry => .announced package.name entry.1 entry.2.written

/-- Record the units in the order of their names. Of other packages those of the settings are
known. -/
def record (name : String) (settings : Settings) (units : List DeclUnit) :
    Except Fault Package := do
  let units := Text.sortBy (·.name) units
  let types ← (units.flatMap (·.decls)).foldlM recordDecl []
  pure { empty name settings with units := units.map (·.name), types, imported := settings.imports }

/-- Resolve the type of identifiers, like any other type. -/
def resolveIdType (package : Package) : Except Fault Package := do
  let type ← Descriptor.parse package.settings.idType
  checkKnown package.types type
  pure { package with imported := (package.progress.meet type).imported }

/-- Collect the units of a package. The steps reported are those up to the end or the fault. -/
def collect (name : String) (settings : Settings) (units : List DeclUnit) :
    Except Failure Package :=
  match record name settings units with
  | .error fault => .error ⟨fault, []⟩
  | .ok recorded =>
    match recorded.resolveIdType with
    | .error fault => .error ⟨fault, [recorded.collectedStep]⟩
    | .ok started =>
      match (started.types.map (·.2)).foldlM resolveNamed started with
      | .error (fault, referenced) =>
        .error ⟨fault, started.collectedStep :: started.announcedSteps referenced⟩
      | .ok package =>
        match package.checkWhole with
        | .error fault =>
          .error ⟨fault, package.collectedStep :: package.announcedSteps package.referenced⟩
        | .ok () => .ok package

/-- The steps reported by a collection that went well. -/
def collectSteps (package : Package) : List Step :=
  package.collectedStep :: package.announcedSteps package.referenced

/-- The packages to import, in ascending order without repetition. -/
def dependencies (package : Package) : List String := Text.sort package.imported.eraseDups

end Package

end DeclCodec
