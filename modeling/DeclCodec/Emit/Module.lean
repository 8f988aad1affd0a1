import DeclCodec.Emit.Default
import DeclCodec.Emit.Shape
import DeclCodec.Package.Collect

/-!
# Emitted modules

A module holds one wrapper class for every referenced type, one class for every
struct, and one line for every alias. Wrappers stand in ascending order of their
base names, structs and aliases in the order in which they are declared.

The class of a struct has a line for every field, and the entries that it writes
and reads. A package whose types are collected has a module unless a map key on
the wire is neither an integer nor a text.
-/

namespace DeclCodec

/-- A class that holds a type by value or by identifier. A type whose value is always there is
held through a pointer. -/
structure Wrapper where
  name : String
  type : Descriptor
  value : Descriptor
  valueAnnotation : Annotation
  idAnnotation : Annotation
  idDefault : Default
deriving DecidableEq

/-- A field line of an emitted class. -/
structure FieldLine where
  name : String
  annotation : Annotation
  default : Default
deriving DecidableEq

/-- The class of a struct. -/
structure StructClass where
  name : String
  fields : List FieldLine
  writes : List Write
  reads : List Read
deriving DecidableEq

/-- An emitted module. -/
structure Module where
  package : String
  units : List String
  runtimeImport : String
  dependencies : List String
  wrappers : List Wrapper
  structs : List StructClass
  aliases : List (String × Annotation)
deriving DecidableEq

namespace Member

/-- The entry that a member writes, if it goes on the wire. -/
def write? (member : Member) : Option Write :=
  match member.policy with
  | some (.plain wireName omitEmpty) =>
    some ⟨member.name, wireName, if omitEmpty then .unlessEmpty else .always⟩
  | some (.reference wireName _ .value _) => some ⟨member.name, wireName, .wrapperValue⟩
  | some (.reference _ idName .id _) => some ⟨member.name, idName, .wrapperId⟩
  | _ => none

/-- Exactly the members on the wire write an entry. -/
theorem isSome_write? (member : Member) : member.write?.isSome = member.isWired := by
  unfold write? isWired
  rcases member.policy with _ | policy
  · rfl
  · rcases policy with _ | _ | ⟨_, _, variant, _⟩
    · rfl
    · rfl
    · cases variant <;> rfl

end Member

namespace Package

/-- The type of identifiers. -/
def idType (package : Package) : Except Fault Descriptor := Descriptor.parse package.settings.idType

/-- The wrapper of a referenced type. -/
def wrapper (package : Package) (type : Descriptor) : Except Fault Wrapper := do
  let value := if type.nullable then type else .pointer type
  let valueAnnotation ← package.annotation value
  let id ← package.idType
  let idAnnotation ← package.annotation id
  pure {
    name := package.wrapperName type
    type
    value
    valueAnnotation := valueAnnotation.orNone
    idAnnotation
    idDefault := package.defaultOf id }

/-- The wrappers of all referenced types, in ascending order of their base names. -/
def wrappers (package : Package) : Except Fault (List Wrapper) :=
  (Text.sortBy (·.1) package.referenced).mapM fun entry => package.wrapper entry.2

/-- The line of a member. A reference is held by its wrapper, or not at all. -/
def fieldLine (package : Package) (member : Member) : Except Fault FieldLine := do
  if member.isReference then
    pure ⟨member.name, .optional (.declared (package.wrapperName member.type)), .null⟩
  else
    let annotation ← package.fieldAnnotation member.type
    pure ⟨member.name, annotation, package.defaultOf member.type⟩

/-- The entry that a member reads, if it goes on the wire. -/
def read? (package : Package) (member : Member) : Except Fault (Option Read) :=
  match member.policy with
  | some (.plain wireName _) => do
    pure (some ⟨member.name, wireName, ← package.shape member.type, none⟩)
  | some (.reference wireName idName _ _) => do
    let shape ← package.shape member.type
    let idShape ← package.shape (← package.idType)
    pure (some ⟨member.name, wireName, shape,
      some ⟨package.wrapperName member.type, idName, idShape⟩⟩)
  | _ => pure none

/-- The class of a struct with these members. -/
def structClass (package : Package) (name : String) (members : List Member) :
    Except Fault StructClass := do
  let fields ← members.mapM package.fieldLine
  let reads ← members.filterMapM package.read?
  pure ⟨name, fields, members.filterMap Member.write?, reads⟩

/-- The line of an alias that stands for a type. -/
def aliasLine (package : Package) (name : String) (target : Descriptor) :
    Except Fault (String × Annotation) := do
  pure (name, ← package.expandedAnnotation target)

/-- The module of a package. -/
def module (package : Package) : Except Fault Module := do
  let structs ← package.structs.mapM fun entry => package.structClass entry.1 entry.2
  let aliases ← package.aliases.mapM fun entry => package.aliasLine entry.1 entry.2
  let wrappers ← package.wrappers
  pure {
    package := package.name
    units := package.units
    runtimeImport := package.settings.runtimeImport
    dependencies := package.dependencies
    wrappers
    structs
    aliases }

/-- The step of emitting a package. -/
def emittingStep (package : Package) : Step :=
  .emitting package.name package.referenced.length package.structs.length

end Package

end DeclCodec
