import DeclCodec.Emit.Codec
import DeclCodec.Emit.Render

/-!
# The names that a module uses

Besides the names of its package and of the modules it imports, the text of a
module uses names of its own, unqualified: what it imports for itself, builtin
classes, decorators, and the parameters and locals of methods. They stand in the
lines of `Module.lines`, part by part as they are listed here.

All but three of them are reserved, so that collecting refuses them for types and
fields. Two are parameters of methods that mention neither a type nor a field; the
third is the decorator of class methods.
-/

namespace DeclCodec

/-- The names that an annotation uses. -/
def Annotation.usedNames : Annotation → List String
  | .any => ["Any"]
  | .bool => ["bool"]
  | .int => ["int"]
  | .float => ["float"]
  | .str => ["str"]
  | .rawMessage => ["_wire"]
  | .declared _ => []
  | .foreign _ => []
  | .optional type => type.usedNames
  | .list item => "list" :: item.usedNames
  | .dict key value => "dict" :: (key.usedNames ++ value.usedNames)

/-- The names that a default uses. -/
def Default.usedNames : Default → List String
  | .emptyList => ["field", "list"]
  | .emptyMap => ["field", "dict"]
  | .fresh _ => ["field"]
  | _ => []

/-- The names that a class uses in an expression. -/
def Class.usedNames : Class → List String
  | .raw => ["_wire"]
  | .declared _ => []
  | .foreign _ => []
  | cls => [cls.name]

/-- The names that the expression of a shape uses. -/
def Shape.usedNames : Shape → List String
  | .named cls => "_wire" :: cls.usedNames
  | .pointer elem => "_wire" :: elem.usedNames
  | .slice elem => "_wire" :: elem.usedNames
  | .map key value => "_wire" :: (key.usedNames ++ value.usedNames)

/-- The names that the class of a wrapper uses. -/
def Wrapper.usedNames (wrapper : Wrapper) : List String :=
  ["dataclass", decoratorName, "cls", "value", "ident", "self", "bool"] ++
    wrapper.idAnnotation.usedNames ++ wrapper.idDefault.usedNames ++
    wrapper.valueAnnotation.usedNames

/-- The names that the line of a field uses. -/
def FieldLine.usedNames (line : FieldLine) : List String :=
  line.annotation.usedNames ++ line.default.usedNames

/-- The names that the statements for an entry to read use. -/
def Read.usedNames (entry : Read) : List String :=
  ["_raw", "fields", "self", "_wire"] ++ entry.shape.usedNames ++
    match entry.reference with
    | some reference => reference.idShape.usedNames
    | none => []

/-- The names that the class of a struct uses. -/
def StructClass.usedNames (cls : StructClass) : List String :=
  ["dataclass", decoratorName, "self", "bytes", "data", "str", "cls", "fields", "Any", "value",
      "dict", "_wire"] ++
    cls.fields.flatMap FieldLine.usedNames ++
    (if cls.writes.isEmpty then [] else ["_buf", "_n"]) ++
    cls.reads.flatMap Read.usedNames

/-- The names that a module uses. -/
def Module.usedNames (module : Module) : List String :=
  ["annotations", "dataclass", "field", "Any", "_wire"] ++
    module.wrappers.flatMap Wrapper.usedNames ++
    module.structs.flatMap StructClass.usedNames ++
    module.aliases.flatMap (·.2.usedNames)

/-- Names that a module uses although they are not reserved: the decorator of class methods, and
parameters of methods which mention neither a type nor a field. -/
def unreservedNames : List String := [decoratorName, "data", "ident"]

/-- Is the name reserved, or one of those that are used without being so? -/
def IsUsedName (name : String) : Prop := name ∈ moduleNames ∨ name ∈ unreservedNames

instance : DecidablePred IsUsedName := fun _ => inferInstanceAs (Decidable (_ ∨ _))

/-- What an annotation uses is reserved. -/
theorem Annotation.usedNames_reserved (label : Annotation) :
    ∀ name ∈ label.usedNames, name ∈ moduleNames := by
  induction label with
  | optional type inductionHypothesis => exact inductionHypothesis
  | list item inductionHypothesis =>
    rw [usedNames, List.forall_mem_cons]
    exact ⟨by decide, inductionHypothesis⟩
  | dict key value keyHypothesis valueHypothesis =>
    rw [usedNames, List.forall_mem_cons, List.forall_mem_append]
    exact ⟨by decide, keyHypothesis, valueHypothesis⟩
  | declared | foreign =>
    intro name member
    cases member
  | _ => decide

/-- What a default uses is reserved. -/
theorem Default.usedNames_reserved (default : Default) :
    ∀ name ∈ default.usedNames, name ∈ moduleNames := by
  cases default with
  | fresh => exact List.forall_mem_singleton.2 (by decide)
  | _ => decide

/-- What a class uses is reserved. -/
theorem Class.usedNames_reserved (cls : Class) :
    ∀ name ∈ cls.usedNames, name ∈ moduleNames := by
  cases cls with
  | declared | foreign =>
    intro name member
    cases member
  | _ => decide

/-- What a shape uses is reserved. -/
theorem Shape.usedNames_reserved (shape : Shape) :
    ∀ name ∈ shape.usedNames, name ∈ moduleNames := by
  induction shape with
  | named cls =>
    rw [usedNames, List.forall_mem_cons]
    exact ⟨by decide, cls.usedNames_reserved⟩
  | pointer elem inductionHypothesis | slice elem inductionHypothesis =>
    rw [usedNames, List.forall_mem_cons]
    exact ⟨by decide, inductionHypothesis⟩
  | map key value keyHypothesis valueHypothesis =>
    rw [usedNames, List.forall_mem_cons, List.forall_mem_append]
    exact ⟨by decide, keyHypothesis, valueHypothesis⟩

/-- What an entry to read uses is reserved. -/
theorem Read.usedNames_reserved (entry : Read) :
    ∀ name ∈ entry.usedNames, name ∈ moduleNames := by
  rw [usedNames, List.forall_mem_append, List.forall_mem_append]
  refine ⟨⟨by decide, entry.shape.usedNames_reserved⟩, ?_⟩
  cases entry.reference with
  | none => decide
  | some reference => exact reference.idShape.usedNames_reserved

/-- The class of a wrapper uses reserved names, the decorator and a parameter. -/
theorem Wrapper.isUsedName (wrapper : Wrapper) : ∀ name ∈ wrapper.usedNames, IsUsedName name := by
  simp only [usedNames, List.forall_mem_append]
  refine ⟨⟨⟨by decide, ?_⟩, ?_⟩, ?_⟩
  · exact fun name member => .inl (wrapper.idAnnotation.usedNames_reserved name member)
  · exact fun name member => .inl (wrapper.idDefault.usedNames_reserved name member)
  · exact fun name member => .inl (wrapper.valueAnnotation.usedNames_reserved name member)

/-- So does the class of a struct. -/
theorem StructClass.isUsedName (cls : StructClass) : ∀ name ∈ cls.usedNames, IsUsedName name := by
  simp only [usedNames, List.forall_mem_append, List.forall_mem_flatMap, FieldLine.usedNames]
  refine ⟨⟨⟨by decide, ?_⟩, ?_⟩, ?_⟩
  · intro line _
    exact ⟨fun name member => .inl (line.annotation.usedNames_reserved name member),
      fun name member => .inl (line.default.usedNames_reserved name member)⟩
  · split <;> decide
  · exact fun entry _ name member => .inl (entry.usedNames_reserved name member)

/-- All names that a module uses are reserved but for three. -/
theorem Module.isUsedName (module : Module) : ∀ name ∈ module.usedNames, IsUsedName name := by
  simp only [usedNames, List.forall_mem_append, List.forall_mem_flatMap]
  refine ⟨⟨⟨by decide, ?_⟩, ?_⟩, ?_⟩
  · exact fun wrapper _ => wrapper.isUsedName
  · exact fun cls _ => cls.isUsedName
  · exact fun line _ name member => .inl (line.2.usedNames_reserved name member)

end DeclCodec
