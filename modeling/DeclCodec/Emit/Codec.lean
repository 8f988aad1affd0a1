import DeclCodec.Emit.Module
import DeclCodec.Wire.Codecs

/-!
# Loading a module

When an emitted module is loaded its classes are defined one after another, and
each then knows its codec. Two rules of the emitted language take effect here.

Inside a class, a name that begins with two underscores and does not end with two
is private: it is read as the same name with the class in front. So such a field
has its private name in the class, and such a struct cannot be reached from
inside another class under its own.

The classes apply the decorator of their class methods by its name. A field of
that name hides it from its own class, which then cannot be defined. A struct of
that name hides it from the classes after its own: none of them can be defined if
the struct has no field, since it takes nothing then, and otherwise the decorated
method is no method any more.

A name with two underscores on either side belongs to the language, which may give it
a meaning of its own anywhere in a class. What becomes of a class or a field of such a
name is left open here: a module with one does not count as loaded. Nor does a module
of which an import fails.
-/

namespace DeclCodec

/-- The name of the decorator of class methods. -/
def decoratorName : String := "classmethod"

/-- Is a name private to the class in which it is written? -/
def isPrivate (name : String) : Bool :=
  ['_', '_'].isPrefixOf name.toList && !(['_', '_'].isSuffixOf name.toList)

/-- Does a name belong to the language? -/
def isSpecial (name : String) : Bool :=
  ['_', '_'].isPrefixOf name.toList && ['_', '_'].isSuffixOf name.toList

/-- The name that a name written in a class stands for. Underscores in front of the class's own
name are left out, and a class of nothing but underscores has no private names. -/
def scopedName (cls name : String) : String :=
  match cls.toList.dropWhile (· == '_') with
  | [] => name
  | stem => if isPrivate name then "_" ++ String.ofList stem ++ name else name

/-- A name that is not private stands for itself. -/
theorem scopedName_eq {name : String} (isPublic : isPrivate name = false) (cls : String) :
    scopedName cls name = name := by
  unfold scopedName
  split <;> simp [isPublic]

/-- The default that is meant by a default written in a class. -/
def Default.scoped (cls : String) : Default → Default
  | .fresh name => .fresh (scopedName cls name)
  | default => default

/-- The class that is meant by a class written in a class. -/
def Class.scoped (cls : String) : Class → Class
  | .declared name => .declared (scopedName cls name)
  | other => other

/-- The shape that is meant by a shape written in a class. -/
def Shape.scoped (cls : String) : Shape → Shape
  | .named core => .named (core.scoped cls)
  | .pointer elem => .pointer (elem.scoped cls)
  | .slice elem => .slice (elem.scoped cls)
  | .map key value => .map (key.scoped cls) (value.scoped cls)

/-- The entry that is meant by an entry to read. -/
def Read.scoped (cls : String) (entry : Read) : Read :=
  ⟨scopedName cls entry.field, entry.wireName, entry.shape.scoped cls,
    entry.reference.map fun reference =>
      ⟨reference.wrapper, reference.idName, reference.idShape.scoped cls⟩⟩

/-- What the class of a struct knows about it. -/
def StructClass.codec (cls : StructClass) (fromMaps : Bool) : Codec :=
  ⟨cls.name,
    cls.fields.map fun line => (scopedName cls.name line.name, line.default.scoped cls.name),
    cls.writes.map fun entry => ⟨scopedName cls.name entry.field, entry.key, entry.part⟩,
    cls.reads.map (Read.scoped cls.name),
    fromMaps⟩

/-- Does a field hide the decorator from its class? -/
def StructClass.hidesDecorator (cls : StructClass) : Bool :=
  cls.fields.any (·.name == decoratorName)

/-- The codecs of classes in order of definition, given the struct that hides the decorator, if
there is one. -/
def loadClasses (hider : Option StructClass) : List StructClass → Except WireFault (List Codec)
  | [] => .ok []
  | cls :: rest => do
    let takesNothing := match hider with
      | some cls => cls.fields.isEmpty
      | none => false
    if cls.hidesDecorator || takesNothing then throw WireFault.wrongType
    let codecs ← loadClasses (if cls.name = decoratorName then some cls else hider) rest
    pure (cls.codec hider.isNone :: codecs)

/-- The names of the structs of a module and of their fields. -/
def Module.structNames (module : Module) : List String :=
  module.structs.flatMap fun cls => cls.name :: cls.fields.map (·.name)

/-- Refuse a module in which a struct or a field has a special name. -/
def Module.checkSpecial (module : Module) : Except WireFault Unit :=
  match module.structNames.find? isSpecial with
  | some name => .error (.specialName name)
  | none => .ok ()

/-- What the classes of a module know once it is loaded among other modules. -/
def Module.load (foreign : Foreign) (module : Module) : Except WireFault Codecs := do
  module.checkSpecial
  let structs ← loadClasses none module.structs
  pure ⟨structs,
    module.wrappers.map fun wrapper =>
      (wrapper.name, wrapper.idDefault.scoped wrapper.name),
    foreign⟩

end DeclCodec
