import DeclCodec.Proofs.Emit.Loaded
import DeclCodec.Proofs.Package.Structs
import DeclCodec.Proofs.Wire.Rereading

/-!
# The classes in shapes

The keys in a shape are integers and texts, so there is one class in a shape that
matters, the innermost one. It is builtin, or that of a struct that the type
mentions, or one of another package. Where the structs are known by their own names
and the class is none of another package, a class knows the shape as it is, and
everything in it is there once the module is loaded.
-/

namespace DeclCodec

/-- Does every class in a shape have a property? -/
def Shape.Each (holds : Class → Prop) : Shape → Prop
  | .named cls => holds cls
  | .pointer elem => elem.Each holds
  | .slice elem => elem.Each holds
  | .map key value => key.Each holds ∧ value.Each holds

/-- A weaker property holds of every class as well. -/
theorem Shape.Each.imp {holds others : Class → Prop} (weaker : ∀ cls, holds cls → others cls)
    {shape : Shape} (each : shape.Each holds) : shape.Each others := by
  induction shape with
  | named cls => exact weaker cls each
  | pointer elem inductionHypothesis => exact inductionHypothesis each
  | slice elem inductionHypothesis => exact inductionHypothesis each
  | map key value key_ih value_ih => exact ⟨key_ih each.1, value_ih each.2⟩

/-- The innermost class of a shape. -/
def Shape.innermost : Shape → Class
  | .named cls => cls
  | .pointer elem => elem.innermost
  | .slice elem => elem.innermost
  | .map _ value => value.innermost

namespace Package

variable {package : Package}

/-- A map key is read as an integer or as a text. -/
theorem Collected.keyShape_cases (collected : Collected package) {key : Descriptor} {shape : Shape}
    (isShape : package.keyShape key = .ok shape) : shape = .named .int ∨ shape = .named .str := by
  obtain ⟨last, ends⟩ := collected.exists_keyEnd key
  rw [ends.keyShape_eq collected] at isShape
  unfold plainKeyShape at isShape
  split at isShape
  · split at isShape
    · cases isShape
      exact .inl rfl
    · cases isShape
      exact .inr rfl
    · cases isShape
  · cases isShape

/-- Every class in the shape of a type has a property if the innermost one has it, and integers and
texts have it. -/
theorem Collected.each_of_innermost (collected : Collected package) {holds : Class → Prop}
    (integers : holds .int) (texts : holds .str) {type : Descriptor} {shape : Shape}
    (isShape : package.shape type = .ok shape) (innermost : holds shape.innermost) :
    shape.Each holds := by
  induction type using collected.induction generalizing shape with
  | following found inductionHypothesis =>
    rw [collected.shape_following found] at isShape
    exact inductionHypothesis isShape innermost
  | core isCore =>
    rw [shape_core isCore, map_eq_ok] at isShape
    obtain ⟨cls, _, rfl⟩ := isShape
    exact innermost
  | pointer inductionHypothesis =>
    rw [shape_pointer, map_eq_ok] at isShape
    obtain ⟨elem, isElem, rfl⟩ := isShape
    change elem.Each holds
    exact inductionHypothesis isElem innermost
  | slice inductionHypothesis =>
    rw [shape_slice, map_eq_ok] at isShape
    obtain ⟨elem, isElem, rfl⟩ := isShape
    change elem.Each holds
    exact inductionHypothesis isElem innermost
  | map _ value_ih =>
    simp only [shape_map, bind_eq_ok] at isShape
    obtain ⟨valueShape, isValue, keyShape, isKey, same⟩ := isShape
    cases same
    refine ⟨?_, value_ih isValue innermost⟩
    rcases collected.keyShape_cases isKey with rfl | rfl
    · exact integers
    · exact texts

/-- A package is named in a type, or in what an alias stands for. -/
def NamesForeign (package : Package) (type : Descriptor) : Prop :=
  type.foreignPackages ≠ [] ∨ ∃ entry ∈ package.aliases, entry.2.foreignPackages ≠ []

/-- The innermost class in the shape of a type is builtin, or it is that of a struct that the type
mentions, or a package is named for it. -/
theorem Collected.innermost_cases (collected : Collected package) {type : Descriptor}
    (known : type.Known package.types) {shape : Shape} (isShape : package.shape type = .ok shape) :
    shape.innermost.isBuiltin = true ∨
      (∃ struct, shape.innermost = .declared struct ∧ Mentions package type struct) ∨
      ∃ path, shape.innermost = .foreign path ∧ NamesForeign package type := by
  induction type using collected.induction generalizing shape with
  | @following path name target found inductionHypothesis =>
    rw [collected.shape_following found] at isShape
    rcases inductionHypothesis (collected.target_known found) isShape with
      builtin | ⟨struct, isStruct, inside⟩ | ⟨other, isForeign, named⟩
    · exact .inl builtin
    · exact .inr (.inl ⟨struct, isStruct, .following found inside⟩)
    · refine .inr (.inr ⟨other, isForeign, .inr ?_⟩)
      rcases named with target | aliases
      · exact ⟨_, Table.mem_of_lookup (lookup_of_aliasTarget? found).2, target⟩
      · exact aliases
  | @core path name isCore =>
    rw [shape_core isCore, map_eq_ok] at isShape
    obtain ⟨cls, isClass, rfl⟩ := isShape
    cases classOf_eq_ok_iff.1 isClass with
    | raw => exact .inl rfl
    | foreign elsewhere notRaw =>
      exact .inr (.inr ⟨_, rfl, .inl (by simp [Descriptor.foreignPackages, elsewhere, notRaw])⟩)
    | @builtin _ primitive => exact .inl (by cases primitive <;> rfl)
    | declared _ isDeclared =>
      obtain ⟨members, isStruct⟩ := collected.members_of_core isDeclared isCore
      exact .inr (.inl ⟨_, rfl, .here isStruct⟩)
  | pointer inductionHypothesis =>
    rw [shape_pointer, map_eq_ok] at isShape
    obtain ⟨elem, isElem, rfl⟩ := isShape
    refine (inductionHypothesis known isElem).imp_right (Or.imp_left ?_)
    rintro ⟨struct, isStruct, inside⟩
    exact ⟨struct, isStruct, .pointer inside⟩
  | slice inductionHypothesis =>
    rw [shape_slice, map_eq_ok] at isShape
    obtain ⟨elem, isElem, rfl⟩ := isShape
    refine (inductionHypothesis known isElem).imp_right (Or.imp_left ?_)
    rintro ⟨struct, isStruct, inside⟩
    exact ⟨struct, isStruct, .slice inside⟩
  | @map key value _ value_ih =>
    simp only [shape_map, bind_eq_ok] at isShape
    obtain ⟨valueShape, isValue, keyShape, _, same⟩ := isShape
    cases same
    have valueKnown : value.Known package.types := fun name member =>
      known name (List.mem_append_right _ member)
    refine (value_ih valueKnown isValue).imp_right (Or.imp ?_ ?_)
    · rintro ⟨struct, isStruct, inside⟩
      exact ⟨struct, isStruct, .value inside⟩
    · rintro ⟨path, isForeign, named⟩
      refine ⟨path, isForeign, named.imp_left fun valueNames none => valueNames ?_⟩
      exact (List.append_eq_nil_iff.1 none).2

/-- The innermost class in the shape of a member of a portable package is none of another
package. -/
theorem Portable.innermost_ne_foreign (portable : Portable package) (collected : Collected package)
    {struct : String} {members : List Member}
    (declared : package.structs.lookup struct = some members) {member : Member}
    (among : member ∈ members) {shape : Shape} (isShape : package.shape member.type = .ok shape)
    (path : String) : shape.innermost ≠ .foreign path := by
  intro isForeign
  have isEntry := Table.mem_of_lookup declared
  have known := (collected.members _ isEntry).known member among
  rcases collected.innermost_cases known isShape with
    builtin | ⟨other, isStruct, _⟩ | ⟨_, _, own | ⟨entry, isAlias, named⟩⟩
  · rw [isForeign] at builtin
    cases builtin
  · rw [isForeign] at isStruct
    cases isStruct
  · exact own (portable.membersLocal _ isEntry member among)
  · exact named (portable.aliasesLocal entry isAlias)

/-- A struct that is mentioned is declared. -/
theorem Mentions.exists_members {type : Descriptor} {struct : String}
    (mentions : Mentions package type struct) :
    ∃ members, package.structs.lookup struct = some members := by
  induction mentions with
  | following _ _ inductionHypothesis => exact inductionHypothesis
  | here declared => exact ⟨_, declared⟩
  | pointer _ inductionHypothesis => exact inductionHypothesis
  | slice _ inductionHypothesis => exact inductionHypothesis
  | value _ inductionHypothesis => exact inductionHypothesis

end Package

/-- A shape is known in a class as it is if each class in it is. -/
theorem Shape.scoped_eq {cls : String} {shape : Shape}
    (each : shape.Each fun core => core.scoped cls = core) : shape.scoped cls = shape := by
  induction shape with
  | named core => exact congrArg Shape.named each
  | pointer elem inductionHypothesis => rw [Shape.scoped, inductionHypothesis each]
  | slice elem inductionHypothesis => rw [Shape.scoped, inductionHypothesis each]
  | map key value key_ih value_ih => rw [Shape.scoped, key_ih each.1, value_ih each.2]

/-- The check of a shape passes if that of each class in it does. -/
theorem Codecs.checkShape_eq_ok {codecs : Codecs} {shape : Shape}
    (each : shape.Each fun core => codecs.checkClass core = .ok ()) :
    codecs.checkShape shape = .ok () := by
  induction shape with
  | named core => exact each
  | pointer elem inductionHypothesis => exact inductionHypothesis each
  | slice elem inductionHypothesis => exact inductionHypothesis each
  | map key value key_ih value_ih =>
    rw [checkShape, key_ih each.1, value_ih each.2]
    rfl

namespace Package

variable {package : Package}

/-- In the shape of a member on the wire everything is there, and the class of a visible struct
knows it as it is, if the innermost class is there when it is one of another module. -/
theorem Loads.shape_of_wired {codecs : Codecs} (loaded : package.Loads codecs)
    (collected : Collected package) {struct : String} (visible : Visible package struct)
    {members : List Member} (declared : package.structs.lookup struct = some members)
    {member : Member} (among : member ∈ members) (wired : member.isWired = true) {shape : Shape}
    (isShape : package.shape member.type = .ok shape)
    (others : ∀ path, shape.innermost = .foreign path → ∃ cls, codecs.foreign path = .ok cls) :
    shape.scoped struct = shape ∧ codecs.checkShape shape = .ok () := by
  have known := (collected.members _ (Table.mem_of_lookup declared)).known member among
  have innermost : shape.innermost.scoped struct = shape.innermost ∧
      codecs.checkClass shape.innermost = .ok () := by
    rcases collected.innermost_cases known isShape with
      builtin | ⟨other, isStruct, mentions⟩ | ⟨path, isForeign, _⟩
    · cases core : shape.innermost <;> rw [core] at builtin <;>
        first | exact ⟨rfl, rfl⟩ | cases builtin
    · have uses : Uses package struct other :=
        .inl ⟨members, declared, member, among, wired, mentions⟩
      obtain ⟨otherMembers, isDeclared⟩ := mentions.exists_members
      obtain ⟨codec, found, _⟩ := loaded.exists_codec isDeclared
      rw [isStruct, Class.scoped, visible struct .refl other uses, Codecs.checkClass, found]
      exact ⟨rfl, rfl⟩
    · obtain ⟨cls, found⟩ := others path isForeign
      rw [isForeign, Codecs.checkClass, found]
      exact ⟨rfl, rfl⟩
  have each : shape.Each fun core => core.scoped struct = core ∧ codecs.checkClass core = .ok () :=
    collected.each_of_innermost ⟨rfl, rfl⟩ ⟨rfl, rfl⟩ isShape innermost
  exact ⟨Shape.scoped_eq (each.imp fun _ => And.left),
    Codecs.checkShape_eq_ok (each.imp fun _ => And.right)⟩

end Package

end DeclCodec
