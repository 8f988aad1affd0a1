import DeclCodec.Emit.Module
import DeclCodec.Proofs.Traversal

/-!
# What a member adds to its class

A member adds a line to the class of its struct, and an entry that the class reads.
The line is annotated with the member's type, or with the wrapper of a reference.
The policy of the member decides about the entry. It is only made if there are
shapes for it, that of the member's type and for a reference that of identifiers as
well. Off the wire there is no entry, and nothing can fail.
-/

namespace DeclCodec.Package

variable {package : Package} {member : Member} {chosen : Option Read}

/-- The line of a reference is annotated with the wrapper of its type; any other line with the type
of its member, which may be absent. -/
theorem annotation_of_fieldLine {line : FieldLine} (success : package.fieldLine member = .ok line) :
    (member.isReference = true ∧
        line.annotation = .optional (.declared (package.wrapperName member.type))) ∨
      member.isReference = false ∧ ∃ label, package.annotation member.type = .ok label ∧
        (label = line.annotation ∨ label.orNone = line.annotation) := by
  unfold fieldLine at success
  split at success
  · next reference =>
    cases success
    exact .inl ⟨reference, rfl⟩
  · next plain =>
    simp only [bind_eq_ok, fieldAnnotation] at success
    obtain ⟨_, ⟨label, isLabel, rest⟩, same⟩ := success
    cases same
    refine .inr ⟨Bool.eq_false_iff.2 plain, label, isLabel, ?_⟩
    split at rest
    · cases rest
      exact .inr rfl
    · cases rest
      exact .inl rfl

/-- The entry that a member reads, if it reads one. -/
inductive Reads (package : Package) (member : Member) : Option Read → Prop
  | plain {wireName : Points} {omitEmpty : Bool} {shape : Shape}
      (policy : member.policy = some (.plain wireName omitEmpty))
      (isShape : package.shape member.type = .ok shape) :
      Reads package member (some ⟨member.name, wireName, shape, none⟩)
  | reference {wireName idName : Points} {variant : Variant} {omitEmpty : Bool}
      {shape idShape : Shape} {idType : Descriptor}
      (policy : member.policy = some (.reference wireName idName variant omitEmpty))
      (isShape : package.shape member.type = .ok shape) (isIdType : package.idType = .ok idType)
      (isIdShape : package.shape idType = .ok idShape) :
      Reads package member (some ⟨member.name, wireName, shape,
        some ⟨package.wrapperName member.type, idName, idShape⟩⟩)
  | nothing (offWire : member.isWired = false) : Reads package member none

/-- The entry of a member is made if and only if the shapes for it are. -/
theorem read?_eq_ok_iff : package.read? member = .ok chosen ↔ Reads package member chosen := by
  constructor
  · intro success
    unfold read? at success
    split at success
    · next policy =>
      rw [bind_eq_ok] at success
      obtain ⟨shape, isShape, same⟩ := success
      cases same
      exact .plain policy isShape
    · next policy =>
      simp only [bind_eq_ok] at success
      obtain ⟨shape, isShape, idType, isIdType, idShape, isIdShape, same⟩ := success
      cases same
      exact .reference policy isShape isIdType isIdShape
    · next noPlain noReference =>
      cases success
      refine .nothing ?_
      unfold Member.isWired
      rcases policy : member.policy with _ | _ | ⟨wireName, omitEmpty⟩ |
        ⟨wireName, idName, variant, omitEmpty⟩
      · rfl
      · rfl
      · exact absurd policy (noPlain wireName omitEmpty)
      · exact absurd policy (noReference wireName idName variant omitEmpty)
  · intro reads
    cases reads with
    | plain policy isShape =>
      rw [read?, policy, isShape]
      rfl
    | reference policy isShape isIdType isIdShape =>
      rw [read?, policy, isShape, isIdType]
      dsimp only [bind, Except.bind]
      rw [isIdShape]
      rfl
    | nothing offWire =>
      unfold Member.isWired at offWire
      rw [read?]
      rcases policy : member.policy with _ | _ | _ | _
      · rfl
      · rfl
      all_goals
        rw [policy] at offWire
        cases offWire

/-- A member that reads is on the wire, and what it reads is for its own field. -/
theorem field_of_read? {read : Read} (reads : package.read? member = .ok (some read)) :
    member.isWired = true ∧ read.field = member.name := by
  cases read?_eq_ok_iff.1 reads with
  | plain policy | reference policy => exact ⟨by simp [Member.isWired, policy, Policy.isWired], rfl⟩

end DeclCodec.Package
