import DeclCodec.Proofs.Emit.Loaded
import DeclCodec.Proofs.Package.Structs
import DeclCodec.Proofs.Wire.Parts
import DeclCodec.Wire.Session

/-!
# New structs

A new struct holds the defaults of its members, new structs among them. Since the
structs held by value have lower ranks, making them comes to an end before the
depth that is allowed for is used up; so every visible struct can be made, and how
much depth is left makes no difference to what is made.
-/

namespace DeclCodec

/-- The value of a default. -/
def Codecs.defaultValue (codecs : Codecs) (default : Default) : Value :=
  (Codecs.ofDefault codecs.make default).toOption.getD .null

namespace Package

variable {package : Package} {codecs : Codecs} {struct : String} {members : List Member}

/-- The field that a new struct has for a member. -/
def freshField (package : Package) (codecs : Codecs) (struct : String) (member : Member) :
    String × Value :=
  (scopedName struct member.name, codecs.defaultValue (package.fieldDefault member))

/-- Members beside the values of their defaults. -/
def defaultRows (package : Package) (codecs : Codecs) (members : List Member) :
    List (Member × Value) :=
  members.map fun member => (member, codecs.defaultValue (package.fieldDefault member))

/-- The members are on one side. -/
theorem members_defaultRows (codecs : Codecs) (members : List Member) :
    (package.defaultRows codecs members).map (·.1) = members := by
  simp [defaultRows, Function.comp_def]

/-- On the other is what the fields of a new instance hold. -/
theorem freshFields_eq (codecs : Codecs) (struct : String) (members : List Member) :
    members.map (package.freshField codecs struct) =
      (package.defaultRows codecs members).map fun row => (scopedName struct row.1.name, row.2) := by
  simp [defaultRows, freshField, Function.comp_def]

/-- A struct holds the struct that a member has a new instance of. -/
theorem holds_of_fieldDefault (declared : package.structs.lookup struct = some members)
    {member : Member} (among : member ∈ members) {other : String}
    (isFresh : package.fieldDefault member = .fresh other) : Holds package struct other := by
  refine ⟨members, declared, member, among, ?_⟩
  unfold fieldDefault at isFresh
  split at isFresh
  · cases isFresh
  · next plain => exact ⟨Bool.eq_false_iff.2 plain, isFresh⟩

/-- The default of a member of a visible struct means the same in its class. -/
theorem fieldDefault_scoped (visible : Visible package struct)
    (declared : package.structs.lookup struct = some members) {member : Member}
    (among : member ∈ members) :
    (package.fieldDefault member).scoped struct = package.fieldDefault member := by
  cases isDefault : package.fieldDefault member with
  | fresh other =>
    have holds := holds_of_fieldDefault declared among isDefault
    rw [Default.scoped, visible struct .refl other (.inr holds)]
  | _ => rfl

/-- A default that is no new struct is the value of a JSON value, however structs are made. -/
theorem ofDefault_const {default : Default} (notFresh : ∀ other, default ≠ .fresh other) :
    ∃ json : Json, ∀ make, Codecs.ofDefault make default = .ok json.toValue := by
  cases default with
  | fresh other => exact absurd rfl (notFresh other)
  | null => exact ⟨.null, fun make => rfl⟩
  | no => exact ⟨.bool false, fun make => rfl⟩
  | zero => exact ⟨.int 0, fun make => rfl⟩
  | zeroFloat => exact ⟨.float .zero, fun make => rfl⟩
  | emptyText => exact ⟨.str "", fun make => rfl⟩
  | emptyList => exact ⟨.list [], fun make => rfl⟩
  | emptyMap => exact ⟨.object [], fun make => rfl⟩

/-- A visible struct is made within any depth above its rank, and the depth makes no difference. The
structs in it have lower ranks, which is what the induction is on. -/
theorem Loads.exists_makeWithin (loaded : package.Loads codecs) {rank : String → Nat}
    (lower : ∀ struct other, Holds package struct other →
      rank other < rank struct ∧ ∃ members, package.structs.lookup other = some members)
    (visible : Visible package struct) (declared : package.structs.lookup struct = some members) :
    ∃ rows : List (Member × Value), rows.map (·.1) = members ∧
      (∀ row ∈ rows, row.2.same row.2 = true ∧ ∀ depth, rank struct ≤ depth →
        Codecs.ofDefault (codecs.makeWithin depth) (package.fieldDefault row.1) = .ok row.2) ∧
      ∀ depth, rank struct < depth → codecs.makeWithin depth struct =
        .ok (.record struct (rows.map fun row => (scopedName struct row.1.name, row.2))) := by
  induction level : rank struct using Nat.strongRecOn generalizing struct members with
  | ind level lowerLevels =>
    subst level
    have each : ∀ member ∈ members, ∃ value, value.same value = true ∧ ∀ depth,
        rank struct ≤ depth → Codecs.ofDefault (codecs.makeWithin depth)
          (package.fieldDefault member) = .ok value := by
      intro member among
      by_cases isFresh : ∃ other, package.fieldDefault member = .fresh other
      · obtain ⟨other, isFresh⟩ := isFresh
        have holds := holds_of_fieldDefault declared among isFresh
        obtain ⟨below, otherMembers, otherDeclared⟩ := lower struct other holds
        obtain ⟨rows, _, values, made⟩ := lowerLevels (rank other) below
          (visible.of_uses (.inr holds)) otherDeclared rfl
        refine ⟨.record other (rows.map fun row => (scopedName other row.1.name, row.2)), ?_, ?_⟩
        · rw [Value.same, beq_self_eq_true, Bool.true_and]
          exact Value.sameFields_map _ fun row member => (values row member).1
        · intro depth enough
          rw [isFresh, Codecs.ofDefault]
          exact made depth (by omega)
      · obtain ⟨json, isValue⟩ := ofDefault_const fun other notFresh => isFresh ⟨other, notFresh⟩
        exact ⟨json.toValue, Value.same_toValue json, fun depth _ => isValue _⟩
    obtain ⟨rows, sides, values⟩ := exists_rows each
    refine ⟨rows, sides, values, ?_⟩
    intro depth enough
    obtain ⟨depth, rfl⟩ : ∃ fewer, depth = fewer + 1 := ⟨depth - 1, by omega⟩
    obtain ⟨codec, found, isCodec⟩ := loaded.exists_codec declared
    have fields : (codec.fields.mapM fun field =>
        Codecs.freshField (codecs.makeWithin depth) field.1 field.2) =
        .ok (rows.map fun row => (scopedName struct row.1.name, row.2)) := by
      rw [isCodec.fields, ← sides, List.map_map]
      simp only [mapM_eq_ok_iff, List.forall₂_map_left_iff, List.forall₂_map_right_iff,
        List.forall₂_same]
      intro row member
      have among : row.1 ∈ members := sides ▸ List.mem_map.2 ⟨row, member, rfl⟩
      dsimp only [Function.comp_apply]
      rw [Codecs.freshField, fieldDefault_scoped visible declared among,
        (values row member).2 depth (by omega)]
      rfl
    rw [Codecs.makeWithin, found]
    dsimp only
    rw [fields]
    rfl

/-- A visible struct can be made, and it holds the defaults of its members, which equal
themselves. -/
theorem Loads.make_eq (loaded : package.Loads codecs) (collected : Collected package)
    (visible : Visible package struct) (declared : package.structs.lookup struct = some members) :
    codecs.make struct = .ok (.record struct (members.map (package.freshField codecs struct))) ∧
      ∀ member ∈ members, Codecs.ofDefault codecs.make (package.fieldDefault member) =
          .ok (codecs.defaultValue (package.fieldDefault member)) ∧
        (codecs.defaultValue (package.fieldDefault member)).same
          (codecs.defaultValue (package.fieldDefault member)) = true := by
  obtain ⟨rank, bounded, lower⟩ := collected.exists_structRank
  obtain ⟨rows, sides, values, made⟩ := loaded.exists_makeWithin lower visible declared
  have deep := bounded struct members declared
  rw [← loaded.length_structs] at deep
  have isDefault : ∀ row ∈ rows, Codecs.ofDefault codecs.make (package.fieldDefault row.1) =
      .ok (codecs.defaultValue (package.fieldDefault row.1)) ∧
        codecs.defaultValue (package.fieldDefault row.1) = row.2 := by
    intro row member
    have value : Codecs.ofDefault codecs.make (package.fieldDefault row.1) = .ok row.2 :=
      (values row member).2 _ (Nat.le_of_lt deep)
    rw [Codecs.defaultValue, value]
    exact ⟨rfl, rfl⟩
  constructor
  · rw [Codecs.make, made _ deep, ← sides, List.map_map]
    congr 2
    refine List.map_congr_left fun row member => ?_
    rw [Function.comp_apply, freshField, (isDefault row member).2]
  · intro member among
    rw [← sides] at among
    obtain ⟨row, held, rfl⟩ := List.mem_map.1 among
    refine ⟨(isDefault row held).1, ?_⟩
    rw [(isDefault row held).2]
    exact (values row held).1

end Package

end DeclCodec
