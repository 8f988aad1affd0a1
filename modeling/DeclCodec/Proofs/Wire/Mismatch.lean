import DeclCodec.Proofs.Wire.Matching

/-!
# The first value that does not match

Reading goes through the items of a list and the members of an object in their order,
a name before the value under it, and stops at the first that does not match. The
fault tells what was there in place of what. All faults of a simple shape are faults
of reading but one: an integer that is too large for the numbers where a number is
wanted is an overflow.
-/

namespace DeclCodec

/-- What is there in place of what a shape wants. -/
inductive Mismatch
  /-- A value of another kind than the class. -/
  | wrongKind (cls : Class) (json : Json)
  /-- A value that is no list. -/
  | noList (json : Json)
  /-- A value that is no object. -/
  | noObject (json : Json)
  /-- A name that spells no integer. -/
  | noInteger (name : Points)
  /-- An integer with no finite number near it. -/
  | tooLarge (number : Int)

/-- The fault that a mismatch is reported as. -/
def Mismatch.fault : Mismatch → WireFault
  | .wrongKind cls json => .cannotDecode json.toValue.typeName cls.name
  | .noList json => .expectedArray json.toValue.typeName
  | .noObject json => .expectedObject json.toValue.typeName
  | .noInteger name => .invalidIntegerKey (String.ofList (Value.str name).display)
  | .tooLarge _ => .tooLarge

/-- Is the fault one of reading: a value or a key that does not match its shape? -/
def WireFault.isReadingFault : WireFault → Bool
  | .expectedObject _ | .expectedArray _ | .cannotDecode _ _ | .invalidIntegerKey _
  | .unsupportedKeyShape _ => true
  | _ => false

/-- The first mismatch of a JSON value with a shape, in the order of reading. -/
inductive FirstMismatch : Shape → Json → Mismatch → Prop
  | wrongKind {cls : Class} {json : Json} (misfit : ¬Matches (.named cls) json)
      (other : cls = .float → ∀ number, json ≠ .int number) :
      FirstMismatch (.named cls) json (.wrongKind cls json)
  | tooLarge {number : Int} (beyond : Binary64.overflow ≤ number.natAbs) :
      FirstMismatch (.named .float) (.int number) (.tooLarge number)
  | pointer {elem : Shape} {json : Json} {mismatch : Mismatch}
      (inner : FirstMismatch elem json mismatch) : FirstMismatch (.pointer elem) json mismatch
  | noList {elem : Shape} {json : Json} (present : json ≠ .null)
      (other : ∀ items, json ≠ .list items) : FirstMismatch (.slice elem) json (.noList json)
  | item {elem : Shape} {before rest : List Json} {item : Json} {mismatch : Mismatch}
      (earlier : ∀ other ∈ before, Matches elem other) (here : FirstMismatch elem item mismatch) :
      FirstMismatch (.slice elem) (.list (before ++ item :: rest)) mismatch
  | noObject {key elem : Shape} {json : Json} (present : json ≠ .null)
      (other : ∀ members, json ≠ .object members) :
      FirstMismatch (.map key elem) json (.noObject json)
  | name {key elem : Shape} {before rest : List (Points × Json)} {name : Points} {json : Json}
      (earlier : ∀ other ∈ before, NameFits key other.1 ∧ Matches elem other.2)
      (misfit : ¬NameFits key name) :
      FirstMismatch (.map key elem) (.object (before ++ (name, json) :: rest)) (.noInteger name)
  | value {key elem : Shape} {before rest : List (Points × Json)} {name : Points} {json : Json}
      {mismatch : Mismatch}
      (earlier : ∀ other ∈ before, NameFits key other.1 ∧ Matches elem other.2)
      (fits : NameFits key name) (here : FirstMismatch elem json mismatch) :
      FirstMismatch (.map key elem) (.object (before ++ (name, json) :: rest)) mismatch

variable {codecs : Codecs} {key elem : Shape}

/-- Where there is a mismatch, there is a value. -/
theorem FirstMismatch.present {shape : Shape} {json : Json} {mismatch : Mismatch}
    (first : FirstMismatch shape json mismatch) : json ≠ .null := by
  induction first with
  | wrongKind misfit _ =>
    rintro rfl
    exact misfit (.nothing _)
  | pointer _ inductionHypothesis => exact inductionHypothesis
  | noList present _ => exact present
  | noObject present _ => exact present
  | _ => simp

/-- A value of another kind than the class is refused as such. -/
theorem decode_wrongKind {cls : Class} (builtin : cls.isBuiltin = true) {json : Json}
    (misfit : ¬Matches (.named cls) json) (other : cls = .float → ∀ number, json ≠ .int number) :
    json.toValue.decode codecs (.named cls) = .error (Mismatch.wrongKind cls json).fault := by
  cases cls with
  | object => exact absurd (.object json) misfit
  | raw => exact absurd (.raw json) misfit
  | float =>
    cases json with
    | int number => exact absurd rfl (other rfl number)
    | null | float _ => exact absurd (by constructor) misfit
    | _ => rfl
  | bool => cases json <;> first | rfl | exact absurd (by constructor) misfit
  | int => cases json <;> first | rfl | exact absurd (by constructor) misfit
  | str => cases json <;> first | rfl | exact absurd (by constructor) misfit
  | _ => cases builtin

/-- An integer that is too large for a number overflows. -/
theorem decode_tooLarge {number : Int} (beyond : Binary64.overflow ≤ number.natAbs) :
    (Json.int number).toValue.decode codecs (.named .float) = .error .tooLarge := by
  have none : Binary64.ofInt? number = none := by
    rw [← Option.not_isSome_iff_eq_none, Binary64.ofInt?_isSome_iff]
    omega
  rw [decode_float_int rfl, none]

/-- A name that does not fit is refused as such. -/
theorem readKey_misfit {name : Points} (misfit : ¬NameFits key name) :
    (Value.str name).readKey key = .error (Mismatch.noInteger name).fault := by
  obtain ⟨isInteger, spellsNone⟩ := Classical.not_imp.1 misfit
  have noSpelling : spelledInteger? name = none := by
    cases spelled : spelledInteger? name with
    | none => rfl
    | some number => exact absurd ⟨number, spelledInteger?_eq_some_iff.1 spelled⟩ spellsNone
  simp only [Value.readKey, isInteger, integerKey_str, noSpelling]
  rfl

/-- Of a member the name is read first. -/
theorem readEntry_member (state : List (Value × Value)) (name : Points) (json : Json) :
    readEntry key elem state (.str name, ⟨json.toValue, json.toValue.decode codecs⟩) = (do
      let held ← (Value.str name).readKey key
      let value ← json.toValue.decode codecs elem
      pure (Table.put held value state)) := rfl

/-- Members that match do not stop the reading of an object; the first that fails does. -/
theorem decode_object_error (keys : key.bare = .named .str ∨ key.bare = .named .int)
    (simple : elem.Simple) {before rest : List (Points × Json)} {member : Points × Json}
    (earlier : ∀ other ∈ before, NameFits key other.1 ∧ Matches elem other.2) {fault : WireFault}
    (failed : ∀ state, readEntry key elem state (Value.str member.1,
      ⟨member.2.toValue, member.2.toValue.decode codecs⟩) = .error fault) :
    (Json.object (before ++ member :: rest)).toValue.decode codecs (.map key elem) =
      .error fault := by
  have each : ∀ entry ∈ before.map fun other => (Value.str other.1,
        (⟨other.2.toValue, other.2.toValue.decode codecs⟩ : Reader)),
      ∀ state, ∃ next, readEntry key elem state entry = .ok next := by
    intro entry held state
    obtain ⟨other, among, rfl⟩ := List.mem_map.1 held
    obtain ⟨fits, matching⟩ := earlier other among
    obtain ⟨name, isName⟩ := fits.exists_of_simple keys
    obtain ⟨value, isValue⟩ := (simple.exists_decode_iff codecs).2 matching
    refine ⟨Table.put name value state, ?_⟩
    rw [readEntry_member, readKey_eq_ok_iff.2 isName, isValue]
    rfl
  rw [decode_members, List.map_append, List.map_cons, foldlM_eq_error each failed]
  rfl

/-- The first mismatch is what is reported. The induction is on where it is found. -/
theorem FirstMismatch.decode_eq {shape : Shape} {json : Json} {mismatch : Mismatch}
    (first : FirstMismatch shape json mismatch) (simple : shape.Simple) :
    json.toValue.decode codecs shape = .error mismatch.fault := by
  induction first with
  | wrongKind misfit other =>
    cases simple with
    | named builtin => exact decode_wrongKind builtin misfit other
  | tooLarge beyond => exact decode_tooLarge beyond
  | pointer inner inductionHypothesis =>
    cases simple with
    | pointer simple =>
      have isThere := Json.toValue_ne_null inner.present
      rw [Value.decode_bare codecs isThere, Shape.bare, ← Value.decode_bare codecs isThere]
      exact inductionHypothesis simple
  | @noList _ json present other =>
    cases json with
    | null => exact absurd rfl present
    | list items => exact absurd rfl (other items)
    | _ => rfl
  | item earlier _ inductionHypothesis =>
    cases simple with
    | slice simple =>
      have each := fun other member => (simple.exists_decode_iff codecs).2 (earlier other member)
      rw [decode_items, mapM_eq_error each (inductionHypothesis simple)]
      rfl
  | @noObject _ _ json present other =>
    cases json with
    | null => exact absurd rfl present
    | object members => exact absurd rfl (other members)
    | _ => rfl
  | name earlier misfit =>
    cases simple with
    | map keys simple =>
      refine decode_object_error keys simple earlier fun state => ?_
      rw [readEntry_member, readKey_misfit misfit]
      rfl
  | value earlier fits _ inductionHypothesis =>
    cases simple with
    | map keys simple =>
      obtain ⟨name, isName⟩ := fits.exists_of_simple keys
      refine decode_object_error keys simple earlier fun state => ?_
      rw [readEntry_member, readKey_eq_ok_iff.2 isName, inductionHypothesis simple]
      rfl

/-- A value that does not match a simple shape has a first mismatch. The induction is on the
shape. -/
theorem Shape.Simple.exists_firstMismatch {shape : Shape} (simple : shape.Simple) {json : Json}
    (misfit : ¬Matches shape json) : ∃ mismatch, FirstMismatch shape json mismatch := by
  induction simple generalizing json with
  | @named cls _ =>
    by_cases integer : cls = .float ∧ ∃ number, json = .int number
    · obtain ⟨rfl, number, rfl⟩ := integer
      exact ⟨_, .tooLarge (Nat.le_of_not_lt fun inRange => misfit (.whole inRange))⟩
    · refine ⟨_, .wrongKind misfit ?_⟩
      exact fun isFloat number isInteger => integer ⟨isFloat, number, isInteger⟩
  | pointer _ inductionHypothesis =>
    obtain ⟨mismatch, inner⟩ := inductionHypothesis fun inner => misfit (.pointer inner)
    exact ⟨mismatch, .pointer inner⟩
  | slice _ inductionHypothesis =>
    cases json with
    | null => exact absurd (.nothing _) misfit
    | list items =>
      obtain ⟨before, item, rest, rfl, earlier, lacks⟩ :=
        exists_first_of_not_forall fun each => misfit (.slice each)
      obtain ⟨mismatch, here⟩ := inductionHypothesis lacks
      exact ⟨mismatch, .item earlier here⟩
    | _ => exact ⟨_, .noList (by simp) (by simp)⟩
  | @map key elem _ _ inductionHypothesis =>
    cases json with
    | null => exact absurd (.nothing _) misfit
    | object members =>
      have lacking : ¬∀ member ∈ members, NameFits key member.1 ∧ Matches elem member.2 :=
        fun each => misfit (.map (fun member held => (each member held).1)
          fun member held => (each member held).2)
      obtain ⟨before, member, rest, rfl, earlier, lacks⟩ := exists_first_of_not_forall lacking
      by_cases fits : NameFits key member.1
      · obtain ⟨mismatch, here⟩ := inductionHypothesis fun inner => lacks ⟨fits, inner⟩
        exact ⟨mismatch, .value earlier fits here⟩
      · exact ⟨_, .name earlier fits⟩
    | _ => exact ⟨_, .noObject (by simp) (by simp)⟩

/-- Exactly an integer that is too large is an overflow; every other mismatch is a fault of
reading. -/
theorem Mismatch.fault_cases (mismatch : Mismatch) :
    (∃ number, mismatch = .tooLarge number) ∧ mismatch.fault = .tooLarge ∨
      (∀ number, mismatch ≠ .tooLarge number) ∧ mismatch.fault.isReadingFault = true := by
  cases mismatch with
  | tooLarge number => exact .inl ⟨⟨number, rfl⟩, rfl⟩
  | _ => exact .inr ⟨by simp, rfl⟩

/-- A simple shape reads exactly the values that match it, and what it reads has the type of the
shape at every level. Of a value that does not match the first mismatch in the order of reading is
reported: as an overflow if it is an integer too large for a number, and as a fault of reading
otherwise. -/
theorem Shape.Simple.decode_matching (codecs : Codecs) {shape : Shape} (simple : shape.Simple)
    (json : Json) :
    ((∃ value, json.toValue.decode codecs shape = .ok value) ↔ Matches shape json) ∧
    (∀ value, json.toValue.decode codecs shape = .ok value →
      ReadsAs shape json value ∧ HasShape shape value) ∧
    (¬Matches shape json → ∃ mismatch, FirstMismatch shape json mismatch) ∧
    ∀ mismatch, FirstMismatch shape json mismatch →
      json.toValue.decode codecs shape = .error mismatch.fault ∧
      ((∃ number, mismatch = .tooLarge number) ∧ mismatch.fault = .tooLarge ∨
        (∀ number, mismatch ≠ .tooLarge number) ∧ mismatch.fault.isReadingFault = true) :=
  ⟨simple.exists_decode_iff codecs,
    fun _ decoded => ⟨simple.decode_iff.1 decoded, hasShape_of_decode simple.isBuiltin decoded⟩,
    simple.exists_firstMismatch,
    fun mismatch first => ⟨first.decode_eq simple, mismatch.fault_cases⟩⟩

/-- Lists of numbers under integers: a list with nothing in it is read, and of two values that do
not match the first is reported. -/
theorem Shape.Simple.decode_matching_rows :
    (∃ value, (Json.object [(" +7 ", .list [.null, .int 2])]).toValue.decode Codecs.empty
        (.map (.pointer (.named .int)) (.slice (.named .float))) = .ok value ∧
      HasShape (.map (.pointer (.named .int)) (.slice (.named .float))) value) ∧
      (Json.object [("7", .list [.null, .int Binary64.overflow]), ("x", .null)]).toValue.decode
        Codecs.empty (.map (.pointer (.named .int)) (.slice (.named .float))) =
            .error .tooLarge := by
  have simple : (Shape.map (.pointer (.named .int)) (.slice (.named .float))).Simple :=
    .map (.inr rfl) (.slice (.named rfl))
  constructor
  · obtain ⟨taken, typed, _⟩ :=
      simple.decode_matching Codecs.empty (.object [(" +7 ", .list [.null, .int 2])])
    have small : (2 : Int).natAbs < Binary64.overflow := by decide +kernel
    have fits : Matches (.map (.pointer (.named .int)) (.slice (.named .float)))
        (.object [(" +7 ", .list [.null, .int 2])]) := by
      refine .map ?_ ?_
      · intro member held _
        rw [List.mem_singleton.1 held]
        exact ⟨7, _, rfl, IntText.parse?_eq_some_iff.1 (by decide)⟩
      · intro member held
        rw [List.mem_singleton.1 held]
        refine .slice ?_
        simp only [List.forall_mem_cons, List.not_mem_nil, false_implies, implies_true, and_true]
        exact ⟨.nothing _, .whole small⟩
    obtain ⟨value, decoded⟩ := taken.2 fits
    exact ⟨value, decoded, (typed value decoded).2⟩
  · obtain ⟨_, _, _, reported⟩ := simple.decode_matching Codecs.empty
      (.object [("7", .list [.null, .int Binary64.overflow]), ("x", .null)])
    have names : NameFits (.pointer (.named .int)) "7" :=
      fun _ => ⟨7, _, rfl, IntText.parse?_eq_some_iff.1 (by decide)⟩
    have beyond : Binary64.overflow ≤ (Binary64.overflow : Int).natAbs := by
      rw [Int.natAbs_natCast]
    have items : FirstMismatch (.slice (.named .float))
        (.list ([.null] ++ .int Binary64.overflow :: [])) (.tooLarge Binary64.overflow) :=
      .item (fun other held => List.mem_singleton.1 held ▸ .nothing _) (.tooLarge beyond)
    have first : FirstMismatch (.map (.pointer (.named .int)) (.slice (.named .float)))
        (.object [("7", .list [.null, .int Binary64.overflow]), ("x", .null)])
        (.tooLarge Binary64.overflow) :=
      .value (List.forall_mem_nil _) names items
    exact (reported _ first).1

end DeclCodec
