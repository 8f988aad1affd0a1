import DeclCodec.Command.Overview
import DeclCodec.Proofs.Decl.Types
import DeclCodec.Proofs.Traversal

/-!
# The policies of a field line

A field line has one tag for all of its names, so a tag that says more than that the
names are kept off the wire is refused if there are several of them: it would give
them all one name. That is refused first, whatever else is wrong with the tag, and also
if no name is exported. What is wrong with the reference value is a fault of a single
name, and so of no line whose names are all unexported.

Without a fault every exported name has a policy, in the order of the names. The names
on the wire are pairwise distinct, since a name on the wire that is not the field's own
is that of a line with one name.
-/

namespace DeclCodec

/-- Is the fault one of a reference value? -/
def Fault.IsPolicy : Fault → Prop
  | .missingIdentifierName _ => True
  | .severalVariants _ _ => True
  | .unknownVariant _ _ => True
  | _ => False

/-- Can the name stand in a tag value as it is? -/
def IsTagName (name : Points) : Prop := name ≠ [] ∧ .char ',' ∉ name

instance : DecidablePred IsTagName := fun name =>
  inferInstanceAs (Decidable (name ≠ [] ∧ .char ',' ∉ name))

/-- Every name of a declaration can. -/
theorem IsName.isTagName {name : String} (isName : IsName name) : IsTagName name := by
  have noComma : ',' ∉ name.toList := isName.not_mem (by decide)
  obtain ⟨first, rest, isWord, _⟩ := isName
  refine ⟨by simp [isWord], fun inside => ?_⟩
  obtain ⟨_, among, same⟩ := List.mem_map.1 inside
  cases same
  exact noComma among

/-- There is no comma in the name that a value has. -/
theorem Tag.comma_not_mem_name (value : Points) : CodePoint.char ',' ∉ Tag.name value := by
  rw [Tag.name, Text.beforeFirst]
  intro inside
  simpa using List.all_eq_true.1 List.all_takeWhile (CodePoint.char ',') inside

namespace Policy

/-- The name under which the identifier is written; empty if none is. -/
def idName : Policy → Points
  | .reference _ name _ _ => name
  | _ => []

/-- What is guaranteed of the policy of a name. -/
structure Sound (name : String) (policy : Policy) : Prop where
  named : IsTagName policy.wireName
  ofReference : policy.isReference = true →
    policy.variant? ≠ none ∧ IsTagName policy.idName
  ofOther : policy.isReference = false → policy.variant? = none ∧ policy.idName = []
  ofOmitted : policy.isWired = false → policy.isReference = false ∧ policy.wireName = name

/-- Does a value say `-`, as its name or as a flag? -/
def SaysOmit (value : Points) : Prop :=
  Tag.name value = Text.points ['-'] ∨ Text.points ['-'] ∈ Tag.flags value

/-- Is something wrong with a reference value? Such a value needs a name, and may have one flag,
which must be the word for a variant. -/
def Malformed (refValue : Points) : Prop :=
  Tag.name refValue = [] ∨ 1 < (Tag.flags refValue).length ∨
    ∃ flag, Tag.flags refValue = [flag] ∧ flag ≠ "id" ∧ flag ≠ "value"

/-- Two values, of which neither keeps the field off the wire. -/
structure Wired (wireValue refValue : Points) : Prop where
  wire : ¬ SaysOmit wireValue
  ref : ¬ SaysOmit refValue

/-- Would the values name several fields at once? -/
structure Ambiguous (names : List String) (wireValue refValue : Points) : Prop where
  several : 1 < names.length
  wired : Wired wireValue refValue
  naming : Tag.name wireValue ≠ [] ∨ refValue ≠ []

/-- Do the values make an exported name a reference that cannot be? -/
structure Misreferring (names : List String) (wireValue refValue : Points) : Prop where
  exported : ∃ name ∈ names, Descriptor.isExportedName name = true
  wired : Wired wireValue refValue
  given : refValue ≠ []
  malformed : Malformed refValue

variable {names : List String} {wireValue refValue : Points} {name : String}

/-- That is how it is asked whether a field is kept off the wire. -/
theorem omits_eq_false_iff : (omits wireValue || omits refValue) = false ↔
    Wired wireValue refValue := by
  have each (value : Points) : omits value = false ↔ ¬ SaysOmit value := by
    simp [omits, SaysOmit]
  rw [Bool.or_eq_false_iff, each, each]
  exact ⟨fun ⟨wire, ref⟩ => ⟨wire, ref⟩, fun wired => ⟨wired.wire, wired.ref⟩⟩

/-! ## One name -/

/-- A name that is kept off the wire has a policy that says so. -/
theorem resolve_of_not_wired (omitted : ¬ Wired wireValue refValue) (name : String) :
    resolve wireValue refValue name = .ok (.omitted name) := by
  rw [resolve, if_pos]
  rwa [← Bool.not_eq_false, omits_eq_false_iff]

/-- Without a reference value the policy is plain. -/
theorem resolve_plain (wired : Wired wireValue []) (name : String) :
    resolve wireValue [] name =
      .ok (.plain (if Tag.name wireValue = [] then name else Tag.name wireValue)
        ((Tag.flags wireValue).contains "omitempty")) := by
  rw [resolve, omits_eq_false_iff.2 wired, if_neg Bool.false_ne_true, if_pos rfl]

/-- A reference value with something wrong is refused. -/
theorem resolve_malformed (wired : Wired wireValue refValue) (given : refValue ≠ [])
    (malformed : Malformed refValue) (name : String) :
    ∃ fault, resolve wireValue refValue name = .error fault ∧ fault.IsPolicy := by
  rw [resolve, omits_eq_false_iff.2 wired, if_neg Bool.false_ne_true, if_neg given]
  by_cases unnamed : Tag.name refValue = []
  · exact ⟨_, if_pos unnamed, trivial⟩
  · rw [if_neg unnamed]
    rcases malformed with none | several | ⟨flag, only, noId, noValue⟩
    · exact absurd none unnamed
    · match isFlags : Tag.flags refValue with
      | [] => simp [isFlags] at several
      | [_] => simp [isFlags] at several
      | _ :: _ :: _ => exact ⟨_, rfl, trivial⟩
    · have unknown : Variant.ofText? flag = none := by
        rw [Variant.ofText?, if_neg noId, if_neg noValue]
      rw [only]
      dsimp only
      rw [unknown]
      exact ⟨_, rfl, trivial⟩

/-- With nothing wrong in its reference value the field is a reference. -/
theorem resolve_reference (wired : Wired wireValue refValue) (given : refValue ≠ [])
    (wellFormed : ¬ Malformed refValue) (name : String) :
    Tag.name refValue ≠ [] ∧ ∃ variant omitEmpty, resolve wireValue refValue name =
      .ok (.reference (if Tag.name wireValue = [] then name else Tag.name wireValue)
        (Tag.name refValue) variant omitEmpty) := by
  simp only [Malformed, not_or, not_exists, not_and] at wellFormed
  obtain ⟨named, notSeveral, known⟩ := wellFormed
  refine ⟨named, ?_⟩
  rw [resolve, omits_eq_false_iff.2 wired, if_neg Bool.false_ne_true, if_neg given, if_neg named]
  match isFlags : Tag.flags refValue with
  | [] => exact ⟨_, _, rfl⟩
  | [flag] =>
    have isVariant : ∃ variant, Variant.ofText? flag = some variant := by
      by_cases isId : flag = Text.points "id".toList
      · exact ⟨.id, if_pos isId⟩
      · have isValue : flag = Text.points "value".toList := not_not.1 (known flag isFlags isId)
        exact ⟨.value, by rw [Variant.ofText?, if_neg isId, if_pos isValue]⟩
    obtain ⟨variant, isVariant⟩ := isVariant
    dsimp only
    rw [isVariant]
    exact ⟨_, _, rfl⟩
  | _ :: _ :: _ => simp [isFlags] at notSeveral

/-- A name has a policy unless it is made a reference that cannot be. The policy is sound, and where
nothing is named by the values, the name on the wire is the field's own. -/
theorem resolve_sound (isName : IsTagName name)
    (fine : Wired wireValue refValue → refValue ≠ [] → ¬ Malformed refValue) :
    ∃ policy, resolve wireValue refValue name = .ok policy ∧ Sound name policy ∧
      ((Wired wireValue refValue → Tag.name wireValue = []) → policy.wireName = name) := by
  have wireNamed : IsTagName (if Tag.name wireValue = [] then name else Tag.name wireValue) := by
    split
    · exact isName
    · next named => exact ⟨named, Tag.comma_not_mem_name wireValue⟩
  by_cases wired : Wired wireValue refValue
  · by_cases given : refValue = []
    · subst given
      exact ⟨_, resolve_plain wired name, ⟨wireNamed, nofun, fun _ => ⟨rfl, rfl⟩, nofun⟩,
        fun unnamed => if_pos (unnamed wired)⟩
    · obtain ⟨named, variant, omitEmpty, resolved⟩ :=
        resolve_reference wired given (fine wired given) name
      have isReference : IsTagName (Tag.name refValue) := ⟨named, Tag.comma_not_mem_name refValue⟩
      exact ⟨_, resolved, ⟨wireNamed, fun _ => ⟨nofun, isReference⟩, nofun, nofun⟩,
        fun unnamed => if_pos (unnamed wired)⟩
  · exact ⟨_, resolve_of_not_wired wired name,
      ⟨isName, nofun, fun _ => ⟨rfl, rfl⟩, fun _ => ⟨rfl, rfl⟩⟩, fun _ => rfl⟩

/-! ## A field line -/

section Line

variable {tag : Option Points} {wireKey refKey : Points}

/-- A line of names with two values is refused if the values would name several fields at once, and
otherwise each exported name gets its policy. -/
theorem resolveField_of_lookup (names : List String)
    (wire : Tag.lookup tag wireKey = .ok wireValue)
    (ref : Tag.lookup tag refKey = .ok refValue) :
    (Ambiguous names wireValue refValue →
      resolveField names tag wireKey refKey = .error (.ambiguousTag names)) ∧
    (¬ Ambiguous names wireValue refValue →
      resolveField names tag wireKey refKey = (names.filter Descriptor.isExportedName).mapM
        fun name => (fun policy => (name, policy)) <$> resolve wireValue refValue name) := by
  have asked : ((Tag.name wireValue != [] || refValue != []) && 1 < names.length &&
      !(omits wireValue || omits refValue)) = true ↔ Ambiguous names wireValue refValue := by
    rw [Bool.and_eq_true, Bool.and_eq_true, Bool.not_eq_true', omits_eq_false_iff]
    simp only [Bool.or_eq_true, bne_iff_ne, decide_eq_true_eq]
    exact ⟨fun ⟨⟨naming, several⟩, wired⟩ => ⟨several, wired, naming⟩,
      fun ⟨several, wired, naming⟩ => ⟨⟨naming, several⟩, wired⟩⟩
  constructor
  · intro ambiguous
    rw [resolveField, wire, ref]
    exact if_pos (asked.2 ambiguous)
  · intro notAmbiguous
    rw [resolveField, wire, ref]
    exact if_neg fun holds => notAmbiguous (asked.1 holds)

/-- The faults of names that are refused are faults of a reference value. -/
theorem mapM_resolve_malformed (wired : Wired wireValue refValue) (given : refValue ≠ [])
    (malformed : Malformed refValue) (nonempty : names ≠ []) :
    ∃ fault, (names.mapM fun name => (fun policy => (name, policy)) <$>
      resolve wireValue refValue name) = .error fault ∧ fault.IsPolicy := by
  obtain ⟨name, rest, rfl⟩ := List.exists_cons_of_ne_nil nonempty
  obtain ⟨fault, failed, isPolicy⟩ := resolve_malformed wired given malformed name
  refine ⟨fault, ?_, isPolicy⟩
  rw [List.mapM_cons, failed]
  rfl

/-- Names that need no refusal have sound policies, one for each in order. -/
theorem mapM_resolve_sound (wireValue refValue : Points)
    (allNames : ∀ name ∈ names, IsTagName name)
    (fine : names ≠ [] → Wired wireValue refValue → refValue ≠ [] → ¬ Malformed refValue) :
    ∃ policies, (names.mapM fun name => (fun policy => (name, policy)) <$>
        resolve wireValue refValue name) = .ok policies ∧
      policies.map (·.1) = names ∧ (∀ entry ∈ policies, Sound entry.1 entry.2) ∧
      ((Wired wireValue refValue → Tag.name wireValue = []) →
        policies.map (·.2.wireName) = names.map fun name => Text.points name.toList) := by
  induction names with
  | nil => exact ⟨[], rfl, rfl, by simp, fun _ => rfl⟩
  | cons name names inductionHypothesis =>
    rw [List.forall_mem_cons] at allNames
    have fineHere := fine (List.cons_ne_nil _ _)
    obtain ⟨policy, resolved, sound, own⟩ := resolve_sound allNames.1 fineHere
    obtain ⟨policies, all, inOrder, eachSound, allOwn⟩ :=
      inductionHypothesis allNames.2 fun _ => fineHere
    refine ⟨(name, policy) :: policies, ?_, ?_, List.forall_mem_cons.2 ⟨sound, eachSound⟩, ?_⟩
    · rw [List.mapM_cons, resolved, all]
      rfl
    · rw [List.map_cons, inOrder]
    · intro unnamed
      rw [List.map_cons, own unnamed, allOwn unnamed, List.map_cons]

/-- What a field line becomes. Let the names of the line be distinct, and let each be able to stand
in a tag value, as every name of a declaration can. Then an ambiguous tag is the first thing that is
refused. After it a reference value with something wrong is, if there is a name to refuse it for. In
all other cases there is one policy for each exported name, in their order. The policies are sound,
and no two have the same name on the wire. -/
theorem resolveField_line (allNames : ∀ name ∈ names, IsTagName name) (apart : names.Nodup)
    (wire : Tag.lookup tag wireKey = .ok wireValue) (ref : Tag.lookup tag refKey = .ok refValue) :
    ((∃ listed, resolveField names tag wireKey refKey = .error (.ambiguousTag listed)) ↔
      Ambiguous names wireValue refValue) ∧
    (¬ Ambiguous names wireValue refValue →
      ((∃ fault, resolveField names tag wireKey refKey = .error fault ∧ fault.IsPolicy) ↔
        Misreferring names wireValue refValue)) ∧
    (¬ Ambiguous names wireValue refValue → ¬ Misreferring names wireValue refValue →
      ∃ policies, resolveField names tag wireKey refKey = .ok policies ∧
        policies.map (·.1) = names.filter Descriptor.isExportedName ∧
        (∀ entry ∈ policies, Sound entry.1 entry.2) ∧ (policies.map (·.2.wireName)).Nodup) := by
  obtain ⟨refused, notRefused⟩ := resolveField_of_lookup names wire ref
  have refusedReference (notAmbiguous : ¬ Ambiguous names wireValue refValue)
      (misreferring : Misreferring names wireValue refValue) :
      ∃ fault, resolveField names tag wireKey refKey = .error fault ∧ fault.IsPolicy := by
    obtain ⟨⟨name, among, isExported⟩, wired, given, malformed⟩ := misreferring
    rw [notRefused notAmbiguous]
    exact mapM_resolve_malformed wired given malformed
      (List.ne_nil_of_mem (List.mem_filter.2 ⟨among, isExported⟩))
  have resolved (notAmbiguous : ¬ Ambiguous names wireValue refValue)
      (notMisreferring : ¬ Misreferring names wireValue refValue) :
      ∃ policies, resolveField names tag wireKey refKey = .ok policies ∧
        policies.map (·.1) = names.filter Descriptor.isExportedName ∧
        (∀ entry ∈ policies, Sound entry.1 entry.2) ∧ (policies.map (·.2.wireName)).Nodup := by
    obtain ⟨policies, all, inOrder, eachSound, allOwn⟩ :=
      mapM_resolve_sound wireValue refValue
        (fun name (among : name ∈ names.filter Descriptor.isExportedName) =>
          allNames name (List.mem_filter.1 among).1)
        fun nonempty wired given malformed => by
          obtain ⟨name, among⟩ := List.exists_mem_of_ne_nil _ nonempty
          obtain ⟨among, isExported⟩ := List.mem_filter.1 among
          exact notMisreferring ⟨⟨name, among, isExported⟩, wired, given, malformed⟩
    refine ⟨policies, (notRefused notAmbiguous).trans all, inOrder, eachSound, ?_⟩
    by_cases several : 1 < names.length
    · -- Only here the names on the wire could meet, and nothing but their own names is left
      -- to them.
      rw [allOwn fun wired => not_not.1 fun named => notAmbiguous ⟨several, wired, .inl named⟩]
      exact List.Pairwise.map _
        (fun _ _ different same => different (Text.points_toList_inj.1 same))
        (apart.filter _)
    · have short : policies.length ≤ 1 := by
        have atMost := List.length_filter_le Descriptor.isExportedName names
        rw [← inOrder, List.length_map] at atMost
        exact Nat.le_trans atMost (Nat.le_of_not_lt several)
      obtain none | ⟨only, rfl⟩ := Nat.le_one_iff_eq_zero_or_eq_one.1 short |>.imp
        List.eq_nil_of_length_eq_zero List.length_eq_one_iff.1
      · rw [none]
        exact List.Pairwise.nil
      · exact List.pairwise_singleton _ _
  refine ⟨⟨?_, fun ambiguous => ⟨names, refused ambiguous⟩⟩,
    fun notAmbiguous => ⟨?_, refusedReference notAmbiguous⟩, resolved⟩
  · rintro ⟨listed, failed⟩
    by_contra notAmbiguous
    by_cases misreferring : Misreferring names wireValue refValue
    · obtain ⟨fault, other, isPolicy⟩ := refusedReference notAmbiguous misreferring
      rw [failed] at other
      cases other
      exact isPolicy
    · obtain ⟨policies, other, _⟩ := resolved notAmbiguous misreferring
      rw [failed] at other
      cases other
  · rintro ⟨fault, failed, _⟩
    by_contra notMisreferring
    obtain ⟨policies, other, _⟩ := resolved notAmbiguous notMisreferring
    rw [failed] at other
    cases other

/-- Three names with a flag, two of them exported. -/
theorem resolveField_line_bounds :
    (∀ name ∈ ["Low", "high", "Mid"], IsTagName name) ∧ ["Low", "high", "Mid"].Nodup ∧
      Tag.lookup (some "json:\",omitempty\"") "json" = .ok ",omitempty" ∧
      Tag.lookup (some "json:\",omitempty\"") "ref" = .ok [] ∧
      ∃ policies, resolveField ["Low", "high", "Mid"] (some "json:\",omitempty\"") "json" "ref" =
          .ok policies ∧
        policies.map (·.1) = ["Low", "Mid"] ∧ (∀ entry ∈ policies, Sound entry.1 entry.2) ∧
        (policies.map (·.2.wireName)).Nodup := by
  have allNames : ∀ name ∈ ["Low", "high", "Mid"], IsTagName name := by decide
  have apart : ["Low", "high", "Mid"].Nodup := by decide
  have wire : Tag.lookup (some "json:\",omitempty\"") "json" = .ok ",omitempty" :=
    eq_ok_of_toOption (by decide +kernel)
  have ref : Tag.lookup (some "json:\",omitempty\"") "ref" = .ok [] :=
    eq_ok_of_toOption (by decide +kernel)
  refine ⟨allNames, apart, wire, ref, (resolveField_line allNames apart wire ref).2.2 ?_ ?_⟩
  · exact fun ambiguous => ambiguous.naming.elim (absurd (by decide +kernel)) (absurd rfl)
  · exact fun misreferring => misreferring.given rfl

end Line

end Policy

end DeclCodec
