import DeclCodec.Proofs.Emit.Entries
import DeclCodec.Proofs.Package.Aliases

/-!
# Shapes and the expansion of aliases

The expansion of a type has every alias replaced by what it stands for, until no
alias is left; the layers around an alias stay in place. In a collected package
every type has exactly one expansion.

A type has the shape of its expansion, except that a map key with layers around
an alias is taken for what the alias stands for, while the same layers around
anything else are refused. So whatever the expansion's shape is, the type has it
too; the converse fails where a key of the type hides a layer in this way.
-/

namespace DeclCodec.Package

variable {package : Package}

/-- A type and its expansion. -/
inductive Expands (package : Package) : Descriptor → Descriptor → Prop
  | following {path name : String} {target expansion : Descriptor}
      (found : package.aliasTarget? path name = some target)
      (expands : Expands package target expansion) : Expands package (.named path name) expansion
  | core {path name : String} (isCore : package.aliasTarget? path name = none) :
      Expands package (.named path name) (.named path name)
  | pointer {elem expansion : Descriptor} (expands : Expands package elem expansion) :
      Expands package (.pointer elem) (.pointer expansion)
  | slice {elem expansion : Descriptor} (expands : Expands package elem expansion) :
      Expands package (.slice elem) (.slice expansion)
  | map {key keyExpansion value valueExpansion : Descriptor}
      (expandsKey : Expands package key keyExpansion)
      (expandsValue : Expands package value valueExpansion) :
      Expands package (.map key value) (.map keyExpansion valueExpansion)

/-- The map keys whose shapes go into the shape of a type, those behind aliases included. -/
inductive MapKey (package : Package) : Descriptor → Descriptor → Prop
  | following {path name : String} {target key : Descriptor}
      (found : package.aliasTarget? path name = some target) (inside : MapKey package target key) :
      MapKey package (.named path name) key
  | pointer {elem key : Descriptor} (inside : MapKey package elem key) :
      MapKey package (.pointer elem) key
  | slice {elem key : Descriptor} (inside : MapKey package elem key) :
      MapKey package (.slice elem) key
  | here {key value : Descriptor} : MapKey package (.map key value) key
  | value {outer value key : Descriptor} (inside : MapKey package value key) :
      MapKey package (.map outer value) key

/-- A key and the type at which following the aliases at its core ends. The layers around an alias
are dropped on the way. -/
inductive KeyEnd (package : Package) : Descriptor → Descriptor → Prop
  | following {key target last : Descriptor}
      (found : package.aliasTarget? key.package key.typeName = some target)
      (ends : KeyEnd package target last) : KeyEnd package key last
  | core {key : Descriptor}
      (isCore : package.aliasTarget? key.package key.typeName = none) : KeyEnd package key key

/-- A bare integer or text. -/
def BareKey (key : Descriptor) : Prop :=
  ∃ name, key = .named "" name ∧
    (Primitive.ofName? name = some .int ∨ Primitive.ofName? name = some .text)

/-- Two types have one shape, or both are refused for a map key. -/
def SameShape (package : Package) (type other : Descriptor) : Prop :=
  (∃ shape, package.shape type = .ok shape ∧ package.shape other = .ok shape) ∨
    (∃ key, package.shape type = .error (.unsupportedKey key)) ∧
      ∃ key, package.shape other = .error (.unsupportedKey key)

/-! ## Expansions -/

/-- Every type has an expansion. -/
theorem Collected.exists_expansion (collected : Collected package) (type : Descriptor) :
    ∃ expansion, Expands package type expansion := by
  induction type using collected.induction with
  | following found inductionHypothesis =>
    obtain ⟨expansion, expands⟩ := inductionHypothesis
    exact ⟨expansion, .following found expands⟩
  | core isCore => exact ⟨_, .core isCore⟩
  | pointer inductionHypothesis =>
    obtain ⟨expansion, expands⟩ := inductionHypothesis
    exact ⟨_, .pointer expands⟩
  | slice inductionHypothesis =>
    obtain ⟨expansion, expands⟩ := inductionHypothesis
    exact ⟨_, .slice expands⟩
  | map key_ih value_ih =>
    obtain ⟨keyExpansion, expandsKey⟩ := key_ih
    obtain ⟨valueExpansion, expandsValue⟩ := value_ih
    exact ⟨_, .map expandsKey expandsValue⟩

/-- No type has two expansions. -/
theorem Expands.unique {type expansion other : Descriptor}
    (expands : Expands package type expansion)
    (otherwise : Expands package type other) : other = expansion := by
  induction expands generalizing other with
  | following found _ inductionHypothesis =>
    cases otherwise with
    | following foundAgain expandsAgain =>
      rw [found, Option.some.injEq] at foundAgain
      exact inductionHypothesis (foundAgain ▸ expandsAgain)
    | core isCore =>
      rw [found] at isCore
      cases isCore
  | core isCore =>
    cases otherwise with
    | following found _ =>
      rw [isCore] at found
      cases found
    | core _ => rfl
  | pointer _ inductionHypothesis =>
    cases otherwise with
    | pointer expandsAgain => rw [inductionHypothesis expandsAgain]
  | slice _ inductionHypothesis =>
    cases otherwise with
    | slice expandsAgain => rw [inductionHypothesis expandsAgain]
  | map _ _ key_ih value_ih =>
    cases otherwise with
    | map keyAgain valueAgain => rw [key_ih keyAgain, value_ih valueAgain]

/-- In an expansion no alias is left. -/
theorem Expands.aliasTarget?_eq_none {type expansion : Descriptor}
    (expands : Expands package type expansion) :
    ∀ name ∈ expansion.localNames, package.aliasTarget? "" name = none := by
  induction expands with
  | following _ _ inductionHypothesis => exact inductionHypothesis
  | @core path name isCore =>
    intro other member
    by_cases isLocal : path = ""
    · subst isLocal
      rw [Descriptor.localNames, if_pos rfl, List.mem_singleton] at member
      exact member ▸ isCore
    · simp [Descriptor.localNames, isLocal] at member
  | pointer _ inductionHypothesis => exact inductionHypothesis
  | slice _ inductionHypothesis => exact inductionHypothesis
  | map _ _ key_ih value_ih =>
    intro name member
    rcases List.mem_append.1 member with inKey | inValue
    · exact key_ih name inKey
    · exact value_ih name inValue

/-- At the core of an expansion there is no alias. -/
theorem Expands.isCore {type expansion : Descriptor} (expands : Expands package type expansion) :
    package.aliasTarget? expansion.package expansion.typeName = none := by
  by_cases isLocal : expansion.package = ""
  · rw [isLocal]
    exact expands.aliasTarget?_eq_none _ (typeName_mem_localNames isLocal)
  · simp [aliasTarget?, isLocal]

/-- The expansion of a type that mentions known types only does so too. -/
theorem Expands.known (collected : Collected package) {type expansion : Descriptor}
    (expands : Expands package type expansion) (known : type.Known package.types) :
    expansion.Known package.types := by
  induction expands with
  | following found _ inductionHypothesis =>
      exact inductionHypothesis (collected.target_known found)
  | core _ => exact known
  | pointer _ inductionHypothesis => exact inductionHypothesis known
  | slice _ inductionHypothesis => exact inductionHypothesis known
  | map _ _ key_ih value_ih =>
    intro name member
    rcases List.mem_append.1 member with inKey | inValue
    · exact key_ih (fun other held => known other (List.mem_append_left _ held)) name inKey
    · exact value_ih (fun other held => known other (List.mem_append_right _ held)) name inValue

/-- A pointer has the map keys of what it points to. -/
theorem mapKey_pointer_iff {elem key : Descriptor} :
    MapKey package (.pointer elem) key ↔ MapKey package elem key :=
  ⟨fun inside => by cases inside; assumption, .pointer⟩

/-- A slice has the map keys of its items. -/
theorem mapKey_slice_iff {elem key : Descriptor} :
    MapKey package (.slice elem) key ↔ MapKey package elem key :=
  ⟨fun inside => by cases inside; assumption, .slice⟩

/-- A map has its own key and those of its values. -/
theorem mapKey_map_iff {outer value key : Descriptor} :
    MapKey package (.map outer value) key ↔ key = outer ∨ MapKey package value key := by
  constructor
  · intro inside
    cases inside with
    | here => exact .inl rfl
    | value inside => exact .inr inside
  · rintro (rfl | inside)
    · exact .here
    · exact .value inside

/-- An alias has the map keys of what it stands for. -/
theorem mapKey_following_iff {path name : String} {target key : Descriptor}
    (found : package.aliasTarget? path name = some target) :
    MapKey package (.named path name) key ↔ MapKey package target key := by
  constructor
  · intro inside
    cases inside with
    | following foundAgain inside =>
      rw [found, Option.some.injEq] at foundAgain
      exact foundAgain ▸ inside
  · exact .following found

/-- Any other name has no map keys. -/
theorem not_mapKey_core {path name : String} {key : Descriptor}
    (isCore : package.aliasTarget? path name = none) : ¬MapKey package (.named path name) key := by
  intro inside
  cases inside with
  | following found _ =>
    rw [isCore] at found
    cases found

/-- The map keys of an expansion are the expansions of the type's map keys. -/
theorem Expands.mapKey_iff {type expansion keyExpansion : Descriptor}
    (expands : Expands package type expansion) :
    MapKey package expansion keyExpansion ↔
      ∃ key, MapKey package type key ∧ Expands package key keyExpansion := by
  induction expands with
  | following found _ inductionHypothesis =>
    simp only [mapKey_following_iff found]
    exact inductionHypothesis
  | core isCore => simp [not_mapKey_core isCore]
  | pointer _ inductionHypothesis =>
    simp only [mapKey_pointer_iff]
    exact inductionHypothesis
  | slice _ inductionHypothesis =>
    simp only [mapKey_slice_iff]
    exact inductionHypothesis
  | map expandsKey _ _ value_ih =>
    simp only [mapKey_map_iff, value_ih]
    constructor
    · rintro (rfl | ⟨key, inside, expands⟩)
      · exact ⟨_, .inl rfl, expandsKey⟩
      · exact ⟨key, .inr inside, expands⟩
    · rintro ⟨key, rfl | inside, expands⟩
      · exact .inl (expandsKey.unique expands)
      · exact .inr ⟨key, inside, expands⟩

/-! ## Shapes of keys -/

/-- Other layers around the same core lead to the same end, unless there is no alias at the core. -/
theorem KeyEnd.around {inner outer last : Descriptor} (ends : KeyEnd package inner last)
    (samePackage : outer.package = inner.package) (sameName : outer.typeName = inner.typeName) :
    KeyEnd package outer last ∨ KeyEnd package outer outer ∧ last = inner := by
  cases ends with
  | following found ends =>
    exact .inl (.following (by rw [samePackage, sameName]; exact found) ends)
  | core isCore => exact .inr ⟨.core (by rw [samePackage, sameName]; exact isCore), rfl⟩

/-- Following the aliases at the core of a key comes to an end. -/
theorem Collected.exists_keyEnd (collected : Collected package) (key : Descriptor) :
    ∃ last, KeyEnd package key last := by
  have around {inner outer last : Descriptor} (ends : KeyEnd package inner last)
      (samePackage : outer.package = inner.package) (sameName : outer.typeName = inner.typeName) :
      ∃ last, KeyEnd package outer last :=
    (ends.around samePackage sameName).elim (fun ends => ⟨last, ends⟩) fun ends => ⟨outer, ends.1⟩
  induction key using collected.induction with
  | following found inductionHypothesis =>
    obtain ⟨last, ends⟩ := inductionHypothesis
    exact ⟨last, .following found ends⟩
  | core isCore => exact ⟨_, .core isCore⟩
  | pointer inductionHypothesis =>
    obtain ⟨last, ends⟩ := inductionHypothesis
    exact around ends rfl rfl
  | slice inductionHypothesis =>
    obtain ⟨last, ends⟩ := inductionHypothesis
    exact around ends rfl rfl
  | map _ value_ih =>
    obtain ⟨last, ends⟩ := value_ih
    exact around ends rfl rfl

/-- Following the aliases at the core of a key comes to one end only. -/
theorem KeyEnd.unique {key last other : Descriptor} (ends : KeyEnd package key last)
    (otherwise : KeyEnd package key other) : other = last := by
  induction ends with
  | following found _ inductionHypothesis =>
    cases otherwise with
    | following foundAgain endsAgain =>
      rw [found, Option.some.injEq] at foundAgain
      exact inductionHypothesis (foundAgain ▸ endsAgain)
    | core isCore =>
      rw [found] at isCore
      cases isCore
  | core isCore =>
    cases otherwise with
    | following found _ =>
      rw [isCore] at found
      cases found
    | core _ => rfl

/-- A key has the shape of the type at which following it ends. -/
theorem KeyEnd.keyShape_eq (collected : Collected package) {key last : Descriptor}
    (ends : KeyEnd package key last) : package.keyShape key = plainKeyShape last := by
  induction ends with
  | following found _ inductionHypothesis =>
    rw [collected.keyShape_following found, inductionHypothesis]
  | core isCore => exact keyShape_core isCore

/-- Exactly bare integers and texts are keys, apart from aliases. -/
theorem plainKeyShape_ok_iff {key : Descriptor} :
    (∃ shape, plainKeyShape key = .ok shape) ↔ BareKey key := by
  unfold plainKeyShape BareKey
  split
  · next name =>
    cases kind : Primitive.ofName? name with
    | none => simp [kind]
    | some primitive => cases primitive <;> simp [kind]
  · next notBare =>
    constructor
    · rintro ⟨shape, ⟨⟩⟩
    · rintro ⟨name, rfl, _⟩
      exact absurd rfl (notBare name)

/-- A key that is refused is refused as a key. -/
theorem plainKeyShape_error {key : Descriptor} {fault : Fault}
    (refused : plainKeyShape key = .error fault) : fault = .unsupportedKey key.written := by
  unfold plainKeyShape at refused
  split at refused
  · split at refused <;> cases refused
    rfl
  · cases refused
    rfl

/-- The core of a key's expansion is the core of the type at which following the key ends. -/
theorem Expands.core_eq {key expansion last : Descriptor} (expands : Expands package key expansion)
    (ends : KeyEnd package key last) :
    expansion.package = last.package ∧ expansion.typeName = last.typeName := by
  have inside {inner outer expansion last : Descriptor} (ends : KeyEnd package outer last)
      (inductionHypothesis : ∀ {last}, KeyEnd package inner last →
        expansion.package = last.package ∧ expansion.typeName = last.typeName)
      (samePackage : inner.package = outer.package) (sameName : inner.typeName = outer.typeName) :
      expansion.package = last.package ∧ expansion.typeName = last.typeName := by
    rcases ends.around samePackage sameName with ends | ⟨atOnce, rfl⟩
    · exact inductionHypothesis ends
    · rw [← samePackage, ← sameName]
      exact inductionHypothesis atOnce
  induction expands generalizing last with
  | following found _ inductionHypothesis =>
    cases ends with
    | following foundAgain ends =>
      have same := found.symm.trans foundAgain
      rw [Option.some.injEq] at same
      exact inductionHypothesis (same ▸ ends)
    | core isCore =>
      have same := found.symm.trans isCore
      cases same
  | core isCore =>
    cases ends with
    | following found _ =>
      have same := isCore.symm.trans found
      cases same
    | core _ => exact ⟨rfl, rfl⟩
  | pointer _ inductionHypothesis => exact inside ends inductionHypothesis rfl rfl
  | slice _ inductionHypothesis => exact inside ends inductionHypothesis rfl rfl
  | map _ _ _ value_ih => exact inside ends value_ih rfl rfl

/-- A key whose expansion is a bare name is followed to that name. -/
theorem Expands.keyEnd_of_named {key expansion : Descriptor}
    (expands : Expands package key expansion) {path name : String}
    (bare : expansion = .named path name) : KeyEnd package key expansion := by
  induction expands with
  | following found _ inductionHypothesis => exact .following found (inductionHypothesis bare)
  | core isCore => exact .core isCore
  | _ => cases bare

/-- A key has the shape of its expansion, if that has one. -/
theorem Expands.keyShape_eq_ok (collected : Collected package) {key expansion : Descriptor}
    (expands : Expands package key expansion) {shape : Shape}
    (accepted : package.keyShape expansion = .ok shape) : package.keyShape key = .ok shape := by
  rw [keyShape_core expands.isCore] at accepted
  obtain ⟨name, bare, _⟩ := plainKeyShape_ok_iff.1 ⟨shape, accepted⟩
  rw [(expands.keyEnd_of_named bare).keyShape_eq collected, accepted]

/-! ## Shapes of types -/

/-- A type has the shape of its expansion, if that has one. -/
theorem Expands.shape_eq_ok (collected : Collected package) {type expansion : Descriptor}
    (expands : Expands package type expansion) {shape : Shape}
    (accepted : package.shape expansion = .ok shape) : package.shape type = .ok shape := by
  induction expands generalizing shape with
  | following found _ inductionHypothesis =>
    rw [collected.shape_following found]
    exact inductionHypothesis accepted
  | core _ => exact accepted
  | pointer _ inductionHypothesis =>
    rw [shape_pointer, map_eq_ok] at accepted ⊢
    obtain ⟨elemShape, elemAccepted, same⟩ := accepted
    exact ⟨elemShape, inductionHypothesis elemAccepted, same⟩
  | slice _ inductionHypothesis =>
    rw [shape_slice, map_eq_ok] at accepted ⊢
    obtain ⟨elemShape, elemAccepted, same⟩ := accepted
    exact ⟨elemShape, inductionHypothesis elemAccepted, same⟩
  | map expandsKey _ _ value_ih =>
    rw [shape_map, bind_eq_ok] at accepted ⊢
    obtain ⟨valueShape, valueAccepted, rest⟩ := accepted
    rw [bind_eq_ok] at rest
    obtain ⟨keyShape, keyAccepted, same⟩ := rest
    refine ⟨valueShape, value_ih valueAccepted, ?_⟩
    rw [expandsKey.keyShape_eq_ok collected keyAccepted]
    exact same

/-- A known name that is no alias has a class. -/
theorem classOf_ok {path name : String}
    (known : (Descriptor.named path name).Known package.types) :
    ∃ cls, package.classOf path name = .ok cls := by
  by_cases here : path = ""
  · subst here
    cases kind : Primitive.ofName? name with
    | some primitive => exact ⟨_, classOf_eq_ok_iff.2 (.builtin kind)⟩
    | none =>
      refine ⟨_, classOf_eq_ok_iff.2 (.declared kind fun undeclared => ?_)⟩
      rcases known name (by simp [Descriptor.localNames]) with builtin | declared
      · simp [isBuiltin, kind] at builtin
      · rw [Option.isNone_iff_eq_none] at undeclared
        rw [undeclared] at declared
        cases declared
  · cases raw : isRawMessage path name with
    | true => exact ⟨_, classOf_eq_ok_iff.2 (.raw here raw)⟩
    | false => exact ⟨_, classOf_eq_ok_iff.2 (.foreign here raw)⟩

/-- A type that mentions known types only has a shape exactly if each of its map keys has one, and
is refused for a map key otherwise. -/
theorem Collected.shape_cases (collected : Collected package) {type : Descriptor}
    (known : type.Known package.types) :
    ((∃ shape, package.shape type = .ok shape) ∧
        ∀ key, MapKey package type key → ∃ shape, package.keyShape key = .ok shape) ∨
      (∃ written, package.shape type = .error (.unsupportedKey written)) ∧
        ∃ key, MapKey package type key ∧ ∀ shape, package.keyShape key ≠ .ok shape := by
  induction type using collected.induction with
  | following found inductionHypothesis =>
    simp only [collected.shape_following found, mapKey_following_iff found]
    exact inductionHypothesis (collected.target_known found)
  | core isCore =>
    obtain ⟨cls, isClass⟩ := classOf_ok known
    refine .inl ⟨⟨.named cls, by rw [shape_core isCore, isClass]; rfl⟩, ?_⟩
    exact fun key inside => absurd inside (not_mapKey_core isCore)
  | pointer inductionHypothesis =>
    simp only [mapKey_pointer_iff, shape_pointer]
    rcases inductionHypothesis known with ⟨⟨shape, accepted⟩, keys⟩ | ⟨⟨written, refused⟩, key⟩
    · exact .inl ⟨⟨.pointer shape, by rw [accepted]; rfl⟩, keys⟩
    · exact .inr ⟨⟨written, by rw [refused]; rfl⟩, key⟩
  | slice inductionHypothesis =>
    simp only [mapKey_slice_iff, shape_slice]
    rcases inductionHypothesis known with ⟨⟨shape, accepted⟩, keys⟩ | ⟨⟨written, refused⟩, key⟩
    · exact .inl ⟨⟨.slice shape, by rw [accepted]; rfl⟩, keys⟩
    · exact .inr ⟨⟨written, by rw [refused]; rfl⟩, key⟩
  | @map key value _ value_ih =>
    simp only [mapKey_map_iff, shape_map]
    have valueKnown : value.Known package.types := fun name member =>
      known name (List.mem_append_right _ member)
    rcases value_ih valueKnown with ⟨⟨shape, accepted⟩, keys⟩ |
      ⟨⟨written, refused⟩, bad, inside, none⟩
    · obtain ⟨last, ends⟩ := collected.exists_keyEnd key
      cases keyResult : package.keyShape key with
      | ok keyShape =>
        refine .inl ⟨⟨.map keyShape shape, by rw [accepted]; rfl⟩, ?_⟩
        rintro other (rfl | inside)
        · exact ⟨keyShape, keyResult⟩
        · exact keys other inside
      | error fault =>
        have plain := ends.keyShape_eq collected
        rw [keyResult] at plain
        have isKeyFault := plainKeyShape_error plain.symm
        refine .inr ⟨⟨last.written, by rw [accepted, isKeyFault]; rfl⟩, key, .inl rfl, ?_⟩
        intro shape isShape
        rw [keyResult] at isShape
        cases isShape
    · exact .inr ⟨⟨written, by rw [refused]; rfl⟩, bad, .inr inside, none⟩

/-- A type has a shape exactly if following each of its map keys ends at a bare integer or text. -/
theorem Collected.shape_ok_iff (collected : Collected package) {type : Descriptor}
    (known : type.Known package.types) :
    (∃ shape, package.shape type = .ok shape) ↔
      ∀ key last, MapKey package type key → KeyEnd package key last → BareKey last := by
  rcases collected.shape_cases known with ⟨accepted, keys⟩ | ⟨⟨written, refused⟩, bad, inside, none⟩
  · refine iff_of_true accepted ?_
    intro key last inside ends
    rw [← plainKeyShape_ok_iff, ← ends.keyShape_eq collected]
    exact keys key inside
  · refine iff_of_false ?_ ?_
    · rintro ⟨shape, accepted⟩
      rw [refused] at accepted
      cases accepted
    · intro bare
      obtain ⟨last, ends⟩ := collected.exists_keyEnd bad
      obtain ⟨shape, isShape⟩ := plainKeyShape_ok_iff.2 (bare bad last inside ends)
      rw [← ends.keyShape_eq collected] at isShape
      exact none shape isShape

/-- The expansion of a type has a shape exactly if each map key expands to a bare integer or
text. -/
theorem Expands.shape_ok_iff (collected : Collected package) {type expansion : Descriptor}
    (expands : Expands package type expansion) (known : type.Known package.types) :
    (∃ shape, package.shape expansion = .ok shape) ↔
      ∀ key keyExpansion, MapKey package type key → Expands package key keyExpansion →
        BareKey keyExpansion := by
  rw [collected.shape_ok_iff (expands.known collected known)]
  constructor
  · intro bare key keyExpansion inside expandsKey
    exact bare keyExpansion keyExpansion (expands.mapKey_iff.2 ⟨key, inside, expandsKey⟩)
      (.core expandsKey.isCore)
  · intro bare keyExpansion last inside ends
    obtain ⟨key, insideType, expandsKey⟩ := expands.mapKey_iff.1 inside
    have atOnce : last = keyExpansion := (KeyEnd.core expandsKey.isCore).unique ends
    exact atOnce ▸ bare key keyExpansion insideType expandsKey

/-- An accepted key expands to a bare integer or text exactly if its expansion has no layer. -/
theorem Expands.bareKey_iff {key expansion last : Descriptor}
    (expands : Expands package key expansion) (ends : KeyEnd package key last)
    (bare : BareKey last) : BareKey expansion ↔ expansion.nullable = false := by
  obtain ⟨name, rfl, kind⟩ := bare
  obtain ⟨samePackage, sameName⟩ := expands.core_eq ends
  constructor
  · rintro ⟨other, rfl, _⟩
    rfl
  · intro noLayer
    cases expansion with
    | named path other =>
      refine ⟨name, ?_, kind⟩
      have isLocal : path = "" := samePackage
      have isName : other = name := sameName
      rw [isLocal, isName]
    | _ => cases noLayer

/-- A member on the wire can be read exactly if its type has a shape, where identifiers have one. -/
theorem read?_ok_iff {member : Member} (wired : member.isWired = true)
    (identified : ∃ shape, (package.idType >>= package.shape) = .ok shape) :
    (∃ read, package.read? member = .ok read) ↔ ∃ shape, package.shape member.type = .ok shape := by
  obtain ⟨idShape, isIdShape⟩ := identified
  rw [bind_eq_ok] at isIdShape
  obtain ⟨idType, isIdType, isIdShape⟩ := isIdShape
  simp only [read?_eq_ok_iff]
  constructor
  · rintro ⟨read, reads⟩
    cases reads with
    | plain policy isShape | reference policy isShape => exact ⟨_, isShape⟩
    | nothing offWire =>
      rw [wired] at offWire
      cases offWire
  · rintro ⟨shape, isShape⟩
    unfold Member.isWired at wired
    rcases policy : member.policy with _ | _ | _ | _
    · simp [policy] at wired
    · simp [policy, Policy.isWired] at wired
    · exact ⟨_, .plain policy isShape⟩
    · exact ⟨_, .reference policy isShape isIdType isIdShape⟩

/-- What shapes have to do with expansions. A type with known names has exactly one expansion. The
shape of the expansion is the shape of the type, whenever there is one; the two agree, being refused
included, unless the type is accepted although one of its map keys expands to a type with a layer of
its own. The type is accepted if following its map keys ends at bare integers and texts, and the
expansion if its map keys are such themselves; a member on the wire is accepted with its type. -/
theorem shape_expansion {name : String} {settings : Settings} {units : List DeclUnit}
    (success : collect name settings units = .ok package) {type : Descriptor}
    (known : checkKnown package.types type = .ok ()) :
    ∃ expansion, Expands package type expansion ∧
      (∀ other, Expands package type other → other = expansion) ∧
      (∀ shape, package.shape expansion = .ok shape → package.shape type = .ok shape) ∧
      (SameShape package type expansion ↔
        ((∃ shape, package.shape type = .ok shape) → ∀ key keyExpansion, MapKey package type key →
          Expands package key keyExpansion → keyExpansion.nullable = false)) ∧
      ((∃ shape, package.shape type = .ok shape) ↔
        ∀ key last, MapKey package type key → KeyEnd package key last → BareKey last) ∧
      ((∃ shape, package.shape expansion = .ok shape) ↔
        ∀ key keyExpansion, MapKey package type key → Expands package key keyExpansion →
          BareKey keyExpansion) ∧
      ∀ member : Member, member.type = type → member.isWired = true →
        (∃ shape, (package.idType >>= package.shape) = .ok shape) →
          ((∃ read, package.read? member = .ok read) ↔
            ∃ shape, package.shape type = .ok shape) := by
  have collected := collected_of_collect success
  rw [checkKnown_eq_ok_iff] at known
  obtain ⟨expansion, expands⟩ := collected.exists_expansion type
  refine ⟨expansion, expands, fun other => expands.unique,
    fun shape => expands.shape_eq_ok collected,
    ?_, collected.shape_ok_iff known, expands.shape_ok_iff collected known, ?_⟩
  · have expansionKnown := expands.known collected known
    constructor
    · intro same accepted key keyExpansion inside expandsKey
      have both : ∃ shape, package.shape expansion = .ok shape := by
        rcases same with ⟨shape, _, accepted⟩ | ⟨⟨written, refused⟩, _⟩
        · exact ⟨shape, accepted⟩
        · obtain ⟨shape, isShape⟩ := accepted
          rw [refused] at isShape
          cases isShape
      obtain ⟨other, rfl, _⟩ :=
        (expands.shape_ok_iff collected known).1 both key keyExpansion inside expandsKey
      rfl
    · intro noLayer
      rcases collected.shape_cases known with ⟨⟨shape, accepted⟩, _⟩ | ⟨refused, _⟩
      · left
        have bare : ∀ key keyExpansion, MapKey package type key →
            Expands package key keyExpansion → BareKey keyExpansion := by
          intro key keyExpansion inside expandsKey
          obtain ⟨last, ends⟩ := collected.exists_keyEnd key
          have bareEnd := (collected.shape_ok_iff known).1 ⟨shape, accepted⟩ key last inside ends
          exact (expandsKey.bareKey_iff ends bareEnd).2
            (noLayer ⟨shape, accepted⟩ key keyExpansion inside expandsKey)
        obtain ⟨other, isOther⟩ := (expands.shape_ok_iff collected known).2 bare
        have same := expands.shape_eq_ok collected isOther
        exact ⟨other, same, isOther⟩
      · right
        refine ⟨refused, ?_⟩
        rcases collected.shape_cases expansionKnown with ⟨⟨shape, accepted⟩, _⟩ | ⟨refusedToo, _⟩
        · obtain ⟨written, isRefused⟩ := refused
          rw [expands.shape_eq_ok collected accepted] at isRefused
          cases isRefused
        · exact refusedToo
  · rintro member rfl wired identified
    exact read?_ok_iff wired identified

/-- A package with an alias of an integer type. -/
def integerAlias : Package where
  name := "p"
  settings := {}
  units := ["keys"]
  types := [("K", .alias "K" (.named [] "int") "keys")]
  aliases := [("K", .named "" "int")]
  structs := []
  referenced := []
  imported := []

/-- The package is what its one declaration is collected to. -/
theorem collect_integerAlias :
    collect "p" {} [⟨"keys", "p", [.alias "K" (.named [] "int") "keys"]⟩] = .ok integerAlias :=
  eq_ok_of_toOption (by decide +kernel)

/-- Keys that are pointers to the alias are an instance: the type is known, and what its expansion's
shape would be is its shape. -/
theorem shape_expansion_pointerKey :
    checkKnown integerAlias.types (.map (.pointer (.named "" "K")) (.named "" "string")) = .ok () ∧
      ∃ expansion,
        Expands integerAlias (.map (.pointer (.named "" "K")) (.named "" "string")) expansion ∧
          ∀ shape, integerAlias.shape expansion = .ok shape →
            integerAlias.shape (.map (.pointer (.named "" "K")) (.named "" "string")) =
                .ok shape := by
  have known : checkKnown integerAlias.types
      (.map (.pointer (.named "" "K")) (.named "" "string")) = .ok () :=
    eq_ok_of_toOption (by decide +kernel)
  obtain ⟨expansion, expands, _, shapes, _⟩ := shape_expansion collect_integerAlias known
  exact ⟨known, expansion, expands, shapes⟩

/-- With such keys a type and its expansion do not agree: the type has a shape, and the expansion is
refused. -/
theorem not_sameShape_pointerKey :
    collect "p" {} [⟨"keys", "p", [.alias "K" (.named [] "int") "keys"]⟩] = .ok integerAlias ∧
      Expands integerAlias (.map (.pointer (.named "" "K")) (.named "" "string"))
        (.map (.pointer (.named "" "int")) (.named "" "string")) ∧
      ¬SameShape integerAlias (.map (.pointer (.named "" "K")) (.named "" "string"))
        (.map (.pointer (.named "" "int")) (.named "" "string")) := by
  have accepted : integerAlias.shape (.map (.pointer (.named "" "K")) (.named "" "string")) =
      .ok (.map (.named .int) (.named .str)) := eq_ok_of_toOption (by decide +kernel)
  have refused : (integerAlias.shape
      (.map (.pointer (.named "" "int")) (.named "" "string"))).toOption = none := by
    decide +kernel
  refine ⟨collect_integerAlias, ?_, ?_⟩
  · refine .map (.pointer (.following ?_ (.core ?_))) (.core ?_) <;> decide +kernel
  · rintro (⟨shape, _, isShape⟩ | ⟨⟨written, isRefused⟩, _⟩)
    · rw [isShape] at refused
      cases refused
    · rw [accepted] at isRefused
      cases isRefused

end DeclCodec.Package
