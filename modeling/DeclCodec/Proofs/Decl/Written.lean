import DeclCodec.Descriptor
import DeclCodec.Proofs.Decl.Reached
import DeclCodec.Proofs.Traversal

/-!
# Written forms

A descriptor forgets nothing of the type expression that it describes. The layers give
the expression back around the name at the core, and so do the keys among them; the
package path is split where its points are, since no name holds one. The written form
is the text of the expression without gaps, so it is read as the same expression, and
only this expression is written like that.

The one thing that cannot be described is an array of a fixed length, wherever it is.
-/

namespace DeclCodec

/-- The names in a package path that is written with points. -/
def packageParts (package : String) : List String :=
  if package = "" then [] else (package.toList.splitOn '.').map String.ofList

/-- The type expression that is described. -/
def Descriptor.expr : Descriptor → TypeExpr
  | .named package name => .named (packageParts package) name
  | .pointer elem => .pointer elem.expr
  | .slice elem => .slice elem.expr
  | .map key value => .map key.expr value.expr

namespace TypeExpr

/-- The type expression with these layers around a core. -/
def ofLayers : List Layer → String → String → TypeExpr
  | [], package, name => .named (packageParts package) name
  | .pointer :: rest, package, name => .pointer (ofLayers rest package name)
  | .slice :: rest, package, name => .slice (ofLayers rest package name)
  | .map key :: rest, package, name => .map key.expr (ofLayers rest package name)

/-- Is there an array of a fixed length anywhere in the type? -/
def HasArray : TypeExpr → Prop
  | .named _ _ => False
  | .pointer elem => elem.HasArray
  | .slice elem => elem.HasArray
  | .array _ _ => True
  | .map key value => key.HasArray ∨ value.HasArray

/-- A type is refused for an array in it, or it has none and is described. -/
theorem describe_cases (type : TypeExpr) :
    (type.HasArray ∧ ∃ length, type.describe = .error (.fixedArray length)) ∨
      (¬type.HasArray ∧ ∃ described, type.describe = .ok described) := by
  induction type with
  | named package name => exact .inr ⟨id, _, rfl⟩
  | pointer elem inductionHypothesis =>
    rcases inductionHypothesis with ⟨has, length, refused⟩ | ⟨hasNot, described, success⟩
    · exact .inl ⟨has, length, by rw [describe, refused]; rfl⟩
    · exact .inr ⟨hasNot, .pointer described, by rw [describe, success]; rfl⟩
  | slice elem inductionHypothesis =>
    rcases inductionHypothesis with ⟨has, length, refused⟩ | ⟨hasNot, described, success⟩
    · exact .inl ⟨has, length, by rw [describe, refused]; rfl⟩
    · exact .inr ⟨hasNot, .slice described, by rw [describe, success]; rfl⟩
  | array length elem _ => exact .inl ⟨trivial, length, rfl⟩
  | map key value key_ih value_ih =>
    rcases key_ih with ⟨has, length, refused⟩ | ⟨keyHasNot, keyDescribed, keySuccess⟩
    · exact .inl ⟨.inl has, length, by rw [describe, refused]; rfl⟩
    · rcases value_ih with ⟨has, length, refused⟩ | ⟨valueHasNot, valueDescribed, valueSuccess⟩
      · exact .inl ⟨.inr has, length, by rw [describe, keySuccess, refused]; rfl⟩
      · refine .inr ⟨?_, .map keyDescribed valueDescribed, ?_⟩
        · rintro (inKey | inValue)
          · exact keyHasNot inKey
          · exact valueHasNot inValue
        · rw [describe, keySuccess, valueSuccess]
          rfl

end TypeExpr

/-! ## Rebuilding -/

/-- Layers around a core are the expression of the type that has them. -/
theorem Descriptor.ofLayers_eq_expr (type : Descriptor) :
    TypeExpr.ofLayers type.layers type.package type.typeName = type.expr := by
  induction type with
  | named => rfl
  | pointer elem inductionHypothesis =>
    rw [layers, package, typeName, TypeExpr.ofLayers, inductionHypothesis, expr]
  | slice elem inductionHypothesis =>
    rw [layers, package, typeName, TypeExpr.ofLayers, inductionHypothesis, expr]
  | map key value _ inductionHypothesis =>
    rw [layers, package, typeName, TypeExpr.ofLayers, inductionHypothesis, expr]

/-- A name holds no point. -/
theorem IsName.noPoint {name : String} (isName : IsName name) : '.' ∉ name.toList := by
  obtain ⟨first, rest, letters, starts, parts⟩ := isName
  rw [letters, List.mem_cons, not_or]
  constructor
  · rintro rfl
    cases starts
  · intro member
    have part := parts '.' member
    cases part

/-- A name is not empty. -/
theorem IsName.ne_empty {name : String} (isName : IsName name) : name ≠ "" := by
  obtain ⟨first, rest, letters, _, _⟩ := isName
  rintro rfl
  cases letters

/-- A path of names is not written as nothing. -/
theorem intercalate_ne_empty {part : String} (isName : IsName part) (parts : List String) :
    ".".intercalate (part :: parts) ≠ "" := by
  intro empty
  have noCharacters := congrArg String.toList empty
  cases parts with
  | nil =>
    rw [String.intercalate_singleton] at empty
    exact isName.ne_empty empty
  | cons next parts =>
    rw [String.intercalate_cons_cons, String.toList_append, String.toList_append] at noCharacters
    simp at noCharacters

/-- A path of names is what its written form is split into. -/
theorem packageParts_intercalate {package : List String} (names : ∀ part ∈ package, IsName part) :
    packageParts (".".intercalate package) = package := by
  cases package with
  | nil => rfl
  | cons part parts =>
    have noPoints : ∀ letters ∈ (part :: parts).map String.toList, '.' ∉ letters := by
      intro letters member
      obtain ⟨name, among, rfl⟩ := List.mem_map.1 member
      exact (names name among).noPoint
    rw [packageParts, if_neg (intercalate_ne_empty (names part List.mem_cons_self) parts),
      String.toList_intercalate]
    change ((['.'].intercalate _).splitOn '.').map String.ofList = _
    rw [List.splitOn_intercalate '.' noPoints (by simp), List.map_map]
    simp [Function.comp_def]

namespace TypeExpr

/-- A type that is described is given back by its descriptor. -/
theorem Writable.expr_eq {type : TypeExpr} (writable : type.Writable) {described : Descriptor}
    (success : type.describe = .ok described) : described.expr = type := by
  induction writable generalizing described with
  | named words _ =>
    cases success
    rw [Descriptor.expr, packageParts_intercalate fun part member =>
      words part (List.mem_append_left _ member)]
  | pointer _ inductionHypothesis =>
    obtain ⟨elem, elemSuccess, same⟩ := bind_eq_ok.1 success
    cases same
    rw [Descriptor.expr, inductionHypothesis elemSuccess]
  | slice _ inductionHypothesis =>
    obtain ⟨elem, elemSuccess, same⟩ := bind_eq_ok.1 success
    cases same
    rw [Descriptor.expr, inductionHypothesis elemSuccess]
  | array => cases success
  | map _ _ key_ih value_ih =>
    obtain ⟨key, keySuccess, others⟩ := bind_eq_ok.1 success
    obtain ⟨value, valueSuccess, same⟩ := bind_eq_ok.1 others
    cases same
    rw [Descriptor.expr, key_ih keySuccess, value_ih valueSuccess]

/-! ## Writing -/

/-- A path and a name are written with points between them. -/
theorem toList_qualify {package : List String} {name : String}
    (words : ∀ part ∈ package ++ [name], IsName part) :
    (Descriptor.qualify (".".intercalate package) name).toList = (named package name).text := by
  induction package with
  | nil => simp [Descriptor.qualify, text, spellings, pathSpellings, Spelling.chars]
  | cons part parts inductionHypothesis =>
    have isName := words part (by simp)
    have onward := inductionHypothesis fun other member =>
      words other (List.mem_cons_of_mem _ member)
    have split : (named (part :: parts) name).text =
        part.toList ++ '.' :: (named parts name).text :=
      rfl
    rw [split, ← onward, Descriptor.qualify, if_neg (intercalate_ne_empty isName parts),
      Descriptor.qualify]
    cases parts with
    | nil => simp
    | cons next parts =>
      rw [if_neg (intercalate_ne_empty (words next (by simp)) parts),
        String.intercalate_cons_cons]
      simp

/-- The written form of a descriptor is the text of the type without gaps. -/
theorem Writable.toList_written {type : TypeExpr} (writable : type.Writable)
    {described : Descriptor} (success : type.describe = .ok described) :
    described.written.toList = type.text := by
  induction writable generalizing described with
  | named words _ =>
    cases success
    exact toList_qualify words
  | pointer _ inductionHypothesis =>
    obtain ⟨elem, elemSuccess, same⟩ := bind_eq_ok.1 success
    cases same
    rw [Descriptor.written, String.toList_append, inductionHypothesis elemSuccess]
    rfl
  | slice _ inductionHypothesis =>
    obtain ⟨elem, elemSuccess, same⟩ := bind_eq_ok.1 success
    cases same
    rw [Descriptor.written, String.toList_append, inductionHypothesis elemSuccess]
    rfl
  | array => cases success
  | map _ _ key_ih value_ih =>
    obtain ⟨key, keySuccess, others⟩ := bind_eq_ok.1 success
    obtain ⟨value, valueSuccess, same⟩ := bind_eq_ok.1 others
    cases same
    simp only [Descriptor.written, String.toList_append, key_ih keySuccess, value_ih valueSuccess]
    simp [text, spellings, Spelling.chars]
    rfl

/-- The written form is read as the type it was written for. -/
theorem Writable.parse_written {type : TypeExpr} (writable : type.Writable)
    {described : Descriptor} (success : type.describe = .ok described) :
    parse described.written = .ok type := by
  refine writable.parse_eq ?_
  rw [writable.toList_written success]
  exact type.layout_self

/-- The core of a type that can be written can be written alone. -/
theorem Writable.exists_core {type : TypeExpr} (writable : type.Writable) {described : Descriptor}
    (success : type.describe = .ok described) :
    ∃ package : List String, (TypeExpr.named package described.typeName).Writable ∧
      described.package = ".".intercalate package := by
  induction writable generalizing described with
  | @named package name words avoids =>
    cases success
    exact ⟨package, .named words avoids, rfl⟩
  | pointer _ inductionHypothesis =>
    obtain ⟨elem, elemSuccess, same⟩ := bind_eq_ok.1 success
    cases same
    obtain ⟨package, core, samePackage⟩ := inductionHypothesis elemSuccess
    exact ⟨package, core, samePackage⟩
  | slice _ inductionHypothesis =>
    obtain ⟨elem, elemSuccess, same⟩ := bind_eq_ok.1 success
    cases same
    obtain ⟨package, core, samePackage⟩ := inductionHypothesis elemSuccess
    exact ⟨package, core, samePackage⟩
  | array => cases success
  | map _ _ _ value_ih =>
    obtain ⟨key, _, others⟩ := bind_eq_ok.1 success
    obtain ⟨value, valueSuccess, same⟩ := bind_eq_ok.1 others
    cases same
    obtain ⟨package, core, samePackage⟩ := value_ih valueSuccess
    exact ⟨package, core, samePackage⟩

/-- A qualified name is read as the name in its package. -/
theorem Writable.parse_qualify {package : List String} {name : String}
    (writable : (TypeExpr.named package name).Writable) :
    parse (Descriptor.qualify (".".intercalate package) name) =
        .ok (TypeExpr.named package name) := by
  have described : (TypeExpr.named package name).describe =
      .ok (.named (".".intercalate package) name) := rfl
  exact writable.parse_written described

/-- Types that can be written have the same core if it is written the same. -/
theorem Writable.core_eq {first second : TypeExpr} (writable : first.Writable)
    (writableToo : second.Writable) {type other : Descriptor}
    (described : first.describe = .ok type)
    (describedToo : second.describe = .ok other) (same : type.qualified = other.qualified) :
    type.package = other.package ∧ type.typeName = other.typeName := by
  obtain ⟨package, core, samePackage⟩ := writable.exists_core described
  obtain ⟨otherPackage, coreToo, samePackageToo⟩ := writableToo.exists_core describedToo
  have read : parse type.qualified = .ok (TypeExpr.named package type.typeName) := by
    rw [Descriptor.qualified, samePackage]
    exact core.parse_qualify
  have readToo : parse other.qualified = .ok (TypeExpr.named otherPackage other.typeName) := by
    rw [Descriptor.qualified, samePackageToo]
    exact coreToo.parse_qualify
  rw [same, readToo] at read
  obtain ⟨rfl, sameName⟩ := TypeExpr.named.inj (Except.ok.inj read)
  exact ⟨by rw [samePackage, samePackageToo], sameName.symm⟩

/-- A type that is ever read is refused exactly if it has an array of a fixed length. Otherwise its
descriptor gives it back, is itself given back by its written form, and shares that form with no
other type that is ever read. -/
theorem describe_iff {type : TypeExpr} (readable : type.Readable) :
    ((∃ length, type.describe = .error (.fixedArray length)) ↔ type.HasArray) ∧
      (¬type.HasArray → ∃ described, type.describe = .ok described ∧
        ofLayers described.layers described.package described.typeName = type ∧
        Descriptor.parse described.written = .ok described ∧
        ∀ other otherDescribed, other.Readable → other.describe = .ok otherDescribed →
          (otherDescribed.written = described.written ↔ other = type)) := by
  have writable := (readable_iff type).1 readable
  rcases describe_cases type with ⟨has, length, refused⟩ | ⟨hasNot, described, success⟩
  · exact ⟨⟨fun _ => has, fun _ => ⟨length, refused⟩⟩, fun hasNot => absurd has hasNot⟩
  · have readBack := writable.parse_written success
    refine ⟨⟨?_, fun has => absurd has hasNot⟩, fun _ => ⟨described, success, ?_, ?_, ?_⟩⟩
    · rintro ⟨length, refused⟩
      rw [success] at refused
      cases refused
    · rw [Descriptor.ofLayers_eq_expr, writable.expr_eq success]
    · rw [Descriptor.parse, readBack]
      exact success
    · intro other otherDescribed otherReadable otherSuccess
      have otherWritable := (readable_iff other).1 otherReadable
      constructor
      · intro same
        have otherReadBack := otherWritable.parse_written otherSuccess
        rw [same, readBack] at otherReadBack
        exact (Except.ok.inj otherReadBack).symm
      · rintro rfl
        rw [success] at otherSuccess
        rw [Except.ok.inj otherSuccess]

/-- A map from strings to slices of pointers into another package. -/
def messagesByName : TypeExpr :=
  .map (.named [] "string") (.slice (.pointer (.named ["chat", "v1"] "Message")))

/-- It comes back from the text that is written for it. -/
theorem describe_iff_messagesByName : ∃ described, messagesByName.describe = .ok described ∧
    described.written = "map[string][]*chat.v1.Message" ∧
    ofLayers described.layers described.package described.typeName = messagesByName ∧
    Descriptor.parse "map[string][]*chat.v1.Message" = .ok described := by
  have readable : messagesByName.Readable := (readable_iff _).2 (by decide)
  obtain ⟨described, success, rebuilt, parsed, _⟩ := (describe_iff readable).2 (by
    rintro (inKey | inValue)
    · exact inKey
    · exact inValue)
  have written : described.written = "map[string][]*chat.v1.Message" := by
    cases success
    decide
  exact ⟨described, success, written, rebuilt, written ▸ parsed⟩

end TypeExpr

end DeclCodec
