import DeclCodec.Proofs.Decl.Completion

/-!
# Inside of a struct

While the reader stands in a struct it reads one field line after another. It adds to
the names in the lines and leaves all else of the unit as it is, until a closing brace
makes the lines a declaration. Which lines were read before makes no difference to
what it does: behind other lines the same tokens are taken in the same way.
-/

namespace DeclCodec

/-- A struct that is being read: where it stands, what it is called, and the names in its lines so
far. -/
structure OpenStruct where
  scope : Scope
  name : String
  names : List String

/-- The struct in which a type is read, if it is the type of a field. -/
def Purpose.struct? : Purpose → Option OpenStruct
  | .field scope name before names => some ⟨scope, name, before.flatMap Field.names ++ names⟩
  | _ => none

/-- The struct in which a place is, if it is in one. -/
def Place.struct? : Place → Option OpenStruct
  | .fieldStart scope name before => (Purpose.field scope name before []).struct?
  | .fieldNames scope name before names => (Purpose.field scope name before names).struct?
  | .nextFieldName scope name before names => (Purpose.field scope name before names).struct?
  | place => place.purpose?.bind Purpose.struct?

/-- What a type is read for, with other lines in front of those before. -/
def Purpose.behind (earlier : List Field) : Purpose → Purpose
  | .field scope name before names => .field scope name (earlier ++ before) names
  | purpose => purpose

/-- The place with other lines in front of those before. -/
def Place.behind (earlier : List Field) : Place → Place
  | .fieldStart scope name before => .fieldStart scope name (earlier ++ before)
  | .fieldNames scope name before names => .fieldNames scope name (earlier ++ before) names
  | .nextFieldName scope name before names => .nextFieldName scope name (earlier ++ before) names
  | .typeStart purpose frames => .typeStart (purpose.behind earlier) frames
  | .mapOpen purpose frames => .mapOpen (purpose.behind earlier) frames
  | .bracket purpose frames => .bracket (purpose.behind earlier) frames
  | .arrayClose purpose frames length => .arrayClose (purpose.behind earlier) frames length
  | .typeName purpose frames package name => .typeName (purpose.behind earlier) frames package name
  | .selector purpose frames package => .selector (purpose.behind earlier) frames package
  | place => place

/-- Behind other lines the same tokens are expected. -/
theorem Place.expected_behind (place : Place) (earlier : List Field) :
    (place.behind earlier).expected = place.expected := by
  cases place <;> rfl

/-- Is the line in front of a place where a line may begin ended by a tag? -/
def Place.LastTagged : Place → Prop
  | .fieldStart _ _ before => ∀ last ∈ before.getLast?, last.tag ≠ none
  | _ => True

/-- May a struct with these lines be closed at a place? The line before a brace may end with its
type. -/
inductive Place.Closes (scope : Scope) (name : String) : List Field → Place → Prop
  | line (fields : List Field) : Closes scope name fields (.fieldStart scope name fields)
  | type {before : List Field} {names : List String} {frames : List Frame} {package : List String}
      {last : String} {type : TypeExpr}
      (settled : (TypeExpr.named package last).settle frames = (type, [])) :
      Closes scope name (before ++ [⟨names, type, none⟩])
        (.typeName (.field scope name before names) frames package last)

namespace Draft

/-- Is a place still in a struct that is being read? Nothing is added to the unit then, and to the
struct only names. -/
structure Within (opened : OpenStruct) (draft : Draft) (reached : Draft × Place) : Prop where
  struct : ∃ more, reached.2.struct? = some { opened with names := opened.names ++ more }
  draft : reached.1 = { draft with brokenTag := reached.1.brokenTag }
  tagged : reached.2.LastTagged

/-- Does a step in a struct add a declaration, or else stay in the struct and lead to the same
behind other lines? The step behind some lines in front is the one given for them. -/
def StepsAlike (opened : OpenStruct) (draft : Draft) (following : Draft × Place)
    (behind : List Field → Option (Draft × Place)) : Prop :=
  draft.decls.length < following.1.decls.length ∨
    Within opened draft following ∧
      ∀ earlier, behind earlier = some (following.1, following.2.behind earlier)

variable {draft : Draft} {token : Token} {following : Draft × Place} {opened : OpenStruct}

/-! ## Steps -/

/-- Where no line begins and the struct is the same, the place is still in it. -/
theorem within_same {place : Place} (inStruct : place.struct? = some opened)
    (tagged : place.LastTagged) : Within opened draft (draft, place) where
  struct := ⟨[], by rw [inStruct, List.append_nil]⟩
  draft := rfl
  tagged := tagged

/-- The beginning of a type leaves the struct as it is. -/
theorem alike_stepType {purpose : Purpose} {frames : List Frame}
    (inStruct : purpose.struct? = some opened)
    (stepped : draft.stepType purpose frames token = some following) :
    StepsAlike opened draft following fun earlier =>
      draft.stepType (purpose.behind earlier) frames token := by
  revert stepped
  fun_cases stepType draft purpose frames token <;> rintro ⟨⟩ <;>
    exact .inr ⟨within_same inStruct trivial, fun _ => rfl⟩

/-- A line begins with a name, and a closing brace adds the struct. -/
theorem alike_stepField {scope : Scope} {name : String} {before : List Field}
    (stepped : draft.stepField scope name before token = some following) :
    StepsAlike ⟨scope, name, before.flatMap Field.names ++ []⟩ draft following fun earlier =>
      draft.stepField scope name (earlier ++ before) token := by
  revert stepped
  fun_cases stepField draft scope name before token
  case case1 field =>
    rintro ⟨⟩
    exact .inr ⟨⟨⟨[field], by rw [List.append_nil]; rfl⟩, rfl, trivial⟩, fun _ => rfl⟩
  case case2 =>
    rintro ⟨⟩
    exact .inl (by simp [add])
  case case3 => rintro ⟨⟩

/-- A finished line leaves the names as they are. -/
theorem within_line {scope : Scope} {name : String} {before : List Field} {names : List String}
    (type : TypeExpr) {tag : Option Points} (tagged : tag ≠ none) {later : Draft}
    (same : later = { draft with brokenTag := later.brokenTag }) :
    Within ⟨scope, name, before.flatMap Field.names ++ names⟩ draft
      (later, .fieldStart scope name (before ++ [⟨names, type, tag⟩])) where
  struct := ⟨[], by simp [Place.struct?, Purpose.struct?]⟩
  draft := same
  tagged last isLast := by
    rw [List.getLast?_concat] at isLast
    cases isLast
    exact tagged

/-- A quoted tag is kept in mind if it is broken, and nothing else of a unit. -/
theorem draft_quotedTag (draft : Draft) (inside : List Char) :
    (draft.quotedTag inside).1 =
      { draft with brokenTag := (draft.quotedTag inside).1.brokenTag } := by
  rw [quotedTag]
  split <;> rfl

/-- Behind its type a line ends with a tag, or the next one begins. -/
theorem alike_stepAfterType {type : TypeExpr} {purpose : Purpose}
    (inStruct : purpose.struct? = some opened)
    (stepped : draft.stepAfterType type purpose token = some following) :
    StepsAlike opened draft following fun earlier =>
      draft.stepAfterType type (purpose.behind earlier) token := by
  revert stepped
  fun_cases stepAfterType draft type purpose token
  case case1 => cases inStruct
  case case2 => cases inStruct
  case case3 scope name before names tag =>
    cases inStruct
    rintro ⟨⟩
    refine .inr ⟨within_line type (Option.some_ne_none _) rfl, fun earlier => ?_⟩
    rw [Place.behind, ← List.append_assoc]
    rfl
  case case4 scope name before names inside quoted tag isQuoted =>
    cases inStruct
    rintro ⟨⟩
    have same := draft_quotedTag draft inside
    rw [isQuoted] at same
    refine .inr ⟨within_line type (Option.some_ne_none _) same, fun earlier => ?_⟩
    beta_reduce
    rw [Place.behind, ← List.append_assoc, Purpose.behind, stepAfterType, isQuoted]
  case case5 scope name before names noRaw noQuoted =>
    cases inStruct
    intro stepped
    have inLine := alike_stepField stepped
    simp only [List.flatMap_append, List.flatMap_singleton, List.append_nil] at inLine
    refine inLine.imp_right (And.imp_right fun onward earlier => ?_)
    have isLine : draft.stepAfterType type (.field scope name (earlier ++ before) names) token =
        draft.stepField scope name (earlier ++ before ++ [⟨names, type, none⟩]) token := by
      rw [stepAfterType]
      · exact noRaw
      · exact noQuoted
    beta_reduce
    rw [Purpose.behind, isLine, List.append_assoc]
    exact onward earlier

/-- Behind a name in a type the type goes on, or it is whole. -/
theorem alike_stepTypeName {purpose : Purpose} {frames : List Frame} {package : List String}
    {name : String} (inStruct : purpose.struct? = some opened)
    (stepped : draft.stepTypeName purpose frames package name token = some following) :
    StepsAlike opened draft following fun earlier =>
      draft.stepTypeName (purpose.behind earlier) frames package name token := by
  revert stepped
  fun_cases stepTypeName draft purpose frames package name token
  case case1 =>
    rintro ⟨⟩
    exact .inr ⟨within_same inStruct trivial, fun _ => rfl⟩
  case case2 key outer settled noPoint =>
    rintro ⟨⟩
    refine .inr ⟨within_same inStruct trivial, fun earlier => ?_⟩
    beta_reduce
    rw [stepTypeName, settled]
    · rfl
    · exact noPoint
  case case3 => rintro ⟨⟩
  case case4 type rest noKey settled noPoint =>
    intro stepped
    refine (alike_stepAfterType inStruct stepped).imp_right (And.imp_right fun onward earlier => ?_)
    beta_reduce
    rw [stepTypeName, settled]
    · split
      · next isKey => exact absurd (congrArg Prod.snd isKey) (noKey _)
      · next isType =>
        cases isType
        exact onward earlier
    · exact noPoint

/-- A token in a struct adds it, or leaves the reader in it and is taken behind other lines as
well. -/
theorem alike_step {place : Place} (inStruct : place.struct? = some opened)
    (stepped : draft.step place token = some following) :
    StepsAlike opened draft following fun earlier => draft.step (place.behind earlier) token := by
  revert stepped
  fun_cases step draft place token
  case case12 scope name before =>
    cases inStruct
    exact alike_stepField
  case case14 scope name before names noComma =>
    intro stepped
    have inLine : (Purpose.field scope name before names).struct? = some opened := inStruct
    refine (alike_stepType inLine stepped).imp_right (And.imp_right fun onward earlier => ?_)
    beta_reduce
    rw [Place.behind, step]
    · exact onward earlier
    · exact noComma
  case case15 scope name before names field =>
    cases inStruct
    rintro ⟨⟩
    refine .inr ⟨⟨⟨[field], ?_⟩, rfl, trivial⟩, fun _ => rfl⟩
    rw [List.append_assoc]
    rfl
  case case16 => exact alike_stepType inStruct
  case case21 => exact alike_stepTypeName inStruct
  case case24 => rintro ⟨⟩
  -- Everywhere else the place is in no struct, or the same struct goes on.
  all_goals first
    | cases inStruct; done
    | rintro ⟨⟩; exact .inr ⟨within_same inStruct trivial, fun _ => rfl⟩

/-! ## Declarations -/

/-- No token takes a declaration away. -/
theorem decls_step {place : Place} (stepped : draft.step place token = some following) :
    draft.decls <+: following.1.decls := by
  obtain ⟨later, reached⟩ := following
  cases effect_step stepped with
  | nothing fine => exact List.prefix_rfl
  | clause name => exact List.prefix_rfl
  | decl fine decl => exact List.prefix_append _ _
  | quotedTag inside => exact decls_quotedTag draft inside ▸ List.prefix_rfl

/-- Nothing that is passed over takes a declaration away. -/
theorem Passes.decls {reading reached : Draft × Place} {text rest : List Char}
    (passes : Passes reading text reached rest) : reading.1.decls <+: reached.1.decls := by
  induction passes with
  | gap => exact List.prefix_rfl
  | next _ _ _ taken _ inductionHypothesis =>
    obtain ⟨token, _, stepped⟩ := take_eq_some.1 taken
    exact (decls_step stepped).trans inductionHypothesis

/-! ## Runs -/

/-- What is read further on in a struct is still in it. -/
theorem Within.trans {later : OpenStruct} {reached : Draft × Place}
    (within : Within opened draft following) (isLater : following.2.struct? = some later)
    (onward : Within later following.1 reached) : Within opened draft reached where
  struct := by
    obtain ⟨names, same⟩ := within.struct
    obtain ⟨more, struct⟩ := onward.struct
    rw [isLater] at same
    cases same
    exact ⟨names ++ more, by rw [struct, List.append_assoc]⟩
  draft := by
    rw [onward.draft, within.draft]
  tagged := onward.tagged

/-- Over the beginning of a text the reader adds a declaration, or else it stays in the struct and
passes over it behind other lines as well. -/
theorem Passes.within {reading reached : Draft × Place} {text rest : List Char}
    (passes : Passes reading text reached rest) (inStruct : reading.2.struct? = some opened)
    (tagged : reading.2.LastTagged) :
    reading.1.decls.length < reached.1.decls.length ∨
      Within opened reading.1 reached ∧ ∀ earlier,
        Passes (reading.1, reading.2.behind earlier) text (reached.1, reached.2.behind earlier)
          rest := by
  induction passes generalizing opened with
  | gap reading isGap rest =>
    exact .inr ⟨within_same inStruct tagged, fun earlier => .gap _ isGap rest⟩
  | @next reading following reached gap text rest spelling isGap wellFormed ends taken onward
      inductionHypothesis =>
    obtain ⟨token, isToken, stepped⟩ := take_eq_some.1 taken
    rcases alike_step inStruct stepped with more | ⟨within, behind⟩
    · exact .inl (more.trans_le onward.decls.length_le)
    obtain ⟨names, later⟩ := within.struct
    rcases inductionHypothesis later within.tagged with more | ⟨withinLater, behindLater⟩
    · rw [within.draft] at more
      exact .inl more
    · refine .inr ⟨within.trans later withinLater, fun earlier => ?_⟩
      have endsBehind : spelling.Ends (reading.2.behind earlier).expected text := by
        rwa [Place.expected_behind]
      have takenBehind : take (reading.1, reading.2.behind earlier) spelling =
          some (following.1, following.2.behind earlier) :=
        take_eq_some.2 ⟨token, by rwa [Place.expected_behind], behind earlier⟩
      exact .next isGap wellFormed endsBehind takenBehind (behindLater earlier)

/-! ## Closing a struct -/

section Closes

variable {scope : Scope} {name : String} {fields : List Field} {place : Place}

/-- The names in the lines are those that were read. -/
theorem struct?_of_closes (closes : place.Closes scope name fields) :
    place.struct? = some ⟨scope, name, fields.flatMap Field.names⟩ := by
  cases closes <;> simp [Place.struct?, Place.purpose?, Purpose.struct?]

/-- Behind other lines the struct is closed with those in front. -/
theorem closes_behind (closes : place.Closes scope name fields) (earlier : List Field) :
    (place.behind earlier).Closes scope name (earlier ++ fields) := by
  cases closes with
  | line => exact .line _
  | type settled =>
    rw [← List.append_assoc]
    exact .type settled

/-- A closing brace is taken where a struct may be closed. -/
theorem take_of_closes (closes : place.Closes scope name fields) (draft : Draft) :
    take (draft, place) (.mark '\x7d') =
      some (draft.add (.struct name fields draft.unit), .structEnd scope) := by
  cases closes with
  | line => exact (atField_fieldStart draft scope name fields).closes
  | type settled => exact (atField_typeName settled).closes

/-- A closing brace is taken nowhere else. -/
theorem closes_of_take (taken : take (draft, place) (.mark '\x7d') = some following) :
    ∃ scope name fields, place.Closes scope name fields := by
  cases place with
  | fieldStart scope name fields => exact ⟨scope, name, fields, .line fields⟩
  | typeName purpose frames package last =>
    rcases settle_cases (.named package last) frames with
      ⟨type, settled⟩ | ⟨key, outer, settled, _⟩
    · rw [take_behindType settled rfl (by simp)] at taken
      rcases purpose with _ | ⟨scope, _⟩ | ⟨scope, name, before, names⟩
      · cases taken
      · cases scope <;> cases taken
      · exact ⟨scope, name, _, .type settled⟩
    · have isToken : (Place.typeName purpose frames package last).expected.token?
          (.mark '\x7d') = some (.mark '\x7d') := rfl
      rw [take_eq isToken, step, stepTypeName, settled] at taken
      · simp at taken
      · simp
  | _ => cases taken

end Closes

end Draft

end DeclCodec
