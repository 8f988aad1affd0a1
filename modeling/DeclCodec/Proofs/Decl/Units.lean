import DeclCodec.Proofs.Decl.Types
import DeclCodec.Proofs.Json.Literals

/-!
# Written units

A unit is written as a package clause, if it has one, and its declarations, each
behind `type` or together with others in parentheses. An alias may have an equals
sign in front of its type. A line of a struct is the names of its fields, their type
and their tag, which stands in backquotes or is a JSON string.

A type ends with a name, and a name, a brace or a parenthesis behind it belongs to
what follows. So behind a type the reader has not settled it yet. But whatever may
follow is taken there as it is where the type is settled: `AtField` and `GoesOn` say
so for the fields of a struct and for declarations. With them what is written for a
unit is taken line by line and declaration by declaration, and the unit that is read
in the end is the one that was written.
-/

namespace DeclCodec

/-- Is the name a word without a meaning of its own anywhere? -/
def IsIdentifier (name : String) : Prop :=
  IsName name ∧ ∀ keyword : Keyword, keyword.text ≠ name.toList

instance : DecidablePred IsIdentifier := fun name =>
  decidable_of_iff
    (IsName name ∧ ∀ keyword ∈ [Keyword.package, .type, .struct, .map], keyword.text ≠ name.toList)
    ⟨fun ⟨isName, differs⟩ => ⟨isName, fun keyword => differs keyword (by cases keyword <;> simp)⟩,
      fun ⟨isName, differs⟩ => ⟨isName, fun keyword _ => differs keyword⟩⟩

namespace TypeExpr

/-- Are all names in the type identifiers? -/
def Identified : TypeExpr → Prop
  | .named package name => ∀ part ∈ package ++ [name], IsIdentifier part
  | .pointer elem => elem.Identified
  | .slice elem => elem.Identified
  | .array _ elem => elem.Identified
  | .map key value => key.Identified ∧ value.Identified

instance decidableIdentified : (type : TypeExpr) → Decidable type.Identified
  | .named package name =>
      inferInstanceAs (Decidable (∀ part ∈ package ++ [name], IsIdentifier part))
  | .pointer elem => elem.decidableIdentified
  | .slice elem => elem.decidableIdentified
  | .array _ elem => elem.decidableIdentified
  | .map key value =>
    @instDecidableAnd _ _ key.decidableIdentified value.decidableIdentified

/-- A type of identifiers avoids every keyword. -/
theorem Identified.avoids {type : TypeExpr} (identified : type.Identified)
    (keywords : List Keyword) : type.Avoids keywords := by
  cases type with
  | named package name =>
    intro first isFirst keyword _
    exact (identified first (List.mem_of_mem_head? isFirst)).2 keyword
  | _ => trivial

/-- A type of identifiers can be written. -/
theorem Identified.writable {type : TypeExpr} (identified : type.Identified) : type.Writable := by
  induction type with
  | named package name =>
    exact .named (fun part member => (identified part member).1) (identified.avoids [.map])
  | pointer elem inductionHypothesis => exact .pointer (inductionHypothesis identified)
  | slice elem inductionHypothesis => exact .slice (inductionHypothesis identified)
  | array length elem inductionHypothesis => exact .array length (inductionHypothesis identified)
  | map key value key_ih value_ih => exact .map (key_ih identified.1) (value_ih identified.2)

end TypeExpr

/-- Are the names on the line and in its type identifiers, with at least one on the line? -/
structure Field.Identified (field : Field) : Prop where
  named : field.names ≠ []
  names : ∀ name ∈ field.names, IsIdentifier name
  type : field.type.Identified

instance : DecidablePred Field.Identified := fun field =>
  decidable_of_iff
    (field.names ≠ [] ∧ (∀ name ∈ field.names, IsIdentifier name) ∧ field.type.Identified)
    ⟨fun ⟨named, names, type⟩ => ⟨named, names, type⟩,
      fun identified => ⟨identified.named, identified.names, identified.type⟩⟩

/-- Are all names in the declaration identifiers? -/
def Decl.Identified : Decl → Prop
  | .struct name fields _ => IsIdentifier name ∧ ∀ field ∈ fields, field.Identified
  | .alias name type _ => IsIdentifier name ∧ type.Identified

instance : DecidablePred Decl.Identified
  | .struct name fields _ =>
    inferInstanceAs (Decidable (IsIdentifier name ∧ ∀ field ∈ fields, field.Identified))
  | .alias name type _ => inferInstanceAs (Decidable (IsIdentifier name ∧ type.Identified))

/-! ## Writing -/

/-- The word of a keyword. -/
def Keyword.spelling (keyword : Keyword) : Spelling := .word keyword.text

/-- Names with commas between them. -/
def nameSpellings : List String → List Spelling
  | [] => []
  | first :: others =>
    .word first.toList :: others.flatMap fun name => [.mark ',', .word name.toList]

/-- How a tag, or none, may be written. -/
inductive TagSpelled : Option Points → List Spelling → Prop
  | none : TagSpelled none []
  | raw {tag : String} (noBackquote : '\x60' ∉ tag.toList) :
      TagSpelled (some tag) [.rawTag tag.toList]
  | quoted {tag : Points} {inside : List Char}
      (literal : Json.parse (Text.points ('"' :: (inside ++ ['"']))) = .ok (.str tag)) :
      TagSpelled (some tag) [.quotedTag inside]

/-- How the lines of a struct may be written. -/
inductive FieldsSpelled : List Field → List Spelling → Prop
  | none : FieldsSpelled [] []
  | line {field : Field} {rest : List Field} {tag others : List Spelling}
      (tagSpelled : TagSpelled field.tag tag) (spelled : FieldsSpelled rest others) :
      FieldsSpelled (field :: rest)
        (nameSpellings field.names ++ (field.type.spellings ++ (tag ++ others)))

/-- How a declaration may be written behind its name. -/
inductive BodySpelled : Decl → List Spelling → Prop
  | lines (name unit : String) {fields : List Field} {lines : List Spelling}
      (spelled : FieldsSpelled fields lines) :
      BodySpelled (.struct name fields unit)
        (Keyword.struct.spelling :: .mark '\x7b' :: (lines ++ [.mark '\x7d']))
  | type (name unit : String) (type : TypeExpr) :
      BodySpelled (.alias name type unit) type.spellings
  | equation (name unit : String) (type : TypeExpr) :
      BodySpelled (.alias name type unit) (.mark '=' :: type.spellings)

/-- How the declarations in a group may be written. -/
inductive GroupSpelled : List Decl → List Spelling → Prop
  | none : GroupSpelled [] []
  | decl {decl : Decl} {rest : List Decl} {body others : List Spelling}
      (spelled : BodySpelled decl body) (othersSpelled : GroupSpelled rest others) :
      GroupSpelled (decl :: rest) (.word decl.name.toList :: (body ++ others))

/-- How the declarations of a unit may be written, each alone or several in a group. -/
inductive DeclsSpelled : List Decl → List Spelling → Prop
  | none : DeclsSpelled [] []
  | single {decl : Decl} {rest : List Decl} {body others : List Spelling}
      (spelled : BodySpelled decl body) (othersSpelled : DeclsSpelled rest others) :
      DeclsSpelled (decl :: rest)
        (Keyword.type.spelling :: .word decl.name.toList :: (body ++ others))
  | group {grouped rest : List Decl} {inside others : List Spelling}
      (spelled : GroupSpelled grouped inside) (othersSpelled : DeclsSpelled rest others) :
      DeclsSpelled (grouped ++ rest)
        (Keyword.type.spelling :: .mark '(' :: (inside ++ .mark ')' :: others))

/-- A package clause, if there is one. -/
def packageSpellings : Option String → List Spelling
  | none => []
  | some package => [Keyword.package.spelling, .word package.toList]

/-! ## Well-formedness -/

/-- The keywords are words. -/
theorem Keyword.wellFormed (keyword : Keyword) : keyword.spelling.WellFormed := by
  have isWord : IsWord keyword.text := by cases keyword <;> decide
  exact isWord

/-- Names are written as words and commas. -/
theorem wellFormed_nameSpellings {names : List String}
    (identified : ∀ name ∈ names, IsIdentifier name) :
    ∀ spelling ∈ nameSpellings names, spelling.WellFormed := by
  cases names with
  | nil => exact fun _ member => by cases member
  | cons first others =>
    obtain ⟨firstIdentifier, othersIdentifiers⟩ := List.forall_mem_cons.1 identified
    rw [nameSpellings, List.forall_mem_cons]
    refine ⟨firstIdentifier.1, fun spelling member => ?_⟩
    obtain ⟨name, among, isPart⟩ := List.mem_flatMap.1 member
    rw [List.mem_cons, List.mem_singleton] at isPart
    rcases isPart with rfl | rfl
    · exact (by decide : ',' ∈ declarationMarks)
    · exact (othersIdentifiers name among).1

/-- The inside of a literal is what a quoted tag holds. -/
theorem Json.unescape_points_of_parse {inside : List Char} {text : Points}
    (literal : parse (Text.points ('"' :: (inside ++ ['"']))) = .ok (.str text)) :
    unescape (Text.points inside) = .ok text ∧ (Spelling.quotedTag inside).WellFormed :=
  unescape_of_parse (by simpa using literal)

/-- A tag is written with its quotes. -/
theorem TagSpelled.wellFormed {tag : Option Points} {spellings : List Spelling}
    (spelled : TagSpelled tag spellings) : ∀ spelling ∈ spellings, spelling.WellFormed := by
  cases spelled with
  | none => exact fun _ member => by cases member
  | raw noBackquote =>
    rw [List.forall_mem_singleton]
    exact noBackquote
  | quoted literal =>
    rw [List.forall_mem_singleton]
    exact (Json.unescape_points_of_parse literal).2

/-- Lines are written with words, marks and tags. -/
theorem FieldsSpelled.wellFormed {fields : List Field} {spellings : List Spelling}
    (spelled : FieldsSpelled fields spellings) (identified : ∀ field ∈ fields, field.Identified) :
    ∀ spelling ∈ spellings, spelling.WellFormed := by
  induction spelled with
  | none => exact fun _ member => by cases member
  | line tagSpelled _ inductionHypothesis =>
    obtain ⟨first, others⟩ := List.forall_mem_cons.1 identified
    rw [List.forall_mem_append, List.forall_mem_append, List.forall_mem_append]
    exact ⟨wellFormed_nameSpellings first.names, first.type.writable.wellFormed,
      tagSpelled.wellFormed, inductionHypothesis others⟩

/-- The bodies of declarations are written with words, marks and tags. -/
theorem BodySpelled.wellFormed {decl : Decl} {spellings : List Spelling}
    (spelled : BodySpelled decl spellings) (identified : decl.Identified) :
    ∀ spelling ∈ spellings, spelling.WellFormed := by
  cases spelled with
  | lines name unit spelled =>
    rw [List.forall_mem_cons, List.forall_mem_cons, List.forall_mem_append,
      List.forall_mem_singleton]
    exact ⟨Keyword.struct.wellFormed, (by decide : '\x7b' ∈ declarationMarks),
      spelled.wellFormed identified.2, (by decide : '\x7d' ∈ declarationMarks)⟩
  | type name unit type => exact identified.2.writable.wellFormed
  | equation name unit type =>
    rw [List.forall_mem_cons]
    exact ⟨(by decide : '=' ∈ declarationMarks), identified.2.writable.wellFormed⟩

/-- The name of a declaration is an identifier. -/
theorem Decl.Identified.name {decl : Decl} (identified : decl.Identified) :
    IsIdentifier decl.name := by
  cases decl <;> exact identified.1

/-- Groups are written with words, marks and tags. -/
theorem GroupSpelled.wellFormed {decls : List Decl} {spellings : List Spelling}
    (spelled : GroupSpelled decls spellings) (identified : ∀ decl ∈ decls, decl.Identified) :
    ∀ spelling ∈ spellings, spelling.WellFormed := by
  induction spelled with
  | none => exact fun _ member => by cases member
  | decl spelled _ inductionHypothesis =>
    obtain ⟨first, others⟩ := List.forall_mem_cons.1 identified
    rw [List.forall_mem_cons, List.forall_mem_append]
    exact ⟨first.name.1, spelled.wellFormed first, inductionHypothesis others⟩

/-- Declarations are written with words, marks and tags. -/
theorem DeclsSpelled.wellFormed {decls : List Decl} {spellings : List Spelling}
    (spelled : DeclsSpelled decls spellings) (identified : ∀ decl ∈ decls, decl.Identified) :
    ∀ spelling ∈ spellings, spelling.WellFormed := by
  induction spelled with
  | none => exact fun _ member => by cases member
  | single spelled _ inductionHypothesis =>
    obtain ⟨first, others⟩ := List.forall_mem_cons.1 identified
    rw [List.forall_mem_cons, List.forall_mem_cons, List.forall_mem_append]
    exact ⟨Keyword.type.wellFormed, first.name.1, spelled.wellFormed first,
      inductionHypothesis others⟩
  | group spelled _ inductionHypothesis =>
    obtain ⟨inside, others⟩ := List.forall_mem_append.1 identified
    rw [List.forall_mem_cons, List.forall_mem_cons, List.forall_mem_append, List.forall_mem_cons]
    exact ⟨Keyword.type.wellFormed, (by decide : '(' ∈ declarationMarks), spelled.wellFormed inside,
      (by decide : ')' ∈ declarationMarks), inductionHypothesis others⟩

/-! ## Taking -/

namespace Draft

/-- Where words are expected, an identifier is taken as a word. -/
theorem token?_identifier {expected : Expectation} (words : expected.words = true) {name : String}
    (identifier : IsIdentifier name) :
    expected.token? (.word name.toList) = some (.word name) := by
  rw [Expectation.token?, if_pos words,
    Token.ofWord_of_ne fun keyword _ => identifier.2 keyword, String.ofList_toList]

/-- Behind a whole type, a token that is no point is taken as one after the type. -/
theorem take_behindType {draft : Draft} {purpose : Purpose} {inner : List Frame}
    {package : List String} {last : String} {type : TypeExpr}
    (settled : (TypeExpr.named package last).settle inner = (type, [])) {spelling : Spelling}
    {token : Token}
    (isToken : (Place.typeName purpose inner package last).expected.token? spelling = some token)
    (noPoint : token ≠ .mark '.') :
    take (draft, .typeName purpose inner package last) spelling =
      draft.stepAfterType type purpose token := by
  rw [take_eq isToken, step, stepTypeName, settled]
  exact noPoint

/-- Is what follows a line of a struct taken here as it is behind these fields? -/
structure AtField (draft : Draft) (scope : Scope) (name : String) (before : List Field)
    (reading : Draft × Place) : Prop where
  named : ∀ field, IsIdentifier field →
    take reading (.word field.toList) = some (draft, .fieldNames scope name before [field])
  closes : take reading (.mark '\x7d') =
    some (draft.add (.struct name before draft.unit), .structEnd scope)

/-- A line may begin where one is awaited. -/
theorem atField_fieldStart (draft : Draft) (scope : Scope) (name : String) (before : List Field) :
    AtField draft scope name before (draft, .fieldStart scope name before) where
  named field identifier := by
    rw [take_eq (token?_identifier rfl identifier)]
    rfl
  closes := rfl

variable {draft : Draft} {scope : Scope} {name : String}

/-- Behind the type of a field a line may begin, and the field has no tag then. -/
theorem atField_typeName {before : List Field} {names : List String} {inner : List Frame}
    {package : List String} {last : String} {type : TypeExpr}
    (settled : (TypeExpr.named package last).settle inner = (type, [])) :
    AtField draft scope name (before ++ [⟨names, type, none⟩])
      (draft, .typeName (.field scope name before names) inner package last) where
  named field identifier := by
    rw [take_behindType settled (token?_identifier rfl identifier) (by simp)]
    rfl
  closes := by
    rw [take_behindType settled rfl (by simp)]
    rfl

/-- The names of a line are taken one after another. -/
theorem take_names {before : List Field} {names : List String}
    (identified : ∀ field ∈ names, IsIdentifier field) (taken : List String) :
    (names.flatMap fun field => [Spelling.mark ',', .word field.toList]).foldlM take
        (draft, .fieldNames scope name before taken) =
      some (draft, .fieldNames scope name before (taken ++ names)) := by
  induction names generalizing taken with
  | nil =>
    rw [List.append_nil]
    rfl
  | cons field names inductionHypothesis =>
    obtain ⟨first, others⟩ := List.forall_mem_cons.1 identified
    have comma : take (draft, .fieldNames scope name before taken) (.mark ',') =
        some (draft, .nextFieldName scope name before taken) := rfl
    have next : take (draft, .nextFieldName scope name before taken) (.word field.toList) =
        some (draft, .fieldNames scope name before (taken ++ [field])) := by
      rw [take_eq (token?_identifier rfl first)]
      rfl
    rw [List.flatMap_cons, List.cons_append, List.singleton_append, run_cons comma, run_cons next,
      inductionHypothesis others, List.append_assoc, List.singleton_append]

/-- Behind the type of a field its tag is taken, or a line may begin without it. -/
theorem take_tag {before : List Field} {names : List String} {inner : List Frame}
    {package : List String} {last : String} {type : TypeExpr}
    (settled : (TypeExpr.named package last).settle inner = (type, []))
    {tag : Option Points} {spellings : List Spelling} (spelled : TagSpelled tag spellings) :
    ∃ reading, spellings.foldlM take
        (draft, .typeName (.field scope name before names) inner package last) = some reading ∧
      AtField draft scope name (before ++ [⟨names, type, tag⟩]) reading := by
  cases spelled with
  | none => exact ⟨_, rfl, atField_typeName settled⟩
  | @raw tag noBackquote =>
    have isTag :
        (Place.typeName (.field scope name before names) inner package last).expected.token?
        (.rawTag tag.toList) = some (.rawTag tag) := by
      rw [Expectation.token?, String.ofList_toList]
      rfl
    have taken : take (draft, .typeName (.field scope name before names) inner package last)
        (.rawTag tag.toList) =
          some (draft, .fieldStart scope name (before ++ [⟨names, type, some tag⟩])) := by
      rw [take_behindType settled isTag (by simp), stepAfterType]
    exact ⟨_, run_cons taken [], atField_fieldStart _ _ _ _⟩
  | @quoted tag inside literal =>
    have taken : take (draft, .typeName (.field scope name before names) inner package last)
        (.quotedTag inside) =
          some (draft, .fieldStart scope name (before ++ [⟨names, type, some tag⟩])) := by
      rw [take_behindType settled rfl (by simp), stepAfterType, quotedTag,
        (Json.unescape_points_of_parse literal).1]
    exact ⟨_, run_cons taken [], atField_fieldStart _ _ _ _⟩

/-- A line is taken from where one may begin up to where the next may. -/
theorem AtField.take_line {before : List Field} {reading : Draft × Place}
    (atField : AtField draft scope name before reading) {field : Field}
    (identified : field.Identified) {tag : List Spelling} (tagSpelled : TagSpelled field.tag tag) :
    ∃ next, (nameSpellings field.names ++ (field.type.spellings ++ tag)).foldlM take reading =
        some next ∧
      AtField draft scope name (before ++ [field]) next := by
  obtain ⟨names, type, fieldTag⟩ := field
  cases names with
  | nil => exact absurd rfl identified.named
  | cons first others =>
    obtain ⟨firstIdentifier, othersIdentifiers⟩ := List.forall_mem_cons.1 identified.names
    have begins : (Place.fieldNames scope name before (first :: others)).typeBegins? =
        some (.field scope name before (first :: others), []) := rfl
    obtain ⟨inner, package, last, takenType, settled⟩ :=
      take_type identified.type.writable begins (identified.type.avoids _)
    obtain ⟨next, takenTag, atNext⟩ := take_tag settled tagSpelled
    have takenNames : (nameSpellings (first :: others)).foldlM take reading =
        some (draft, .fieldNames scope name before (first :: others)) := by
      rw [nameSpellings, run_cons (atField.named first firstIdentifier),
        take_names othersIdentifiers, List.singleton_append]
    exact ⟨next, by rw [run_append takenNames, run_append takenType, takenTag], atNext⟩

/-- The lines of a struct are taken one after another. -/
theorem AtField.take_lines {before fields : List Field} {reading : Draft × Place}
    (atField : AtField draft scope name before reading)
    (identified : ∀ field ∈ fields, field.Identified) {lines : List Spelling}
    (spelled : FieldsSpelled fields lines) :
    ∃ next, lines.foldlM take reading = some next ∧
      AtField draft scope name (before ++ fields) next := by
  induction spelled generalizing before reading with
  | none =>
    rw [List.append_nil]
    exact ⟨reading, rfl, atField⟩
  | @line field rest tag others tagSpelled _ inductionHypothesis =>
    obtain ⟨first, later⟩ := List.forall_mem_cons.1 identified
    obtain ⟨middle, takenLine, atMiddle⟩ := atField.take_line first tagSpelled
    obtain ⟨next, takenOthers, atNext⟩ := inductionHypothesis atMiddle later
    rw [List.append_assoc, List.singleton_append] at atNext
    refine ⟨next, ?_, atNext⟩
    rw [← List.append_assoc field.type.spellings, ← List.append_assoc, run_append takenLine,
      takenOthers]

/-- Is what follows a declaration taken here as it is behind these declarations? Outside of groups
the unit may end as well. -/
def GoesOn (draft : Draft) (reading : Draft × Place) : Scope → Prop
  | .top => take reading Keyword.type.spelling = some (draft, .declStart) ∧
      reading.1.finish reading.2 = some draft
  | .group => (∀ name, IsIdentifier name →
      take reading (.word name.toList) = some (draft, .declName .group name)) ∧
      take reading (.mark ')') = some (draft, .between)

/-- Declarations go on behind a struct. -/
theorem goesOn_structEnd (draft : Draft) (scope : Scope) :
    GoesOn draft (draft, .structEnd scope) scope := by
  cases scope with
  | top => exact ⟨rfl, rfl⟩
  | group =>
    refine ⟨fun name identifier => ?_, rfl⟩
    rw [take_eq (token?_identifier rfl identifier)]
    rfl

/-- Declarations go on behind the type of an alias. -/
theorem goesOn_alias (draft : Draft) (scope : Scope) (name : String) {inner : List Frame}
    {package : List String} {last : String} {type : TypeExpr}
    (settled : (TypeExpr.named package last).settle inner = (type, [])) :
    GoesOn (draft.add (.alias name type draft.unit))
      (draft, .typeName (.alias scope name) inner package last) scope := by
  cases scope with
  | top =>
    constructor
    · have isKeyword : (Place.typeName (.alias .top name) inner package last).expected.token?
          Keyword.type.spelling = some (.keyword .type) := rfl
      rw [take_behindType settled isKeyword (by simp)]
      rfl
    · rw [finish, settled]
  | group =>
    constructor
    · intro next identifier
      rw [take_behindType settled (token?_identifier rfl identifier) (by simp)]
      rfl
    · rw [take_behindType settled rfl (by simp)]
      rfl

/-- Behind its name, a declaration is taken up to where others go on. -/
theorem take_body {decl : Decl} (identified : decl.Identified) (unit : decl.unit = draft.unit)
    {body : List Spelling} (spelled : BodySpelled decl body) :
    ∃ next, body.foldlM take (draft, .declName scope decl.name) = some next ∧
      GoesOn (draft.add decl) next scope := by
  cases spelled with
  | @lines name unit' fields lines spelled =>
    obtain rfl : unit' = draft.unit := unit
    have keyword : take (draft, .declName scope name) Keyword.struct.spelling =
        some (draft, .structOpen scope name) := rfl
    have opening : take (draft, .structOpen scope name) (.mark '\x7b') =
        some (draft, .fieldStart scope name []) := rfl
    obtain ⟨next, taken, atNext⟩ :=
      (atField_fieldStart draft scope name []).take_lines identified.2 spelled
    refine ⟨_, ?_, goesOn_structEnd _ scope⟩
    rw [Decl.name, run_cons keyword, run_cons opening, run_append taken, run_cons atNext.closes]
    rfl
  | type name unit' type =>
    obtain rfl : unit' = draft.unit := unit
    have begins : (Place.declName scope name).typeBegins? = some (.alias scope name, []) := rfl
    obtain ⟨inner, package, last, taken, settled⟩ :=
      take_type identified.2.writable begins (identified.2.avoids _)
    exact ⟨_, taken, goesOn_alias draft scope name settled⟩
  | equation name unit' type =>
    obtain rfl : unit' = draft.unit := unit
    have equals : take (draft, .declName scope name) (.mark '=') =
        some (draft, .typeStart (.alias scope name) []) := rfl
    obtain ⟨inner, package, last, taken, settled⟩ :=
      take_type identified.2.writable (Place.typeBegins?_typeStart (.alias scope name) [])
        (identified.2.avoids _)
    exact ⟨_, (run_cons equals _).trans taken, goesOn_alias draft scope name settled⟩

/-- A draft with more declarations. -/
def addAll (draft : Draft) (decls : List Decl) : Draft :=
  { draft with decls := draft.decls ++ decls }

/-- Declarations are added one after another. -/
theorem addAll_cons (draft : Draft) (decl : Decl) (decls : List Decl) :
    draft.addAll (decl :: decls) = (draft.add decl).addAll decls := by
  simp [addAll, add]

/-- Declarations are added part by part. -/
theorem addAll_append (draft : Draft) (decls others : List Decl) :
    draft.addAll (decls ++ others) = (draft.addAll decls).addAll others := by
  simp [addAll]

/-- The declarations of a group are taken one after another. -/
theorem take_group {reading : Draft × Place} (goesOn : GoesOn draft reading .group)
    {decls : List Decl} (identified : ∀ decl ∈ decls, decl.Identified)
    (units : ∀ decl ∈ decls, decl.unit = draft.unit) {inside : List Spelling}
    (spelled : GroupSpelled decls inside) :
    ∃ next, inside.foldlM take reading = some next ∧ GoesOn (draft.addAll decls) next .group := by
  induction spelled generalizing draft reading with
  | none =>
    refine ⟨reading, rfl, ?_⟩
    rwa [addAll, List.append_nil]
  | @decl decl rest body others spelled _ inductionHypothesis =>
    obtain ⟨first, later⟩ := List.forall_mem_cons.1 identified
    obtain ⟨unit, laterUnits⟩ := List.forall_mem_cons.1 units
    obtain ⟨middle, takenBody, atMiddle⟩ := take_body first unit spelled
    obtain ⟨next, takenOthers, atNext⟩ := inductionHypothesis atMiddle later laterUnits
    refine ⟨next, ?_, addAll_cons draft decl rest ▸ atNext⟩
    rw [run_cons (goesOn.1 decl.name first.name), run_append takenBody, takenOthers]

/-- The declarations of a unit are taken one after another. -/
theorem take_decls {reading : Draft × Place} (goesOn : GoesOn draft reading .top)
    {decls : List Decl} (identified : ∀ decl ∈ decls, decl.Identified)
    (units : ∀ decl ∈ decls, decl.unit = draft.unit) {spellings : List Spelling}
    (spelled : DeclsSpelled decls spellings) :
    ∃ next, spellings.foldlM take reading = some next ∧ GoesOn (draft.addAll decls) next .top := by
  induction spelled generalizing draft reading with
  | none =>
    refine ⟨reading, rfl, ?_⟩
    rwa [addAll, List.append_nil]
  | @single decl rest body others spelled _ inductionHypothesis =>
    obtain ⟨first, later⟩ := List.forall_mem_cons.1 identified
    obtain ⟨unit, laterUnits⟩ := List.forall_mem_cons.1 units
    have named : take (draft, .declStart) (.word decl.name.toList) =
        some (draft, .declName .top decl.name) := by
      rw [take_eq (token?_identifier rfl first.name)]
      rfl
    obtain ⟨middle, takenBody, atMiddle⟩ := take_body first unit spelled
    obtain ⟨next, takenOthers, atNext⟩ := inductionHypothesis atMiddle later laterUnits
    refine ⟨next, ?_, addAll_cons draft decl rest ▸ atNext⟩
    rw [run_cons goesOn.1, run_cons named, run_append takenBody, takenOthers]
  | @group grouped rest inside others spelled _ inductionHypothesis =>
    obtain ⟨insideIdentified, later⟩ := List.forall_mem_append.1 identified
    obtain ⟨insideUnits, laterUnits⟩ := List.forall_mem_append.1 units
    have opened : take (draft, .declStart) (.mark '(') = some (draft, .groupStart) := rfl
    have goesOnInside : GoesOn draft (draft, .groupStart) .group := by
      refine ⟨fun name identifier => ?_, rfl⟩
      rw [take_eq (token?_identifier rfl identifier)]
      rfl
    obtain ⟨middle, takenInside, atMiddle⟩ :=
      take_group goesOnInside insideIdentified insideUnits spelled
    have goesOnBehind : GoesOn (draft.addAll grouped) (draft.addAll grouped, .between) .top :=
      ⟨rfl, rfl⟩
    obtain ⟨next, takenOthers, atNext⟩ := inductionHypothesis goesOnBehind later laterUnits
    refine ⟨next, ?_, addAll_append draft grouped rest ▸ atNext⟩
    rw [run_cons goesOn.1, run_cons opened, run_append takenInside, run_cons atMiddle.2,
      takenOthers]

end Draft

/-- A package clause is taken, if there is one, and declarations go on. -/
theorem Draft.take_clause (unit : String) {clause : Option String}
    (identified : ∀ name ∈ clause, IsIdentifier name) :
    ∃ reading, (packageSpellings clause).foldlM take (.empty unit, .opening) = some reading ∧
      GoesOn { empty unit with package := clause } reading .top := by
  cases clause with
  | none => exact ⟨_, rfl, rfl, rfl⟩
  | some package =>
    have keyword : take (.empty unit, .opening) Keyword.package.spelling =
        some (.empty unit, .packageName) := rfl
    have named : take (.empty unit, .packageName) (.word package.toList) =
        some ({ empty unit with package := some package }, .between) := by
      rw [take_eq (token?_identifier rfl (identified package rfl))]
      rfl
    exact ⟨_, (run_cons keyword _).trans (run_cons named []), rfl, rfl⟩

/-- What is written for a unit, in whatever layout, is read as the unit. -/
theorem DeclUnit.parse_layout {unit package : String} {clause : Option String}
    (clauseIdentified : ∀ name ∈ clause, IsIdentifier name) {decls : List Decl}
    (identified : ∀ decl ∈ decls, decl.Identified) (units : ∀ decl ∈ decls, decl.unit = unit)
    {spellings : List Spelling} (spelled : DeclsSpelled decls spellings) {text : String}
    (layout : Layout false (packageSpellings clause ++ spellings) text.toList) :
    parse text unit package = .ok ⟨unit, clause.getD package, decls⟩ := by
  have wellFormed : ∀ spelling ∈ packageSpellings clause ++ spellings, spelling.WellFormed := by
    rw [List.forall_mem_append]
    refine ⟨?_, spelled.wellFormed identified⟩
    cases clause with
    | none => exact fun _ member => by cases member
    | some package =>
      rw [packageSpellings, List.forall_mem_cons, List.forall_mem_singleton]
      exact ⟨Keyword.package.wellFormed, (clauseIdentified package rfl).1⟩
  obtain ⟨reading, takenClause, goesOn⟩ := Draft.take_clause unit clauseIdentified
  obtain ⟨⟨finished, place⟩, takenDecls, atEnd⟩ := Draft.take_decls goesOn identified units spelled
  have taken := (Draft.run_append takenClause spellings).trans takenDecls
  obtain ⟨last, read⟩ := layout.read_eq wellFormed taken text.toList
  have drafted : Draft.ofUnit unit text.toList =
      .ok (Draft.addAll { Draft.empty unit with package := clause } decls) := by
    rw [Draft.ofUnit, read]
    dsimp only
    rw [atEnd.2]
  rw [parse, drafted]
  rfl

/-- An alias and a struct of one unit. -/
def usersAndIds : List Decl :=
  [.alias "Id" (.named [] "int") "users",
    .struct "User" [⟨["A", "B"], .named [] "Id", some "x"⟩,
      ⟨["C"], .slice (.named [] "Id"), some ""⟩]
      "users"]

/-- The alias and the struct, gathered in a group with comments between them, are read from it. -/
theorem DeclUnit.parse_layout_group :
    parse "package chat type(Id=int /* and */ User struct\x7bA,B Id\x60x\x60C[]Id\"\"\x7d)//end"
      "users" "" =
      .ok ⟨"users", "chat", usersAndIds⟩ := by
  have fields : FieldsSpelled
      [⟨["A", "B"], .named [] "Id", some "x"⟩, ⟨["C"], .slice (.named [] "Id"), some ""⟩] _ :=
    .line (.raw (by decide)) (.line (@TagSpelled.quoted [] [] rfl) .none)
  have spelled : DeclsSpelled usersAndIds _ :=
    .group (.decl (.equation "Id" "users" (.named [] "int")) (.decl (.lines "User" "users" fields)
      .none)) .none
  have space : IsGap [' '] := .blank rfl .empty
  have comment : IsGap " /* and */ ".toList :=
    .blank rfl (@IsGap.blockComment " and ".toList [' '] (by decide) space)
  refine @parse_layout "users" "" (some "chat") (by decide) usersAndIds (by decide) (by decide) _
    spelled _ ?_
  -- Gaps stand where words would meet, in front of the struct and at the end.
  refine .unspaced (by decide) (.next space (by decide) (.next space (by decide) ?_))
  refine .unspaced (by decide)
    (.unspaced (by decide) (.unspaced (by decide) (.unspaced (by decide) ?_)))
  refine .next comment (by decide) (.next space (by decide) (.unspaced (by decide) ?_))
  refine .unspaced (by decide)
    (.unspaced (by decide) (.unspaced (by decide) (.next space (by decide) ?_)))
  refine .unspaced (by decide)
    (.unspaced (by decide) (.unspaced (by decide) (.unspaced (by decide) ?_)))
  refine .unspaced (by decide)
    (.unspaced (by decide) (.unspaced (by decide) (.unspaced (by decide) ?_)))
  exact .endingInComment .empty (by decide : '\n' ∉ "end".toList)

end DeclCodec
