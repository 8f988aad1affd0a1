import DeclCodec.Proofs.Decl.Layout

/-!
# Written type expressions

A type expression is written from left to right: marks and map keys in front, a name
at the end. It can be written if its names are words and the first of them is not
the word that begins a map. Wherever the reader expects a type, it takes what is
written for one and ends up behind the name at its end, with parts waiting for that
name into which it settles as the type does into the parts before. So a type that
can be written is read from whatever it is laid out in, and no other type is ever
read.
-/

namespace DeclCodec

/-- Is the name a word? -/
def IsName (name : String) : Prop := IsWord name.toList

instance : DecidablePred IsName := fun name => inferInstanceAs (Decidable (IsWord name.toList))

/-- A name holds nothing that is no part of a word. -/
theorem IsName.not_mem {name : String} (isName : IsName name) {c : Char}
    (noPart : Token.isWordPart c = false) : c ∉ name.toList := by
  obtain ⟨first, rest, isWord, starts, parts⟩ := isName
  intro among
  rw [isWord] at among
  have allParts : ∀ other ∈ first :: rest, Token.isWordPart other = true :=
    List.forall_mem_cons.2 ⟨Token.isWordPart_of_isWordStart starts, parts⟩
  rw [allParts c among] at noPart
  cases noPart

namespace TypeExpr

/-- The words of a qualified name, with points between them. -/
def pathSpellings : List String → String → List Spelling
  | [], name => [.word name.toList]
  | part :: parts, name => .word part.toList :: .mark '.' :: pathSpellings parts name

/-- How a type expression is written. -/
def spellings : TypeExpr → List Spelling
  | .named package name => pathSpellings package name
  | .pointer elem => .mark '*' :: elem.spellings
  | .slice elem => .mark '[' :: .mark ']' :: elem.spellings
  | .array length elem =>
    .mark '[' :: .number (Nat.toDigits 10 length) :: .mark ']' :: elem.spellings
  | .map key value =>
    .word Keyword.map.text :: .mark '[' :: (key.spellings ++ .mark ']' :: value.spellings)

/-- Does the expression not begin with one of these keywords, unless it begins a map? -/
def Avoids (keywords : List Keyword) : TypeExpr → Prop
  | .named package name =>
    ∀ first ∈ (package ++ [name]).head?, ∀ keyword ∈ keywords, keyword.text ≠ first.toList
  | _ => True

/-- The type expressions that can be written. -/
inductive Writable : TypeExpr → Prop
  | named {package : List String} {name : String}
      (words : ∀ part ∈ package ++ [name], IsName part)
      (avoids : (named package name).Avoids [.map]) : Writable (.named package name)
  | pointer {elem : TypeExpr} (writable : Writable elem) : Writable (.pointer elem)
  | slice {elem : TypeExpr} (writable : Writable elem) : Writable (.slice elem)
  | array (length : Nat) {elem : TypeExpr} (writable : Writable elem) :
      Writable (.array length elem)
  | map {key value : TypeExpr} (writableKey : Writable key) (writableValue : Writable value) :
      Writable (.map key value)

/-- The words of a path are written as words. -/
theorem wellFormed_pathSpellings {package : List String} {name : String}
    (words : ∀ part ∈ package ++ [name], IsName part) :
    ∀ spelling ∈ pathSpellings package name, spelling.WellFormed := by
  induction package with
  | nil =>
    intro spelling member
    rw [List.mem_singleton.1 member]
    exact words name (by simp)
  | cons part parts inductionHypothesis =>
    intro spelling member
    rw [pathSpellings, List.mem_cons, List.mem_cons] at member
    rcases member with rfl | rfl | later
    · exact words part (by simp)
    · exact (by decide : '.' ∈ declarationMarks)
    · exact inductionHypothesis (fun other among => words other (List.mem_cons_of_mem _ among))
        spelling later

instance decidableAvoids (keywords : List Keyword) :
    (type : TypeExpr) → Decidable (type.Avoids keywords)
  | .named package name =>
    inferInstanceAs (Decidable (∀ first ∈ (package ++ [name]).head?, ∀ keyword ∈ keywords,
      keyword.text ≠ first.toList))
  | .pointer _ => isTrue trivial
  | .slice _ => isTrue trivial
  | .array _ _ => isTrue trivial
  | .map _ _ => isTrue trivial

instance decidableWritable : (type : TypeExpr) → Decidable type.Writable
  | .named package name =>
    decidable_of_iff
      ((∀ part ∈ package ++ [name], IsName part) ∧ (named package name).Avoids [.map])
      ⟨fun ⟨words, avoids⟩ => .named words avoids, fun | .named words avoids => ⟨words, avoids⟩⟩
  | .pointer elem =>
    @decidable_of_iff _ _ ⟨.pointer, fun | .pointer writable => writable⟩ elem.decidableWritable
  | .slice elem =>
    @decidable_of_iff _ _ ⟨.slice, fun | .slice writable => writable⟩ elem.decidableWritable
  | .array length elem =>
    @decidable_of_iff _ _ ⟨.array length, fun | .array _ writable => writable⟩
      elem.decidableWritable
  | .map key value =>
    @decidable_of_iff _ _
      ⟨fun ⟨writableKey, writableValue⟩ => .map writableKey writableValue,
        fun | .map writableKey writableValue => ⟨writableKey, writableValue⟩⟩
      (@instDecidableAnd _ _ key.decidableWritable value.decidableWritable)

/-- A type that can be written avoids the word that begins a map. -/
theorem Writable.avoids {type : TypeExpr} (writable : type.Writable) : type.Avoids [.map] := by
  cases writable with
  | named _ avoids => exact avoids
  | _ => trivial

/-- What is written for a type is well formed. -/
theorem Writable.wellFormed {type : TypeExpr} (writable : type.Writable) :
    ∀ spelling ∈ type.spellings, spelling.WellFormed := by
  have star : (Spelling.mark '*').WellFormed := (by decide : '*' ∈ declarationMarks)
  have opening : (Spelling.mark '[').WellFormed := (by decide : '[' ∈ declarationMarks)
  have closing : (Spelling.mark ']').WellFormed := (by decide : ']' ∈ declarationMarks)
  induction writable with
  | named words _ => exact wellFormed_pathSpellings words
  | pointer _ inductionHypothesis =>
    rw [spellings, List.forall_mem_cons]
    exact ⟨star, inductionHypothesis⟩
  | slice _ inductionHypothesis =>
    rw [spellings, List.forall_mem_cons, List.forall_mem_cons]
    exact ⟨opening, closing, inductionHypothesis⟩
  | array length _ inductionHypothesis =>
    rw [spellings, List.forall_mem_cons, List.forall_mem_cons, List.forall_mem_cons]
    refine ⟨opening, ⟨Nat.toDigits_ne_nil, ?_⟩, closing, inductionHypothesis⟩
    intro c digit
    exact Nat.isDigit_of_mem_toDigits (by decide) (by decide) digit
  | map _ _ key_ih value_ih =>
    rw [spellings, List.forall_mem_cons, List.forall_mem_cons, List.forall_mem_append,
      List.forall_mem_cons]
    exact ⟨(by decide : IsWord ['m', 'a', 'p']), opening, key_ih, closing, value_ih⟩

end TypeExpr

/-! ## Taking types -/

/-- A word that is none of the expected keywords is taken as a word. -/
theorem Token.ofWord_of_ne {keywords : List Keyword} {letters : List Char}
    (differs : ∀ keyword ∈ keywords, keyword.text ≠ letters) :
    ofWord keywords letters = .word (String.ofList letters) := by
  have none : (keywords.find? fun candidate => candidate.text == letters) = none := by
    rw [List.find?_eq_none]
    intro keyword member same
    exact differs keyword member (eq_of_beq same)
  rw [ofWord, none]

/-- Where a type begins: what the type is read for, and the parts that wait for it. -/
def Place.typeBegins? : Place → Option (Purpose × List Frame)
  | .typeStart purpose frames => some (purpose, frames)
  | .declName scope name => some (.alias scope name, [])
  | .fieldNames scope name before names => some (.field scope name before names, [])
  | _ => none

/-- A type begins where its beginning is awaited. -/
theorem Place.typeBegins?_typeStart (purpose : Purpose) (frames : List Frame) :
    (Place.typeStart purpose frames).typeBegins? = some (purpose, frames) := rfl

namespace Draft

variable {draft : Draft} {place : Place} {purpose : Purpose} {frames : List Frame}

/-- Where a type begins, a word that is no keyword there is the beginning of a name. -/
theorem take_name (begins : place.typeBegins? = some (purpose, frames)) {name : String}
    (differs : ∀ keyword ∈ place.expected.keywords, keyword.text ≠ name.toList) :
    take (draft, place) (.word name.toList) = some (draft, .typeName purpose frames [] name) := by
  have word := Token.ofWord_of_ne differs
  rw [String.ofList_toList] at word
  cases place <;> cases begins <;>
    simp only [take, Expectation.token?, word, bind, Option.bind] <;> rfl

/-- Where a type begins, its own word begins a map. -/
theorem take_map (begins : place.typeBegins? = some (purpose, frames)) :
    take (draft, place) (.word Keyword.map.text) = some (draft, .mapOpen purpose frames) := by
  cases place <;> cases begins <;> rfl

/-- Where a type begins, a star begins a pointer. -/
theorem take_star (begins : place.typeBegins? = some (purpose, frames)) :
    take (draft, place) (.mark '*') =
      some (draft, .typeStart purpose (.pointer :: frames)) := by
  cases place <;> cases begins <;> rfl

/-- Where a type begins, a bracket begins a slice or an array. -/
theorem take_bracket (begins : place.typeBegins? = some (purpose, frames)) :
    take (draft, place) (.mark '[') = some (draft, .bracket purpose frames) := by
  cases place <;> cases begins <;> rfl

/-- Behind a name, a point goes on to the next part of the path. -/
theorem take_point (purpose : Purpose) (frames : List Frame) (package : List String)
    (name : String) :
    take (draft, .typeName purpose frames package name) (.mark '.') =
      some (draft, .selector purpose frames (package ++ [name])) := rfl

/-- Behind a point, a path goes on to its name. -/
theorem take_path (purpose : Purpose) (frames : List Frame) (before parts : List String)
    (name : String) :
    (TypeExpr.pathSpellings parts name).foldlM take (draft, .selector purpose frames before) =
      some (draft, .typeName purpose frames (before ++ parts) name) := by
  have selected (before : List String) (word : String) :
      take (draft, .selector purpose frames before) (.word word.toList) =
        some (draft, .typeName purpose frames before word) := by
    have isWord : Token.ofWord [] word.toList = .word word := by
      rw [Token.ofWord_of_ne (by simp), String.ofList_toList]
    simp only [take, Place.expected, Expectation.token?, isWord, bind, Option.bind]
    rfl
  induction parts generalizing before with
  | nil =>
    rw [TypeExpr.pathSpellings, run_cons (selected _ _), List.append_nil]
    rfl
  | cons part parts inductionHypothesis =>
    rw [TypeExpr.pathSpellings, run_cons (selected _ _), run_cons (take_point _ _ _ _),
      inductionHypothesis, List.append_assoc, List.singleton_append]

/-- Behind the key of a map, a bracket goes on to the value. -/
theorem take_keyClose {inner outer : List Frame} {package : List String} {name : String}
    {key : TypeExpr}
    (settled : (TypeExpr.named package name).settle inner = (key, .mapKey :: outer)) :
    take (draft, .typeName purpose inner package name) (.mark ']') =
      some (draft, .typeStart purpose (.mapValue key :: outer)) := by
  have isMark : (Place.typeName purpose inner package name).expected.token? (.mark ']') =
      some (.mark ']') := rfl
  rw [take_eq isMark, step, stepTypeName, settled]
  · exact if_pos rfl
  · intro isPoint
    cases isPoint

/-- Where a type begins, what is written for one is taken. The reader is behind a name then, and the
name settles into the parts waiting there as the type does into those that waited before. -/
theorem take_type {type : TypeExpr} (writable : type.Writable)
    (begins : place.typeBegins? = some (purpose, frames))
    (avoids : type.Avoids place.expected.keywords) :
    ∃ inner package name,
      type.spellings.foldlM take (draft, place) =
        some (draft, .typeName purpose inner package name) ∧
      (TypeExpr.named package name).settle inner = type.settle frames := by
  induction writable generalizing place frames with
  | @named package name words _ =>
    refine ⟨frames, package, name, ?_, rfl⟩
    cases package with
    | nil =>
      rw [TypeExpr.spellings, TypeExpr.pathSpellings, run_cons (take_name begins (avoids name rfl))]
      rfl
    | cons part parts =>
      rw [TypeExpr.spellings, TypeExpr.pathSpellings, run_cons (take_name begins (avoids part rfl)),
        run_cons (take_point _ _ _ _), take_path]
      rfl
  | @pointer elem writable inductionHypothesis =>
    rw [TypeExpr.spellings, run_cons (take_star begins)]
    exact inductionHypothesis (Place.typeBegins?_typeStart _ _) writable.avoids
  | @slice elem writable inductionHypothesis =>
    have closed : take (draft, .bracket purpose frames) (.mark ']') =
        some (draft, .typeStart purpose (.slice :: frames)) := rfl
    rw [TypeExpr.spellings, run_cons (take_bracket begins), run_cons closed]
    exact inductionHypothesis (Place.typeBegins?_typeStart _ _) writable.avoids
  | @array length elem writable inductionHypothesis =>
    have counted : take (draft, .bracket purpose frames) (.number (Nat.toDigits 10 length)) =
        some (draft, .arrayClose purpose frames length) := by
      have isNumber : (Place.bracket purpose frames).expected.token?
          (.number (Nat.toDigits 10 length)) = some (.number length) := by
        rw [Expectation.token?, Nat.ofDigitChars_ten_toDigits]
        rfl
      rw [take_eq isNumber]
      rfl
    have closed : take (draft, .arrayClose purpose frames length) (.mark ']') =
        some (draft, .typeStart purpose (.array length :: frames)) := rfl
    rw [TypeExpr.spellings, run_cons (take_bracket begins), run_cons counted, run_cons closed]
    exact inductionHypothesis (Place.typeBegins?_typeStart _ _) writable.avoids
  | @map key value writableKey writableValue key_ih value_ih =>
    obtain ⟨inner, package, name, takenKey, settledKey⟩ :=
      key_ih (Place.typeBegins?_typeStart purpose (.mapKey :: frames)) writableKey.avoids
    have opened : take (draft, .mapOpen purpose frames) (.mark '[') =
        some (draft, .typeStart purpose (.mapKey :: frames)) := rfl
    rw [TypeExpr.spellings, run_cons (take_map begins), run_cons opened, run_append takenKey,
      run_cons (take_keyClose settledKey)]
    exact value_ih (Place.typeBegins?_typeStart _ _) writableValue.avoids

end Draft

namespace TypeExpr

/-- A type that can be written is read from whatever it is laid out in. -/
theorem Writable.parse_eq {type : TypeExpr} (writable : type.Writable) {text : String}
    (layout : Layout false type.spellings text.toList) : parse text = .ok type := by
  have takenAlone : ∃ inner package name,
      type.spellings.foldlM Draft.take (.empty "", .typeStart .lone []) =
        some (.empty "", .typeName .lone inner package name) ∧
      (TypeExpr.named package name).settle inner = type.settle [] :=
    Draft.take_type writable (Place.typeBegins?_typeStart .lone []) writable.avoids
  obtain ⟨inner, package, name, taken, settled⟩ := takenAlone
  obtain ⟨last, read⟩ := layout.read_eq writable.wellFormed taken text.toList
  dsimp only at read
  have wholeType : ofPlace? (.typeName .lone inner package name) = some type := by
    rw [ofPlace?, settled, settle]
  rw [parse, read]
  dsimp only
  rw [wholeType]

/-! ## Nothing between -/

/-- The characters of a type expression, without gaps. -/
def text (type : TypeExpr) : List Char := type.spellings.flatMap Spelling.chars

/-- A path needs no gaps, whatever is laid out behind it. -/
theorem layout_pathSpellings (package : List String) (name : String) {rest : List Spelling}
    {text : List Char} (laidOut : Layout true rest text) :
    Layout false (pathSpellings package name ++ rest)
      ((pathSpellings package name).flatMap Spelling.chars ++ text) := by
  induction package with
  | nil =>
    rw [pathSpellings, List.flatMap_singleton]
    exact .unspaced (by simp) laidOut
  | cons part parts inductionHypothesis =>
    rw [pathSpellings, List.flatMap_cons, List.flatMap_cons, List.append_assoc, List.append_assoc]
    exact .unspaced (by simp) (.unspaced (by simp [Spelling.isWord]) inductionHypothesis)

/-- A type needs no gaps, whatever is laid out behind it. -/
theorem layout_text (type : TypeExpr) {rest : List Spelling} {text : List Char}
    (laidOut : Layout true rest text) :
    Layout false (type.spellings ++ rest) (type.text ++ text) := by
  induction type generalizing rest text with
  | named package name => exact layout_pathSpellings package name laidOut
  | pointer elem inductionHypothesis =>
    rw [TypeExpr.text, spellings, List.flatMap_cons, List.append_assoc]
    exact .unspaced (by simp) (inductionHypothesis laidOut)
  | slice elem inductionHypothesis =>
    rw [TypeExpr.text, spellings, List.flatMap_cons, List.flatMap_cons, List.append_assoc,
      List.append_assoc]
    exact .unspaced (by simp) (.unspaced (by simp [Spelling.isWord]) (inductionHypothesis laidOut))
  | array length elem inductionHypothesis =>
    rw [TypeExpr.text, spellings, List.flatMap_cons, List.flatMap_cons, List.flatMap_cons,
      List.append_assoc, List.append_assoc, List.append_assoc]
    exact .unspaced (by simp) (.unspaced (by simp [Spelling.isWord])
      (.unspaced (by simp [Spelling.isWord]) (inductionHypothesis laidOut)))
  | map key value key_ih value_ih =>
    have behindKey : Layout true (.mark ']' :: (value.spellings ++ rest))
        ((Spelling.mark ']').chars ++ (value.text ++ text)) :=
      .unspaced (by simp [Spelling.isWord]) (value_ih laidOut)
    rw [TypeExpr.text, spellings, List.flatMap_cons, List.flatMap_cons, List.flatMap_append,
      List.flatMap_cons]
    simp only [List.cons_append, List.append_assoc]
    exact .unspaced (by simp) (.unspaced (by simp [Spelling.isWord]) (key_ih behindKey))

/-- The text of a type without gaps is one that it is laid out in. -/
theorem layout_self (type : TypeExpr) : Layout false type.spellings type.text := by
  have layout := type.layout_text (.ending .empty)
  rwa [List.append_nil, List.append_nil] at layout

end TypeExpr

end DeclCodec
