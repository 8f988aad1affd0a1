import DeclCodec.Proofs.Decl.Types

/-!
# What is ever read

Whatever a text says, the reader only ever holds types that can be written: the
words that it takes for names are words, and where a type begins it takes no
word that begins a map for a name. Every token keeps this up, whether it goes on
with a type, settles it into the parts that wait for it, or finishes a declaration.
So the types of every unit that is read can be written, and a type is read from some
text exactly if it can be written.
-/

namespace DeclCodec

/-- The types in a declaration. -/
def Decl.types : Decl → List TypeExpr
  | .struct _ fields _ => fields.map Field.type
  | .alias _ type _ => [type]

/-- The types in a unit. -/
def DeclUnit.types (unit : DeclUnit) : List TypeExpr := unit.decls.flatMap Decl.types

/-- Can the token come from where these tokens are expected? A word is no keyword there. -/
def Token.Fits (expected : Expectation) : Token → Prop
  | .word name => IsName name ∧ ∀ keyword ∈ expected.keywords, keyword.text ≠ name.toList
  | _ => True

/-- Can the key that waits for its value be written? -/
def Frame.Sound : Frame → Prop
  | .mapValue key => key.Writable
  | _ => True

/-- Can the types of the fields be written? -/
def SoundFields (fields : List Field) : Prop := ∀ field ∈ fields, field.type.Writable

/-- Can the types of the fields before be written? -/
def Purpose.Sound : Purpose → Prop
  | .field _ _ before _ => SoundFields before
  | _ => True

/-- Can all types that are kept at a place be written? A path that waits for its next part is that
of a type that can be written, whatever that part is. -/
def Place.Sound : Place → Prop
  | .fieldStart _ _ before => SoundFields before
  | .fieldNames _ _ before _ => SoundFields before
  | .nextFieldName _ _ before _ => SoundFields before
  | .typeStart purpose frames => purpose.Sound ∧ ∀ frame ∈ frames, frame.Sound
  | .mapOpen purpose frames => purpose.Sound ∧ ∀ frame ∈ frames, frame.Sound
  | .bracket purpose frames => purpose.Sound ∧ ∀ frame ∈ frames, frame.Sound
  | .arrayClose purpose frames _ => purpose.Sound ∧ ∀ frame ∈ frames, frame.Sound
  | .typeName purpose frames package name =>
    (purpose.Sound ∧ ∀ frame ∈ frames, frame.Sound) ∧ (TypeExpr.named package name).Writable
  | .selector purpose frames package =>
    (purpose.Sound ∧ ∀ frame ∈ frames, frame.Sound) ∧
      ∀ name, IsName name → (TypeExpr.named package name).Writable
  | _ => True

/-- Can all types that are read so far be written? -/
structure Draft.Sound (reading : Draft × Place) : Prop where
  decls : ∀ decl ∈ reading.1.decls, ∀ type ∈ decl.types, type.Writable
  place : reading.2.Sound

/-- A token that is taken fits where it is taken. -/
theorem Token.scan?_fits {expected : Expectation} {text rest : List Char} {token : Token}
    (scanned : scan? expected text = some (token, rest)) : token.Fits expected := by
  cases token with
  | word name =>
    cases text with
    | nil => cases scanned
    | cons c text =>
      simp only [scan?] at scanned
      split at scanned
      · next starts =>
        split at scanned
        · obtain ⟨isWord, rfl⟩ := Prod.mk.inj (Option.some.inj scanned)
          rw [ofWord] at isWord
          split at isWord
          · cases isWord
          · next noKeyword =>
            cases isWord
            rw [List.find?_eq_none] at noKeyword
            refine ⟨⟨c, text.takeWhile isWordPart, String.toList_ofList, starts, ?_⟩, ?_⟩
            · exact List.all_eq_true.1 List.all_takeWhile
            · intro keyword member same
              rw [String.toList_ofList] at same
              exact noKeyword keyword member (beq_iff_eq.2 same)
        · obtain ⟨_, _, same⟩ := Option.map_eq_some_iff.1 scanned
          cases same
      · grind [Option.map_eq_some_iff]
  | _ => trivial

/-- The next token fits where it is expected. -/
theorem Lexeme.next_fits {expected : Expectation} {text start rest : List Char} {token : Token}
    (next : Lexeme.next expected text = .token token start rest) : token.Fits expected := by
  rw [Lexeme.next] at next
  split at next
  · cases next
  · split at next
    · next scanned =>
      cases next
      exact Token.scan?_fits scanned
    · cases next

/-- A type that settles is still one that can be written, and so are the keys that go on waiting. -/
theorem TypeExpr.Writable.settle {type : TypeExpr} (writable : type.Writable) {frames : List Frame}
    (sound : ∀ frame ∈ frames, frame.Sound) :
    (type.settle frames).1.Writable ∧ ∀ frame ∈ (type.settle frames).2, frame.Sound := by
  induction frames generalizing type with
  | nil => exact ⟨writable, sound⟩
  | cons frame frames inductionHypothesis =>
    obtain ⟨first, others⟩ := List.forall_mem_cons.1 sound
    cases frame with
    | pointer => exact inductionHypothesis writable.pointer others
    | slice => exact inductionHypothesis writable.slice others
    | array length => exact inductionHypothesis (writable.array length) others
    | mapKey => exact ⟨writable, sound⟩
    | mapValue key => exact inductionHypothesis (first.map writable) others

/-- A path of a type that can be written goes on with any name. -/
theorem TypeExpr.Writable.select {package : List String} {name : String}
    (writable : Writable (.named package name)) {next : String} (isName : IsName next) :
    Writable (.named (package ++ [name]) next) := by
  cases writable with
  | named words avoids =>
    refine .named ?_ ?_
    · intro part member
      rcases List.mem_append.1 member with before | last
      · exact words part before
      · rwa [List.mem_singleton.1 last]
    · intro first isFirst
      rw [List.head?_append, Option.mem_def] at isFirst
      cases package <;> exact avoids first isFirst

namespace Draft

variable {draft : Draft} {token : Token} {following : Draft × Place}

/-- A place changes, and what is read so far does not. -/
theorem Sound.moved {place next : Place} (sound : Sound (draft, place)) (nextSound : next.Sound) :
    Sound (draft, next) := ⟨sound.decls, nextSound⟩

/-- A declaration whose types can be written can be added. -/
theorem Sound.add {place next : Place} (sound : Sound (draft, place)) {decl : Decl}
    (writable : ∀ type ∈ decl.types, type.Writable) (nextSound : next.Sound) :
    Sound (draft.add decl, next) := by
  refine ⟨fun other member => ?_, nextSound⟩
  rcases List.mem_append.1 member with before | last
  · exact sound.decls other before
  · rwa [List.mem_singleton.1 last]

/-- The fields of a declared struct are its types. -/
theorem writable_struct {fields : List Field} (sound : SoundFields fields) (name unit : String) :
    ∀ type ∈ (Decl.struct name fields unit).types, type.Writable := by
  intro type member
  obtain ⟨field, among, rfl⟩ := List.mem_map.1 member
  exact sound field among

/-- The beginning of a type keeps to what can be written. -/
theorem sound_stepType {place : Place} {purpose : Purpose} {frames : List Frame}
    (sound : Sound (draft, place)) (purposeSound : purpose.Sound)
    (framesSound : ∀ frame ∈ frames, frame.Sound) {expected : Expectation}
    (mapIsKeyword : .map ∈ expected.keywords) (fits : token.Fits expected)
    (stepped : draft.stepType purpose frames token = some following) : Sound following := by
  revert stepped
  fun_cases stepType draft purpose frames token
  case case1 name =>
    rintro ⟨⟩
    refine sound.moved ⟨⟨purposeSound, framesSound⟩, .named ?_ ?_⟩
    · intro part member
      rw [List.mem_singleton.1 member]
      exact fits.1
    · rintro first ⟨⟩ keyword isMap
      rw [List.mem_singleton.1 isMap]
      exact fits.2 .map mapIsKeyword
  case case2 =>
    rintro ⟨⟩
    exact sound.moved ⟨purposeSound, framesSound⟩
  case case3 =>
    rintro ⟨⟩
    exact sound.moved ⟨purposeSound, List.forall_mem_cons.2 ⟨trivial, framesSound⟩⟩
  case case4 =>
    rintro ⟨⟩
    exact sound.moved ⟨purposeSound, framesSound⟩
  case case5 =>
    rintro ⟨⟩

/-- What follows a declaration keeps no type. -/
theorem sound_stepAfterDecl {place : Place} (sound : Sound (draft, place)) {scope : Scope}
    (stepped : draft.stepAfterDecl scope token = some following) : Sound following := by
  revert stepped
  fun_cases stepAfterDecl draft scope token <;> rintro ⟨⟩ <;> exact sound.moved trivial

/-- A field line begins with the fields before, and a closing brace makes them a struct. -/
theorem sound_stepField {place : Place} (sound : Sound (draft, place)) {scope : Scope}
    {name : String} {before : List Field} (fields : SoundFields before)
    (stepped : draft.stepField scope name before token = some following) : Sound following := by
  revert stepped
  fun_cases stepField draft scope name before token
  case case1 =>
    rintro ⟨⟩
    exact sound.moved fields
  case case2 =>
    rintro ⟨⟩
    exact sound.add (writable_struct fields name draft.unit) trivial
  case case3 =>
    rintro ⟨⟩

/-- A finished line is one more field. -/
theorem soundFields_append {before : List Field} (fields : SoundFields before) {field : Field}
    (writable : field.type.Writable) : SoundFields (before ++ [field]) := by
  intro other member
  rcases List.mem_append.1 member with earlier | last
  · exact fields other earlier
  · rwa [List.mem_singleton.1 last]

/-- A quoted tag adds no declaration. -/
theorem decls_quotedTag (draft : Draft) (inside : List Char) :
    (draft.quotedTag inside).1.decls = draft.decls := by
  rw [quotedTag]
  split <;> rfl

/-- Behind a whole type, a declaration or a field is finished with it. -/
theorem sound_stepAfterType {place : Place} (sound : Sound (draft, place)) {type : TypeExpr}
    (writable : type.Writable) {purpose : Purpose} (purposeSound : purpose.Sound)
    (stepped : draft.stepAfterType type purpose token = some following) : Sound following := by
  revert stepped
  fun_cases stepAfterType draft type purpose token
  case case1 => rintro ⟨⟩
  case case2 scope name =>
    have added : Sound (draft.add (.alias name type draft.unit), place) :=
      sound.add (fun other member => by rwa [List.mem_singleton.1 member]) sound.place
    exact sound_stepAfterDecl added
  case case3 =>
    rintro ⟨⟩
    exact sound.moved (soundFields_append purposeSound writable)
  case case4 scope name before names inside quoted tag isQuoted =>
    rintro ⟨⟩
    refine ⟨?_, soundFields_append purposeSound writable⟩
    have decls := decls_quotedTag draft inside
    rw [isQuoted] at decls
    rw [decls]
    exact sound.decls
  case case5 =>
    exact sound_stepField sound (soundFields_append purposeSound writable)

/-- Behind a name, its path goes on, the key that it ends is kept, or the whole type is finished. -/
theorem sound_stepTypeName {purpose : Purpose} {frames : List Frame} {package : List String}
    {name : String} (sound : Sound (draft, .typeName purpose frames package name))
    (stepped : draft.stepTypeName purpose frames package name token = some following) :
    Sound following := by
  obtain ⟨⟨purposeSound, framesSound⟩, writable⟩ := sound.place
  obtain ⟨settledWritable, settledSound⟩ := writable.settle framesSound
  revert stepped
  fun_cases stepTypeName draft purpose frames package name token
  case case1 =>
    rintro ⟨⟩
    exact sound.moved ⟨⟨purposeSound, framesSound⟩, fun next isName => writable.select isName⟩
  case case2 key outer settled _ =>
    rintro ⟨⟩
    rw [settled] at settledWritable settledSound
    exact sound.moved ⟨purposeSound, List.forall_mem_cons.2
      ⟨settledWritable, (List.forall_mem_cons.1 settledSound).2⟩⟩
  case case3 => rintro ⟨⟩
  case case4 type rest _ settled _ =>
    rw [settled] at settledWritable
    exact sound_stepAfterType sound settledWritable purposeSound

/-- What every token keeps up. -/
theorem sound_step {place : Place} (sound : Sound (draft, place)) (fits : token.Fits place.expected)
    (stepped : draft.step place token = some following) : Sound following := by
  have placeSound := sound.place
  have noFields : SoundFields [] := fun _ member => by cases member
  have noFrames : ∀ frame ∈ ([] : List Frame), frame.Sound := fun _ member => by cases member
  revert stepped
  fun_cases step draft place token
  case case7 => exact sound_stepAfterDecl sound
  case case9 =>
    rintro ⟨⟩
    exact sound.moved ⟨trivial, noFrames⟩
  case case10 => exact sound_stepType sound trivial noFrames List.mem_cons_self fits
  case case11 =>
    rintro ⟨⟩
    exact sound.moved noFields
  case case12 => exact sound_stepField sound placeSound
  case case14 => exact sound_stepType sound placeSound noFrames List.mem_cons_self fits
  case case16 =>
    exact sound_stepType sound placeSound.1 placeSound.2 List.mem_cons_self fits
  case case17 | case18 | case20 =>
    rintro ⟨⟩
    exact sound.moved ⟨placeSound.1, List.forall_mem_cons.2 ⟨trivial, placeSound.2⟩⟩
  case case21 => exact sound_stepTypeName sound
  case case22 name =>
    rintro ⟨⟩
    exact sound.moved ⟨placeSound.1, placeSound.2 name fits.1⟩
  case case23 => exact sound_stepAfterDecl sound
  case case24 => rintro ⟨⟩
  -- Everywhere else the place goes on with what it keeps, or keeps nothing.
  all_goals
    rintro ⟨⟩
    exact ⟨sound.decls, placeSound⟩

/-- What every token that fits keeps up holds at the end of a run, if it holds at the beginning. -/
theorem read_induction {Kept : Draft × Place → Prop}
    (step : ∀ {draft place token following}, Kept (draft, place) → token.Fits place.expected →
      draft.step place token = some following → Kept following)
    {draft finished : Draft} {place ending : Place} (start : Kept (draft, place))
    {last text rest : List Char}
    (read : draft.read place last text = .ok (finished, ending, rest)) :
    Kept (finished, ending) := by
  fun_induction Draft.read draft place last text with
  | case1 =>
    cases read
    exact start
  | case2 => cases read
  | case3 _ _ _ _ _ _ _ next _ _ stepped inductionHypothesis =>
    exact inductionHypothesis (step start (Lexeme.next_fits next) stepped) read
  | case4 => cases read

/-- Nothing is read at first. -/
theorem sound_empty (unit : String) (place : Place) (sound : place.Sound) :
    Sound (empty unit, place) := ⟨fun _ member => (by cases member), sound⟩

/-- A finished draft holds types that can be written. -/
theorem Sound.finish {draft finished : Draft} {place : Place} (sound : Sound (draft, place))
    (finishes : draft.finish place = some finished) :
    ∀ decl ∈ finished.decls, ∀ type ∈ decl.types, type.Writable := by
  have placeSound := sound.place
  revert finishes
  fun_cases Draft.finish draft place
  case case4 declared frames package name type settled =>
    rintro ⟨⟩
    have writable := (placeSound.2.settle placeSound.1.2).1
    rw [settled] at writable
    exact (sound.add (fun other member => by rwa [List.mem_singleton.1 member]) sound.place).decls
  all_goals
    rintro ⟨⟩
    try exact sound.decls

end Draft

/-- A unit is read from a text that is read to its end, without a broken tag. -/
theorem DeclUnit.exists_run_of_parse {text name package : String} {unit : DeclUnit}
    (parsed : parse text name package = .ok unit) : ∃ draft place last done,
      (Draft.empty name).read .opening text.toList text.toList = .ok (draft, place, last) ∧
        draft.finish place = some done ∧ done.brokenTag = none ∧
        unit = ⟨name, done.package.getD package, done.decls⟩ := by
  rw [parse, Draft.ofUnit] at parsed
  split at parsed
  · cases parsed
  next done isDone =>
  split at isDone
  · cases isDone
  next draft place last read =>
  split at isDone <;> cases isDone
  next finishes =>
  split at parsed <;> cases parsed
  next unbroken => exact ⟨draft, place, last, done, read, finishes, unbroken, rfl⟩

/-- The types of a unit that is read can be written. -/
theorem DeclUnit.writable_of_parse {text name package : String} {unit : DeclUnit}
    (parsed : parse text name package = .ok unit) : ∀ type ∈ unit.types, type.Writable := by
  obtain ⟨draft, place, last, done, read, finishes, _, rfl⟩ := exists_run_of_parse parsed
  have sound := Draft.read_induction Draft.sound_step (Draft.sound_empty name .opening trivial) read
  intro type member
  obtain ⟨decl, among, inside⟩ := List.mem_flatMap.1 member
  exact sound.finish finishes decl among type inside

namespace TypeExpr

/-- A type that is read alone can be written. -/
theorem writable_of_parse {text : String} {type : TypeExpr} (parsed : parse text = .ok type) :
    type.Writable := by
  rw [parse] at parsed
  split at parsed
  · cases parsed
  · next draft place last run =>
    split at parsed
    · next whole =>
      cases parsed
      have startSound : (Place.typeStart .lone []).Sound :=
        ⟨trivial, fun _ member => by cases member⟩
      have placeSound :=
        (Draft.read_induction Draft.sound_step (Draft.sound_empty "" _ startSound) run).place
      rw [ofPlace?.eq_def] at whole
      split at whole
      · split at whole
        · next settled =>
          cases whole
          have writable := (placeSound.2.settle placeSound.1.2).1
          rwa [settled] at writable
        · cases whole
      · cases whole
    · cases parsed

/-- Is the type ever read, alone or as part of a unit? -/
def Readable (type : TypeExpr) : Prop :=
  (∃ text, parse text = .ok type) ∨
    ∃ text name package unit, DeclUnit.parse text name package = .ok unit ∧ type ∈ unit.types

/-- The types that are ever read are those that can be written. -/
theorem readable_iff (type : TypeExpr) : type.Readable ↔ type.Writable := by
  constructor
  · rintro (⟨text, parsed⟩ | ⟨text, name, package, unit, parsed, member⟩)
    · exact writable_of_parse parsed
    · exact DeclUnit.writable_of_parse parsed type member
  · intro writable
    refine .inl ⟨String.ofList type.text, writable.parse_eq ?_⟩
    rw [String.toList_ofList]
    exact type.layout_self

end TypeExpr

end DeclCodec
