import DeclCodec.Proofs.Number.Range
import DeclCodec.Proofs.Number.Spellings
import DeclCodec.Proofs.Wire.MapEntries
import DeclCodec.Proofs.Wire.Shaped

/-!
# Which values a shape takes

Simple shapes are built from the classes that no declaration is behind: pointers to
them, lists of them, and maps to them from texts or integers. A simple shape takes
exactly the values that match it. Nothing at all matches every shape; an integer
matches where a number is wanted only if a finite number is near it; and under integer
keys every name has to spell an integer.

What is read has the type of the shape at every level, and it is said for each level
what becomes of nothing there.
-/

namespace DeclCodec

/-- Shapes of builtin classes, with texts or integers for keys. -/
inductive Shape.Simple : Shape → Prop
  | named {cls : Class} (builtin : cls.isBuiltin = true) : Simple (.named cls)
  | pointer {elem : Shape} (simple : Simple elem) : Simple (.pointer elem)
  | slice {elem : Shape} (simple : Simple elem) : Simple (.slice elem)
  | map {key elem : Shape} (keys : key.bare = .named .str ∨ key.bare = .named .int)
      (simple : Simple elem) : Simple (.map key elem)

/-- A name spells an integer if its characters do. -/
def SpellsInteger (name : Points) (number : Int) : Prop :=
  ∃ text, name = Text.points text ∧ IntText.Spells text number

/-- A name fits a key shape: where integers are wanted it spells one. -/
def NameFits (key : Shape) (name : Points) : Prop :=
  key.bare = .named .int → ∃ number, SpellsInteger name number

/-- A JSON value matches a shape. -/
inductive Matches : Shape → Json → Prop
  | nothing (shape : Shape) : Matches shape .null
  | bool (value : Bool) : Matches (.named .bool) (.bool value)
  | int (number : Int) : Matches (.named .int) (.int number)
  | float (number : Binary64) : Matches (.named .float) (.float number)
  | whole {number : Int} (inRange : number.natAbs < Binary64.overflow) :
      Matches (.named .float) (.int number)
  | str (text : Points) : Matches (.named .str) (.str text)
  | object (json : Json) : Matches (.named .object) json
  | raw (json : Json) : Matches (.named .raw) json
  | pointer {elem : Shape} {json : Json} (inner : Matches elem json) : Matches (.pointer elem) json
  | slice {elem : Shape} {items : List Json} (each : ∀ item ∈ items, Matches elem item) :
      Matches (.slice elem) (.list items)
  | map {key elem : Shape} {members : List (Points × Json)}
      (names : ∀ member ∈ members, NameFits key member.1)
      (each : ∀ member ∈ members, Matches elem member.2) : Matches (.map key elem) (.object members)

/-- What a key shape makes of a name. -/
inductive NameReadsAs (key : Shape) (name : Points) : Value → Prop
  | text (isText : key.bare = .named .str) : NameReadsAs key name (.str name)
  | integer (isInteger : key.bare = .named .int) {number : Int}
      (spells : SpellsInteger name number) : NameReadsAs key name (.int number)

/-- What a shape makes of a JSON value. Of members whose names are read as one key the first decides
the place and the last the value. -/
inductive ReadsAs : Shape → Json → Value → Prop
  | absent (elem : Shape) : ReadsAs (.pointer elem) .null .null
  | noItems (elem : Shape) : ReadsAs (.slice elem) .null (.list [])
  | noEntries (key elem : Shape) : ReadsAs (.map key elem) .null (.map [])
  | no : ReadsAs (.named .bool) .null (.bool false)
  | zero : ReadsAs (.named .int) .null (.int 0)
  | zeroFloat : ReadsAs (.named .float) .null (.float .zero)
  | empty : ReadsAs (.named .str) .null (.str "")
  | bool (value : Bool) : ReadsAs (.named .bool) (.bool value) (.bool value)
  | int (number : Int) : ReadsAs (.named .int) (.int number) (.int number)
  | float (number : Binary64) : ReadsAs (.named .float) (.float number) (.float number)
  | whole {number : Int} {nearest : Binary64} (rounded : Binary64.ofInt? number = some nearest) :
      ReadsAs (.named .float) (.int number) (.float nearest)
  | str (text : Points) : ReadsAs (.named .str) (.str text) (.str text)
  /-- An unrestricted value is read as it stands, so nothing as nothing. -/
  | object (json : Json) : ReadsAs (.named .object) json json.toValue
  /-- Raw text is the text of the value, which is `null` for nothing. -/
  | raw (json : Json) : ReadsAs (.named .raw) json (.raw (String.ofList json.compact))
  | pointer {elem : Shape} {json : Json} {value : Value} (present : json ≠ .null)
      (inner : ReadsAs elem json value) : ReadsAs (.pointer elem) json value
  | slice {elem : Shape} {rows : List (Json × Value)}
      (each : ∀ row ∈ rows, ReadsAs elem row.1 row.2) :
      ReadsAs (.slice elem) (.list (rows.map (·.1))) (.list (rows.map (·.2)))
  /-- The rows are the members with the entries that they are read as. -/
  | map {key elem : Shape} {rows : List ((Points × Json) × (Value × Value))}
      (names : ∀ row ∈ rows, NameReadsAs key row.1.1 row.2.1)
      (each : ∀ row ∈ rows, ReadsAs elem row.1.2 row.2.2) :
      ReadsAs (.map key elem) (.object (rows.map (·.1)))
        (.map (Table.ofEntries (rows.map (·.2))))

variable {codecs : Codecs} {key elem : Shape}

/-! ## Names -/

/-- Which integer a name spells. -/
theorem spelledInteger?_eq_some_iff {name : Points} {number : Int} :
    spelledInteger? name = some number ↔ SpellsInteger name number := by
  simp only [spelledInteger?, Option.bind_eq_some_iff, Text.chars?_eq_some_iff,
    IntText.parse?_eq_some_iff, SpellsInteger]

/-- A key shape makes of a name what is said of it. -/
theorem readKey_eq_ok_iff {name : Points} {value : Value} :
    (Value.str name).readKey key = .ok value ↔ NameReadsAs key name value := by
  constructor
  · intro read
    obtain ⟨_, named⟩ := KeyName.exists_of_readKey read
    cases named with
    | text _ isText =>
      obtain ⟨_, same, isValue⟩ := readKey_text isText read
      cases same
      cases isValue
      exact .text isText
    | integer number isInteger =>
      obtain ⟨_, spells, isValue⟩ := readKey_integer isInteger read
      cases isValue
      exact .integer isInteger (spelledInteger?_eq_some_iff.1 spells)
  · intro reads
    cases reads with
    | text isText => simp only [Value.readKey, isText, Value.textKey]
    | integer isInteger spells =>
      simp only [Value.readKey, isInteger, integerKey_str, spelledInteger?_eq_some_iff.2 spells]
      rfl

/-- A name that fits is read as a key. -/
theorem NameFits.exists_of_simple {name : Points} (fits : NameFits key name)
    (keys : key.bare = .named .str ∨ key.bare = .named .int) :
    ∃ value, NameReadsAs key name value := by
  rcases keys with isText | isInteger
  · exact ⟨_, .text isText⟩
  · obtain ⟨number, spells⟩ := fits isInteger
    exact ⟨_, .integer isInteger spells⟩

/-- A name that is read as a key fits. -/
theorem NameReadsAs.fits {name : Points} {value : Value} (reads : NameReadsAs key name value) :
    NameFits key name := by
  intro isInteger
  cases reads with
  | text isText =>
    rw [isText] at isInteger
    cases isInteger
  | integer _ spells => exact ⟨_, spells⟩

/-! ## Classes -/

/-- An integer is read as the number near it, if there is one. The rounding has a name of its own
here, lest it be computed. -/
theorem decode_float_int {nearest? : Int → Option Binary64} (rounding : Binary64.ofInt? = nearest?)
    (number : Int) : (Json.int number).toValue.decode codecs (.named .float) =
      match nearest? number with
      | some nearest => .ok (.float nearest)
      | none => .error .tooLarge := by
  rewrite [decode_named (by simp) rfl, Json.toValue, Value.accept.eq_def, rounding]
  rfl

/-- A builtin class makes of a JSON value what is said of it. -/
theorem decode_named_iff {cls : Class} (builtin : cls.isBuiltin = true) {json : Json}
    {value : Value} :
    json.toValue.decode codecs (.named cls) = .ok value ↔ ReadsAs (.named cls) json value := by
  constructor
  · intro decoded
    cases cls with
    | object =>
      rw [decode_object] at decoded
      cases decoded
      exact .object json
    | raw =>
      rw [Travels.decode_raw] at decoded
      cases decoded
      exact .raw json
    | bool => cases json <;> cases decoded <;> constructor
    | int => cases json <;> cases decoded <;> constructor
    | str => cases json <;> cases decoded <;> constructor
    | float =>
      cases json with
      | int number =>
        cases rounded : Binary64.ofInt? number with
        | none =>
          rw [decode_float_int rfl, rounded] at decoded
          cases decoded
        | some nearest =>
          rw [decode_float_int rfl, rounded] at decoded
          cases decoded
          exact .whole rounded
      | _ => cases decoded <;> constructor
    | _ => cases builtin
  · intro reads
    cases reads with
    | object json => exact decode_object json
    | raw json => exact Travels.decode_raw json
    | whole rounded => rw [decode_float_int rfl, rounded]
    | _ => rfl

/-! ## All shapes -/

/-- Nothing is read behind a pointer, and what is there as if there were none. -/
theorem decode_pointer_iff {json : Json} {value : Value} :
    json.toValue.decode codecs (.pointer elem) = .ok value ↔
      json = .null ∧ value = .null ∨
      json ≠ .null ∧ json.toValue.decode codecs elem = .ok value := by
  by_cases present : json = .null
  · subst present
    simp [Json.toValue, Value.decode, eq_comm]
  · have isThere := Json.toValue_ne_null present
    rw [Value.decode_bare codecs isThere, Shape.bare, ← Value.decode_bare codecs isThere]
    simp [present]

/-- A simple shape makes of a JSON value what is said of it. The induction is on the shape. -/
theorem Shape.Simple.decode_iff {shape : Shape} (simple : shape.Simple) {json : Json}
    {value : Value} :
    json.toValue.decode codecs shape = .ok value ↔ ReadsAs shape json value := by
  induction simple generalizing json value with
  | named builtin => exact decode_named_iff builtin
  | pointer _ inductionHypothesis =>
    rw [decode_pointer_iff, inductionHypothesis]
    constructor
    · rintro (⟨rfl, rfl⟩ | ⟨present, inner⟩)
      · exact .absent _
      · exact .pointer present inner
    · intro reads
      cases reads with
      | absent => exact .inl ⟨rfl, rfl⟩
      | pointer present inner => exact .inr ⟨present, inner⟩
  | slice _ inductionHypothesis =>
    constructor
    · intro decoded
      cases json with
      | null =>
        cases decoded
        exact .noItems _
      | list items =>
        obtain ⟨values, each, rfl⟩ := decode_list_eq_ok_iff.1 decoded
        obtain ⟨rows, rfl, rfl, reads⟩ := forall₂_iff_exists_rows.1 each
        exact .slice fun row member => inductionHypothesis.1 (reads row member)
      | _ => cases decoded
    · intro reads
      cases reads with
      | noItems => rfl
      | slice each =>
        refine decode_list_eq_ok_iff.2 ⟨_, ?_, rfl⟩
        exact forall₂_iff_exists_rows.2
          ⟨_, rfl, rfl, fun row member => inductionHypothesis.2 (each row member)⟩
  | map _ _ inductionHypothesis =>
    constructor
    · intro decoded
      cases json with
      | null =>
        cases decoded
        exact .noEntries _ _
      | object members =>
        obtain ⟨_, each, rfl⟩ := decode_object_eq_ok_iff.1 decoded
        obtain ⟨rows, rfl, rfl, reads⟩ := forall₂_iff_exists_rows.1 each
        exact .map (fun row member => readKey_eq_ok_iff.1 (reads row member).1)
          fun row member => inductionHypothesis.1 (reads row member).2
      | _ => cases decoded
    · intro reads
      cases reads with
      | noEntries => rfl
      | map names each =>
        refine decode_object_eq_ok_iff.2 ⟨_, ?_, rfl⟩
        exact forall₂_iff_exists_rows.2 ⟨_, rfl, rfl, fun row member =>
          ⟨readKey_eq_ok_iff.2 (names row member), inductionHypothesis.2 (each row member)⟩⟩

/-- A simple shape is built from builtin classes, as its keys are. -/
theorem Shape.Simple.isBuiltin {shape : Shape} (simple : shape.Simple) :
    shape.isBuiltin = true := by
  have ofBare {key : Shape} : key.bare.isBuiltin = true → key.isBuiltin = true := by
    induction key with
    | pointer elem inductionHypothesis => exact inductionHypothesis
    | _ => exact fun builtin => builtin
  induction simple with
  | named builtin => exact builtin
  | pointer _ inductionHypothesis => exact inductionHypothesis
  | slice _ inductionHypothesis => exact inductionHypothesis
  | map keys _ inductionHypothesis =>
    refine Bool.and_eq_true_iff.2 ⟨ofBare ?_, inductionHypothesis⟩
    rcases keys with isText | isInteger
    · rw [isText]
      rfl
    · rw [isInteger]
      rfl

/-- A value that is read as a shape matches it. -/
theorem ReadsAs.matches_shape {shape : Shape} {json : Json} {value : Value}
    (reads : ReadsAs shape json value) : Matches shape json := by
  induction reads with
  | bool value => exact .bool value
  | int number => exact .int number
  | float number => exact .float number
  | whole rounded =>
    exact .whole ((Binary64.ofInt?_isSome_iff _).1 (Option.isSome_of_mem rounded))
  | str text => exact .str text
  | object json => exact .object json
  | raw json => exact .raw json
  | pointer _ _ inductionHypothesis => exact .pointer inductionHypothesis
  | slice _ inductionHypothesis =>
    refine .slice fun item member => ?_
    obtain ⟨row, among, rfl⟩ := List.mem_map.1 member
    exact inductionHypothesis row among
  | map names _ inductionHypothesis =>
    refine .map (fun member held => ?_) fun member held => ?_
    · obtain ⟨row, among, rfl⟩ := List.mem_map.1 held
      exact (names row among).fits
    · obtain ⟨row, among, rfl⟩ := List.mem_map.1 held
      exact inductionHypothesis row among
  | _ => exact .nothing _

/-- A value that matches a class is read as an instance of it. -/
theorem Matches.exists_named {cls : Class} (builtin : cls.isBuiltin = true) {json : Json}
    (fits : Matches (.named cls) json) : ∃ value, ReadsAs (.named cls) json value := by
  cases fits with
  | nothing =>
    cases cls with
    | object => exact ⟨_, .object .null⟩
    | raw => exact ⟨_, .raw .null⟩
    | bool | int | float | str => exact ⟨_, by constructor⟩
    | _ => cases builtin
  | whole inRange =>
    obtain ⟨nearest, rounded⟩ :=
      Option.isSome_iff_exists.1 ((Binary64.ofInt?_isSome_iff _).2 inRange)
    exact ⟨_, .whole rounded⟩
  | object json => exact ⟨_, .object json⟩
  | raw json => exact ⟨_, .raw json⟩
  | _ => exact ⟨_, by constructor⟩

/-- A value that matches a simple shape is read as it. The induction is on the shape. -/
theorem Shape.Simple.exists_readsAs {shape : Shape} (simple : shape.Simple) {json : Json}
    (fits : Matches shape json) : ∃ value, ReadsAs shape json value := by
  induction simple generalizing json with
  | named builtin => exact fits.exists_named builtin
  | pointer _ inductionHypothesis =>
    by_cases present : json = .null
    · subst present
      exact ⟨_, .absent _⟩
    · cases fits with
      | nothing => exact absurd rfl present
      | pointer inner =>
        obtain ⟨value, reads⟩ := inductionHypothesis inner
        exact ⟨value, .pointer present reads⟩
  | slice _ inductionHypothesis =>
    cases fits with
    | nothing => exact ⟨_, .noItems _⟩
    | slice each =>
      obtain ⟨rows, rfl, reads⟩ := exists_rows fun item member =>
        inductionHypothesis (each item member)
      exact ⟨_, .slice reads⟩
  | @map key elem keys _ inductionHypothesis =>
    cases fits with
    | nothing => exact ⟨_, .noEntries _ _⟩
    | @map _ _ members names each =>
      have both : ∀ member ∈ members, ∃ row : Value × Value,
          NameReadsAs key member.1 row.1 ∧ ReadsAs elem member.2 row.2 := by
        intro member held
        obtain ⟨name, isName⟩ := (names member held).exists_of_simple keys
        obtain ⟨value, isValue⟩ := inductionHypothesis (each member held)
        exact ⟨(name, value), isName, isValue⟩
      obtain ⟨rows, rfl, reads⟩ := exists_rows both
      exact ⟨_, .map (fun row member => (reads row member).1) fun row member =>
        (reads row member).2⟩

/-- A simple shape takes exactly the values that match it. -/
theorem Shape.Simple.exists_decode_iff {shape : Shape} (simple : shape.Simple) (codecs : Codecs)
    {json : Json} :
    (∃ value, json.toValue.decode codecs shape = .ok value) ↔ Matches shape json := by
  constructor
  · rintro ⟨value, decoded⟩
    exact (simple.decode_iff.1 decoded).matches_shape
  · intro fits
    obtain ⟨value, reads⟩ := simple.exists_readsAs fits
    exact ⟨value, simple.decode_iff.2 reads⟩

end DeclCodec
