import DeclCodec.Proofs.Json.Literals
import DeclCodec.Proofs.Json.Numbers
import Mathlib.Data.List.Basic

/-!
# Lists and objects assembled from texts

The text of a list or an object can be put together from texts that hold values,
whoever wrote them and with whatever blanks around. What the reader makes of a value
does not change if the text goes on behind it with a delimiter, nor if it may take more
steps; so each text is read inside the list or the object as it is read alone. Of
members with one name, the first decides the place and the last the value. A name is
read with its surrogate pairs joined.
-/

namespace DeclCodec.Json

open Text (points joined)

/-! ## Beginnings -/

/-- May a code point begin a value? It is no blank, no closing bracket and no byte order mark. -/
def Begins (point : CodePoint) : Prop :=
  isGap point = false ∧ point ≠ .char ']' ∧ point ≠ .char '\uFEFF'

/-- No blank is skipped in front of what is none. -/
theorem skipGaps_eq {point : CodePoint} (noGap : isGap point = false) (rest : Points) :
    skipGaps (point :: rest) = point :: rest := by
  simp [skipGaps, noGap]

/-- A digit begins a value. -/
theorem begins_of_isDigit {c : Char} (digit : c.isDigit = true) :
    Begins (.char c) ∧ c ≠ '"' ∧ c ≠ '[' ∧ c ≠ '\x7b' := by
  refine ⟨⟨?_, ?_, ?_⟩, ?_, ?_, ?_⟩
  · by_contra gap
    simp only [isGap, Bool.not_eq_false, Bool.or_eq_true, beq_iff_eq, CodePoint.char.injEq] at gap
    rcases gap with ((rfl | rfl) | rfl) | rfl <;> exact absurd digit (by decide)
  all_goals
    rintro ⟨⟩
    exact absurd digit (by decide)

/-- What is read as an atom begins no string, list or object. -/
theorem begins_of_atom {text : Points} {reading : Json × Points}
    (read : atom text = .ok reading) :
    ∃ c tail, text = .char c :: tail ∧ Begins (.char c) ∧ c ≠ '"' ∧ c ≠ '[' ∧ c ≠ '\x7b' := by
  unfold atom at read
  split at read
  case h_8 =>
    cases readUnsigned : unsigned? false text with
    | none => simp [readUnsigned] at read
    | some reading =>
      obtain ⟨c, tail, rfl, digit⟩ := begins_of_unsigned? readUnsigned
      exact ⟨c, tail, rfl, begins_of_isDigit digit⟩
  all_goals
    exact ⟨_, _, rfl, ⟨rfl, by decide, by decide⟩, by decide, by decide, by decide⟩

/-- An atom is read as a value in one step. -/
theorem value_of_atom {text : Points} {reading : Json × Points}
    (read : atom text = .ok reading) {steps : Nat} (positive : 0 < steps) :
    value steps text = .ok reading := by
  obtain ⟨c, tail, rfl, _, noQuote, noBracket, noBrace⟩ := begins_of_atom read
  obtain ⟨steps, rfl⟩ := Nat.exists_eq_succ_of_ne_zero (Nat.ne_of_gt positive)
  unfold value
  split <;> simp_all

/-- What is read as a value begins like one. -/
theorem begins_of_value {steps : Nat} {text : Points} {reading : Json × Points}
    (read : value steps text = .ok reading) :
    ∃ point tail, text = point :: tail ∧ Begins point := by
  cases steps with
  | zero => cases read
  | succ steps =>
    unfold value at read
    split at read
    case h_4 =>
      obtain ⟨c, tail, rfl, begins, _⟩ := begins_of_atom read
      exact ⟨_, tail, rfl, begins⟩
    all_goals exact ⟨_, _, rfl, rfl, by decide, by decide⟩

/-- What is read as items begins like a value. -/
theorem begins_of_items {steps : Nat} {before : List Json} {text : Points}
    {reading : Json × Points} (read : items steps before text = .ok reading) :
    ∃ point tail, text = point :: tail ∧ Begins point := by
  cases steps with
  | zero => cases read
  | succ steps =>
    rw [items] at read
    split at read
    · cases read
    · next found => exact begins_of_value found

/-- What is read as members begins with the quote of a name. -/
theorem begins_of_members {steps : Nat} {before : List (Points × Json)} {text : Points}
    {reading : Json × Points} (read : members steps before text = .ok reading) :
    ∃ tail, text = .char '"' :: tail := by
  cases steps with
  | zero => cases read
  | succ steps =>
    unfold members at read
    split at read
    · exact ⟨_, rfl⟩
    · cases read

/-! ## Texts that go on -/

/-- The blanks in front of something are skipped in a longer text as well. -/
theorem skipGaps_append {text tail : Points} {point : CodePoint}
    (begins : skipGaps text = point :: tail) (more : Points) :
    skipGaps (text ++ more) = point :: (tail ++ more) := by
  induction text with
  | nil => cases begins
  | cons first text inductionHypothesis =>
    cases gap : isGap first with
    | false =>
      rw [skipGaps_eq gap] at begins
      cases begins
      exact skipGaps_eq gap _
    | true =>
      have skips : ∀ others, skipGaps (first :: others) = skipGaps others := by
        simp [skipGaps, gap]
      rw [skips] at begins
      rw [List.cons_append, skips, inductionHypothesis begins]

/-- Blanks are skipped altogether. -/
theorem skipGaps_append_of_nil {text : Points} (nothing : skipGaps text = []) (more : Points) :
    skipGaps (text ++ more) = skipGaps more := by
  rw [skipGaps, List.dropWhile_append_of_pos (List.dropWhile_eq_nil_iff.1 nothing), skipGaps]

/-- A string that is complete has its surrogate pairs complete. -/
theorem lowPartner?_append {opening text : Points} {paired : Bool}
    {reading : Points × Points} (read : stringBody opening paired text = .ok reading)
    (more : Points) : lowPartner? (text ++ more) = lowPartner? text := by
  rw [stringBody.eq_def] at read
  split at read
  · cases read
  · cases read
  · next a b c d rest =>
    cases rest with
    | nil => split at read <;> simp_all
    | cons next rest => rfl
  · next c rest _ =>
    split at read
    · cases read
    · next noUnit => simp [lowPartner?, noUnit]
  · next c rest noEnd _ noEscape =>
    simp [lowPartner?, ne_backslash noEnd noEscape]

/-- What is read of a complete Unicode escape. -/
theorem stringBody_digits {a b c d : Char} {unit : Nat}
    (number : Text.hexNumber? [a, b, c, d] = some unit) {rest : Points} (goesOn : rest ≠ [])
    (opening : Points) (paired : Bool) :
    stringBody opening paired
        (.char '\\' :: .char 'u' :: .char a :: .char b :: .char c :: .char d :: rest) =
      if paired then stringBody opening false rest
      else
        match if Text.isHighSurrogate unit then lowPartner? rest else none with
        | some low =>
          prepend (.ofNat (Text.joinSurrogates unit low)) (stringBody opening true rest)
        | none => prepend (.ofNat unit) (stringBody opening false rest) := by
  obtain ⟨next, rest, rfl⟩ := List.exists_cons_of_ne_nil goesOn
  have equation := stringBody.eq_def opening paired
    (.char '\\' :: .char 'u' :: .char a :: .char b :: .char c :: .char d :: next :: rest)
  simp only [number] at equation
  exact equation

/-- The inside of a string is read the same in a longer text. -/
theorem stringBody_append {opening text content after : Points} {paired : Bool}
    (read : stringBody opening paired text = .ok (content, after)) (other more : Points) :
    stringBody other paired (text ++ more) = .ok (content, after ++ more) := by
  fun_induction stringBody opening paired text generalizing content after with
  | case5 a b c d rest unit number goesOn inductionHypothesis =>
    have onward : rest ++ more ≠ [] := fun ends => goesOn (List.append_eq_nil_iff.1 ends).1
    simp only [List.cons_append]
    rw [stringBody_digits number onward, if_pos rfl]
    exact inductionHypothesis read
  | case6 paired a b c d rest unit number noPair low partner goesOn inductionHypothesis =>
    rw [partner] at read
    obtain ⟨others, later, rfl⟩ := exists_of_prepend read
    have onward : rest ++ more ≠ [] := fun ends => goesOn (List.append_eq_nil_iff.1 ends).1
    simp only [List.cons_append]
    rw [stringBody_digits number onward, if_neg noPair, lowPartner?_append later, partner]
    dsimp only
    rw [inductionHypothesis later, prepend]
  | case7 paired a b c d rest unit number noPair partner goesOn inductionHypothesis =>
    rw [partner] at read
    obtain ⟨others, later, rfl⟩ := exists_of_prepend read
    have onward : rest ++ more ≠ [] := fun ends => goesOn (List.append_eq_nil_iff.1 ends).1
    simp only [List.cons_append]
    rw [stringBody_digits number onward, if_neg noPair, lowPartner?_append later, partner]
    dsimp only
    rw [inductionHypothesis later, prepend]
  | case9 paired point rest noDigits noUnit char short inductionHypothesis =>
    obtain ⟨others, later, rfl⟩ := exists_of_prepend read
    simp only [List.cons_append]
    rw [stringBody, if_neg noUnit, short]
    dsimp only
    · rw [inductionHypothesis later, prepend]
    · exact fun _ _ _ _ _ isUnit => absurd isUnit noUnit
  | case11 =>
    cases read
    simp [stringBody]
  | case13 paired point rest noEnd noDigits noEscape noQuote noControl inductionHypothesis =>
    obtain ⟨others, later, rfl⟩ := exists_of_prepend read
    rw [List.cons_append, stringBody_plain noQuote (ne_backslash noEnd noEscape) noControl,
      inductionHypothesis later, prepend]
  -- All other texts are refused.
  | _ => cases read

/-- A string is read the same in a longer text. -/
theorem string_append {text after content : Points} (read : string text = .ok (content, after))
    (more : Points) : string (text ++ more) = .ok (content, after ++ more) :=
  stringBody_append read _ _

section Numbers

variable {more : Points}

/-- The digits at the beginning are the same if no digit follows the text. -/
theorem leadingDigits_append_noDigit (noDigit : NoDigit more) (text : Points) :
    leadingDigits (text ++ more) = leadingDigits text ∧
      afterDigits (text ++ more) = afterDigits text ++ more := by
  induction text with
  | nil =>
    have noneTaken : afterDigits (points [] ++ more) = more := afterDigits_append (by simp) noDigit
    exact ⟨noDigit, noneTaken⟩
  | cons point text inductionHypothesis =>
    cases point with
    | char c =>
      cases digit : c.isDigit <;> simp [leadingDigits, afterDigits, digit, inductionHypothesis]
    | high | low => exact ⟨rfl, rfl⟩

/-- The whole part is the same if no digit follows the text. -/
theorem wholeDigits?_append_noDigit (noDigit : NoDigit more) {text after : Points}
    {whole : List Char} (read : wholeDigits? text = some (whole, after)) :
    wholeDigits? (text ++ more) = some (whole, after ++ more) := by
  obtain ⟨taken, dropped⟩ := leadingDigits_append_noDigit noDigit text
  unfold wholeDigits? at read
  split at read
  · cases read
    rfl
  · next noZero =>
    split at read
    · cases read
    · next some =>
      cases read
      cases text with
      | nil => exact absurd rfl some
      | cons point text =>
        rw [List.cons_append, wholeDigits?, ← List.cons_append, taken, dropped, if_neg some]
        rintro rest ⟨⟩
        exact noZero _ rfl

/-- The fraction is the same in front of a delimiter. -/
theorem fractionDigits?_append_delimited (delimited : Delimited more) (text : Points) :
    fractionDigits? (text ++ more) =
      (fractionDigits? text).map fun reading => (reading.1, reading.2 ++ more) := by
  cases text with
  | nil => exact delimited.fractionDigits?
  | cons point text =>
    obtain ⟨taken, dropped⟩ := leadingDigits_append_noDigit delimited.noDigit text
    by_cases isPoint : point = .char '.'
    · subst isPoint
      simp only [List.cons_append, fractionDigits?, taken, dropped]
      split <;> rfl
    · simp [fractionDigits?, isPoint]

/-- The sign of an exponent is the same in front of a delimiter. -/
theorem exponentSign_append_delimited (delimited : Delimited more) (text : Points) :
    exponentSign (text ++ more) = ((exponentSign text).1, (exponentSign text).2 ++ more) := by
  cases text with
  | nil => rcases delimited with rfl | ⟨c, tail, rfl, rfl | rfl | rfl⟩ <;> rfl
  | cons point text =>
    by_cases minus : point = .char '-'
    · subst minus
      rfl
    · by_cases plus : point = .char '+'
      · subst plus
        rfl
      · simp [exponentSign, minus, plus]

/-- The exponent is the same in front of a delimiter. -/
theorem exponent?_append_delimited (delimited : Delimited more) (text : Points) :
    exponent? (text ++ more) =
      (exponent? text).map fun reading => (reading.1, reading.2 ++ more) := by
  cases text with
  | nil => exact delimited.exponent?
  | cons point text =>
    obtain ⟨taken, dropped⟩ :=
      leadingDigits_append_noDigit delimited.noDigit (exponentSign text).2
    simp only [List.cons_append, exponent?, exponentSign_append_delimited delimited, taken, dropped]
    split
    · split <;> rfl
    · rfl

/-- A number is read the same in front of a delimiter. -/
theorem unsigned?_append (delimited : Delimited more) {negative : Bool} {text after : Points}
    {json : Json} (read : unsigned? negative text = some (json, after)) :
    unsigned? negative (text ++ more) = some (json, after ++ more) := by
  simp only [unsigned?, Option.bind_eq_bind, Option.bind_eq_some_iff] at read
  obtain ⟨⟨whole, rest⟩, isWhole, chosen⟩ := read
  rw [unsigned?, wholeDigits?_append_noDigit delimited.noDigit isWhole]
  simp only [Option.bind_eq_bind, Option.bind_some,
    fractionDigits?_append_delimited delimited]
  cases isFraction : fractionDigits? rest with
  | none =>
    rw [isFraction] at chosen
    simp only [Option.map_none, Option.getD_none, exponent?_append_delimited delimited] at chosen ⊢
    cases isExponent : exponent? rest <;> simp_all
  | some fraction =>
    rw [isFraction] at chosen
    simp only [Option.map_some, Option.getD_some, exponent?_append_delimited delimited] at chosen ⊢
    cases isExponent : exponent? fraction.2 <;> simp_all

/-- A word or number is read the same in front of a delimiter. -/
theorem atom_append (delimited : Delimited more) {text after : Points} {json : Json}
    (read : atom text = .ok (json, after)) : atom (text ++ more) = .ok (json, after ++ more) := by
  unfold atom at read
  split at read
  case h_7 =>
    split at read
    · next signed =>
      cases read
      exact atom_of_signed? (unsigned?_append delimited signed)
    · cases read
  case h_8 =>
    split at read
    · next unsigned =>
      cases read
      exact atom_of_unsigned? (unsigned?_append delimited unsigned)
    · cases read
  all_goals
    cases read
    rfl

end Numbers

/-- A part of the reader makes the same of a text that goes on with a delimiter, and with any number
of steps above. -/
def ReadsOn (read : Nat → Points → Reading Json) (steps : Nat) : Prop :=
  ∀ text json after, read steps text = .ok (json, after) → ∀ more, Delimited more →
    ∀ others, steps ≤ others → read others (text ++ more) = .ok (json, after ++ more)

section Steps

variable {steps : Nat} (ofValue : ReadsOn value steps)
  (ofItems : ∀ before, ReadsOn (fun steps => items steps before) steps)
  (ofMembers : ∀ before, ReadsOn (fun steps => members steps before) steps)

include ofItems ofMembers in
/-- A value is read the same if its items and members are. -/
theorem value_readsOn : ReadsOn value (steps + 1) := by
  intro text json after read more delimited others enough
  obtain ⟨others, rfl⟩ : ∃ fewer, others = fewer + 1 := ⟨others - 1, by omega⟩
  unfold value at read
  split at read
  · split at read
    · next inside =>
      cases read
      simp only [List.cons_append, value, string_append inside]
    · cases read
  · split at read
    · next closes =>
      cases read
      simp only [List.cons_append, value, skipGaps_append closes]
    · next notClosed =>
      obtain ⟨point, tail, begins, _⟩ := begins_of_items read
      have later := ofItems [] _ _ _ read more delimited others (by omega)
      rw [begins] at later
      simp only [List.cons_append, value, skipGaps_append begins]
      split
      · next closes =>
          exact absurd (begins.trans (by rw [(List.cons.inj closes).1])) (notClosed tail)
      · exact later
  · split at read
    · next closes =>
      cases read
      simp only [List.cons_append, value, skipGaps_append closes]
    · next notClosed =>
      obtain ⟨tail, begins⟩ := begins_of_members read
      have later := ofMembers [] _ _ _ read more delimited others (by omega)
      rw [begins] at later
      simp only [List.cons_append, value, skipGaps_append begins]
      exact later
  · exact value_of_atom (atom_append delimited read) (by omega)

include ofValue ofItems in
/-- Items are read the same if the first value and the other items are. -/
theorem items_readsOn (before : List Json) :
    ReadsOn (fun steps => items steps before) (steps + 1) := by
  intro text json after read more delimited others enough
  obtain ⟨others, rfl⟩ : ∃ fewer, others = fewer + 1 := ⟨others - 1, by omega⟩
  dsimp only at read ⊢
  unfold items at read
  split at read
  · cases read
  · next item rest isItem =>
    rw [items, ofValue _ _ _ isItem more delimited others (by omega)]
    dsimp only
    split at read
    · next closes =>
      cases read
      simp only [skipGaps_append closes]
    · next comma =>
      obtain ⟨point, tail, begins, _⟩ := begins_of_items read
      have later := ofItems _ _ _ _ read more delimited others (by omega)
      rw [begins] at later
      simp only [skipGaps_append comma, skipGaps_append begins]
      exact later
    · cases read

include ofValue ofMembers in
/-- Members are read the same if the first value and the other members are. -/
theorem members_readsOn (before : List (Points × Json)) :
    ReadsOn (fun steps => members steps before) (steps + 1) := by
  intro text json after read more delimited others enough
  obtain ⟨others, rfl⟩ : ∃ fewer, others = fewer + 1 := ⟨others - 1, by omega⟩
  dsimp only at read ⊢
  unfold members at read
  split at read
  · split at read
    · cases read
    · next name rest isName =>
      split at read
      · next colon =>
        split at read
        · cases read
        · next member rest isMember =>
          obtain ⟨point, tail, begins, _⟩ := begins_of_value isMember
          have first := ofValue _ _ _ isMember more delimited others (by omega)
          rw [begins] at first
          simp only [List.cons_append, members, string_append isName, skipGaps_append colon,
            skipGaps_append begins]
          rw [← List.cons_append, first]
          dsimp only
          split at read
          · next closes =>
            cases read
            simp only [skipGaps_append closes]
          · next comma =>
            obtain ⟨tail, begins⟩ := begins_of_members read
            have later := ofMembers _ _ _ _ read more delimited others (by omega)
            rw [begins] at later
            simp only [skipGaps_append comma, skipGaps_append begins]
            exact later
          · cases read
      · cases read
  · cases read

end Steps

/-- The reader makes the same of a text that goes on. The induction is on the steps, of which each
part of the reader has one less for the parts in it. -/
theorem readsOn (steps : Nat) :
    ReadsOn value steps ∧ (∀ before, ReadsOn (fun steps => items steps before) steps) ∧
      ∀ before, ReadsOn (fun steps => members steps before) steps := by
  induction steps with
  | zero => exact ⟨fun _ _ _ read => (by cases read), fun _ _ _ _ read => (by cases read),
      fun _ _ _ _ read => (by cases read)⟩
  | succ steps inductionHypothesis =>
    obtain ⟨ofValue, ofItems, ofMembers⟩ := inductionHypothesis
    exact ⟨value_readsOn ofItems ofMembers, items_readsOn ofValue ofItems,
      members_readsOn ofValue ofMembers⟩

/-! ## Lists and objects of texts -/

/-- A text that holds a value is read as the value in front of a delimiter, up to blanks. -/
theorem value_of_whole {text : Points} {json : Json} (holds : whole text = .ok json)
    {more : Points} (delimited : Delimited more) (steps : Nat) (enough : 2 * text.length < steps) :
    ∃ gaps, skipGaps gaps = [] ∧
      value steps (skipGaps (text ++ more)) = .ok (json, gaps ++ more) := by
  unfold whole at holds
  split at holds
  · cases holds
  · next read =>
    split at holds
    · next gaps onlyGaps =>
      cases holds
      obtain ⟨point, tail, begins, _⟩ := begins_of_value read
      have later := (readsOn _).1 _ _ _ read more delimited steps enough
      rw [begins] at later
      rw [skipGaps_append begins]
      exact ⟨_, onlyGaps, later⟩
    · cases holds

/-- A text that holds a value begins, blanks aside, like one. -/
theorem begins_of_whole {text : Points} {json : Json} (holds : whole text = .ok json) :
    ∃ point tail, skipGaps text = point :: tail ∧ Begins point := by
  unfold whole at holds
  split at holds
  · cases holds
  · next read => exact begins_of_value read

/-- A member of an object: a text behind its name. -/
def memberText (name : Points) (text : List Char) : List Char := quote name ++ ':' :: text

/-- A member is longer than its text. -/
theorem length_lt_memberText (name : Points) (text : List Char) :
    text.length < (memberText name text).length := by
  simp only [memberText, List.length_append, List.length_cons]
  omega

/-- A name and a text that holds a value are read as a member, which is put with the members before
it. What follows decides how the reader goes on. -/
theorem members_of_whole {text : List Char} {json : Json} (holds : whole (points text) = .ok json)
    {more : Points} (delimited : Delimited more) (name : Points) (before : List (Points × Json))
    {steps : Nat} (enough : 2 * text.length < steps) :
    members (steps + 1) before (points (memberText name text) ++ more) =
      match skipGaps more with
      | .char '\x7d' :: after => .ok (.object (Table.put (joined name) json before), after)
      | .char ',' :: after => members steps (Table.put (joined name) json before) (skipGaps after)
      | other => .error ⟨.expectingComma, other⟩ := by
  obtain ⟨gaps, onlyGaps, read⟩ :=
    value_of_whole holds delimited steps (by rwa [Text.length_points])
  have noGap : isGap (.char ':') = false := rfl
  have literal : points (memberText name text) ++ more =
      .char '"' :: (points (escape name) ++ .char '"' :: (.char ':' :: (points text ++ more))) := by
    simp [memberText, quote]
  have equation := members.eq_def (steps + 1) before
    (.char '"' :: (points (escape name) ++ .char '"' :: (.char ':' :: (points text ++ more))))
  simp only [string_quote, skipGaps_eq noGap, read, skipGaps_append_of_nil onlyGaps] at equation
  rw [literal]
  exact equation

section Rows

variable {ρ : Type} (name : ρ → Points) (text : ρ → List Char) (json : ρ → Json)

/-- Texts that hold values are read, with commas between and a closing bracket, one after
another. -/
theorem items_of_wholes {row : ρ} {others : List ρ}
    (hold : ∀ each ∈ row :: others, whole (points (text each)) = .ok (json each))
    (before : List Json) (rest : Points) (steps : Nat)
    (enough : 2 * ([','].intercalate ((row :: others).map text)).length + 1 < steps) :
    items steps before
        (skipGaps (points ([','].intercalate ((row :: others).map text)) ++ .char ']' :: rest)) =
      .ok (.list (before ++ (row :: others).map json), rest) := by
  induction others generalizing row before steps with
  | nil =>
    simp only [List.map_cons, List.map_nil, List.intercalate_singleton] at enough ⊢
    obtain ⟨steps, rfl⟩ : ∃ fewer, steps = fewer + 1 := ⟨steps - 1, by omega⟩
    have delimited : Delimited (.char ']' :: rest) := .inr ⟨_, _, rfl, .inr (.inl rfl)⟩
    obtain ⟨gaps, onlyGaps, read⟩ := value_of_whole (hold row List.mem_cons_self) delimited steps
      (by rw [Text.length_points]; omega)
    rw [items, read]
    simp only [skipGaps_append_of_nil onlyGaps,
      skipGaps_eq (show isGap (.char ']') = false from rfl)]
  | cons next others inductionHypothesis =>
    have split : [','].intercalate ((row :: next :: others).map text) =
        text row ++ ',' :: [','].intercalate ((next :: others).map text) := by
      simp only [List.map_cons, List.intercalate_cons_cons, List.append_assoc,
        List.singleton_append]
    rw [split] at enough ⊢
    simp only [List.length_append, List.length_cons] at enough
    obtain ⟨steps, rfl⟩ : ∃ fewer, steps = fewer + 1 := ⟨steps - 1, by omega⟩
    have later := inductionHypothesis (fun each member => hold each (List.mem_cons_of_mem _ member))
      (before ++ [json row]) steps (by omega)
    rw [Text.points_append, Text.points_cons, List.append_assoc, List.cons_append]
    have delimited : Delimited (.char ',' ::
        (points ([','].intercalate ((next :: others).map text)) ++ .char ']' :: rest)) :=
      .inr ⟨_, _, rfl, .inl rfl⟩
    obtain ⟨gaps, onlyGaps, read⟩ := value_of_whole (hold row List.mem_cons_self) delimited steps
      (by rw [Text.length_points]; omega)
    rw [items, read]
    simp only [skipGaps_append_of_nil onlyGaps,
      skipGaps_eq (show isGap (.char ',') = false from rfl)]
    rw [later, List.append_assoc]
    rfl

/-- Members with commas between begin with the quote of a name. -/
theorem begins_assembled (row : ρ) (others : List ρ) :
    ∃ tail, [','].intercalate ((row :: others).map fun each => memberText (name each) (text each)) =
      '"' :: tail := by
  cases others <;>
    simp [List.intercalate_cons_cons, memberText, quote]

/-- Members whose texts hold values are read, with commas between and a closing brace, one after
another. -/
theorem members_of_wholes {row : ρ} {others : List ρ}
    (hold : ∀ each ∈ row :: others, whole (points (text each)) = .ok (json each))
    (before : List (Points × Json)) (rest : Points) (steps : Nat)
    (enough : 2 * ([','].intercalate ((row :: others).map fun each =>
      memberText (name each) (text each))).length < steps) :
    members steps before (points ([','].intercalate ((row :: others).map fun each =>
        memberText (name each) (text each))) ++ .char '\x7d' :: rest) =
      .ok (.object (((row :: others).map fun each => (joined (name each), json each)).foldl
        (fun table entry => Table.put entry.1 entry.2 table) before), rest) := by
  induction others generalizing row before steps with
  | nil =>
    have shorter := length_lt_memberText (name row) (text row)
    simp only [List.map_cons, List.map_nil, List.intercalate_singleton] at enough ⊢
    obtain ⟨steps, rfl⟩ : ∃ fewer, steps = fewer + 1 := ⟨steps - 1, by omega⟩
    rw [members_of_whole (hold row List.mem_cons_self) (.inr ⟨_, _, rfl, .inr (.inr rfl)⟩) _ before
      (by omega)]
    simp only [skipGaps_eq (show isGap (.char '\x7d') = false from rfl)]
    rfl
  | cons next others inductionHypothesis =>
    obtain ⟨tail, begins⟩ := begins_assembled name text next others
    have split : [','].intercalate ((row :: next :: others).map fun each =>
        memberText (name each) (text each)) = memberText (name row) (text row) ++
          ',' :: [','].intercalate ((next :: others).map fun each =>
            memberText (name each) (text each)) := by
      simp only [List.map_cons, List.intercalate_cons_cons, List.append_assoc,
        List.singleton_append]
    have shorter := length_lt_memberText (name row) (text row)
    rw [split] at enough ⊢
    simp only [List.length_append, List.length_cons] at enough
    obtain ⟨steps, rfl⟩ : ∃ fewer, steps = fewer + 1 := ⟨steps - 1, by omega⟩
    have later := inductionHypothesis (fun each member => hold each (List.mem_cons_of_mem _ member))
      (Table.put (joined (name row)) (json row) before) steps (by omega)
    rw [Text.points_append, Text.points_cons, List.append_assoc, List.cons_append,
      members_of_whole (hold row List.mem_cons_self) (.inr ⟨_, _, rfl, .inl rfl⟩) _ before
        (by omega)]
    rw [begins, Text.points_cons, List.cons_append] at later ⊢
    simp only [skipGaps_eq (show isGap (.char ',') = false from rfl),
      skipGaps_eq (show isGap (.char '"') = false from rfl), later]
    rfl

/-- The text of a list put together from texts that hold values holds the list of the values. -/
theorem whole_bracketed {rows : List ρ}
    (hold : ∀ row ∈ rows, whole (points (text row)) = .ok (json row)) :
    whole (points (bracketed (rows.map text))) = .ok (.list (rows.map json)) := by
  have noGap : skipGaps (points (bracketed (rows.map text))) = points (bracketed (rows.map text)) :=
    skipGaps_eq rfl _
  have read : value (2 * (points (bracketed (rows.map text))).length + 1)
      (points (bracketed (rows.map text))) = .ok (.list (rows.map json), []) := by
    cases rows with
    | nil => rfl
    | cons row others =>
      have inside := items_of_wholes text json hold [] []
        (2 * (points (bracketed ((row :: others).map text))).length)
        (by simp only [bracketed, Text.length_points, List.length_cons, List.length_append]; omega)
      obtain ⟨point, tail, begins, _, noBracket, _⟩ := begins_of_items inside
      rw [begins] at inside
      rw [bracketed, Text.points_cons, Text.points_append] at inside ⊢
      rw [value]
      change skipGaps (_ ++ points [']']) = _ at begins
      rw [begins]
      split
      · next closes => exact absurd (List.cons.inj closes).1 noBracket
      · exact inside
  rw [whole, noGap, read]
  rfl

/-- The text of an object put together from texts that hold values holds the object of the values,
under the names with their pairs joined. -/
theorem whole_braced {rows : List ρ}
    (hold : ∀ row ∈ rows, whole (points (text row)) = .ok (json row)) :
    whole (points (braced (rows.map fun row => memberText (name row) (text row)))) =
      .ok (.object (Table.ofEntries (rows.map fun row => (joined (name row), json row)))) := by
  generalize assembled : points (braced (rows.map fun row => memberText (name row) (text row))) =
    content
  have noGap : skipGaps content = content := by
    subst assembled
    exact skipGaps_eq rfl _
  have read : value (2 * content.length + 1) content =
      .ok (.object (Table.ofEntries (rows.map fun row => (joined (name row), json row))), []) := by
    subst assembled
    cases rows with
    | nil => rfl
    | cons row others =>
      obtain ⟨tail, begins⟩ := begins_assembled name text row others
      have inside := members_of_wholes name text json hold [] []
        (2 * (points (braced ((row :: others).map fun row =>
          memberText (name row) (text row)))).length)
        (by simp only [braced, Text.length_points, List.length_cons, List.length_append]; omega)
      simp only [braced, Text.points_cons, Text.points_append, value] at inside ⊢
      rw [begins, Text.points_cons, List.cons_append] at inside ⊢
      rw [skipGaps_eq rfl]
      exact inside
  rw [whole, noGap, read]
  rfl

/-- A text that does not begin with a byte order mark is parsed to what it holds. -/
theorem parse_of_whole {text : Points} {json : Json} (holds : whole text = .ok json)
    (noMark : ∀ rest, text ≠ .char '\uFEFF' :: rest) : parse text = .ok json := by
  rw [parse, parsePoints, holds]
  · rfl
  · exact noMark

/-- The text of an object put together from parsed texts is parsed to the object of the values,
under the names with their pairs joined. -/
theorem parse_assembled {rows : List ρ}
    (hold : ∀ row ∈ rows, parse (points (text row)) = .ok (json row)) :
    parse (points (braced (rows.map fun row => memberText (name row) (text row)))) =
      .ok (.object (Table.ofEntries (rows.map fun row => (joined (name row), json row)))) :=
  parse_of_whole (whole_braced name text json fun row member => whole_of_parse (hold row member))
    fun _ same => by cases same

end Rows

end DeclCodec.Json
