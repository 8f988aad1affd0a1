import DeclCodec.Number.IntText
import Mathlib.Data.List.TakeWhile
import Mathlib.Tactic.Common

/-!
# Which texts spell an integer

Groups of decimal digits, of any script, with single underscores between them spell a
natural number. With a sign in front or without, and with white space around, they
spell an integer. Exactly such texts are read as integers. White space and what
stands inside do not mix, because neither a sign nor a digit is white space.
-/

namespace DeclCodec.IntText

/-! ## Digits -/

/-- A decimal digit of some script. -/
def IsDigit (c : Char) : Prop := (Text.digitValue? c).isSome = true

/-- A group of digits, not empty. -/
def IsGroup (group : List Char) : Prop := group ≠ [] ∧ ∀ c ∈ group, IsDigit c

/-- The number that digits stand for behind digits of a value. -/
def digitsValue (before : Nat) (digits : List Char) : Nat :=
  digits.foldl (fun value c => value * 10 + (Text.digitValue? c).getD 0) before

/-- Groups of digits with single underscores between spell the number of all the digits. -/
def SpellsNumber (text : List Char) (number : Nat) : Prop :=
  ∃ group groups, text = ['_'].intercalate (group :: groups) ∧
    (∀ part ∈ group :: groups, IsGroup part) ∧
    number = digitsValue 0 (group :: groups).flatten

/-- An underscore is no digit, nor is a sign. -/
theorem IsDigit.no_mark {c : Char} (digit : IsDigit c) : c ≠ '_' ∧ c ≠ '+' ∧ c ≠ '-' := by
  refine ⟨?_, ?_, ?_⟩ <;>
  · rintro rfl
    revert digit
    unfold IsDigit
    decide

/-- A digit is read into the value before it. -/
theorem digits?_cons {c : Char} (digit : IsDigit c) (afterDigit : Bool) (value : Nat)
    (rest : List Char) : digits? afterDigit value (c :: rest) =
      digits? true (value * 10 + (Text.digitValue? c).getD 0) rest := by
  obtain ⟨worth, isWorth⟩ := Option.isSome_iff_exists.1 digit
  rw [digits?, if_neg digit.no_mark.1, isWorth]
  rfl

/-- So is a group. -/
theorem digits?_group {group : List Char} (isGroup : IsGroup group) (afterDigit : Bool)
    (value : Nat) (rest : List Char) : digits? afterDigit value (group ++ rest) =
      digits? true (digitsValue value group) rest := by
  obtain ⟨nonempty, digits⟩ := isGroup
  induction group generalizing afterDigit value with
  | nil => exact absurd rfl nonempty
  | cons c group inductionHypothesis =>
    rw [List.cons_append, digits?_cons (digits c List.mem_cons_self)]
    cases group with
    | nil => rfl
    | cons d group =>
      rw [inductionHypothesis true _ (List.cons_ne_nil d group) fun e member =>
        digits e (List.mem_cons_of_mem c member)]
      rfl

/-- Groups are read as the number of all their digits. -/
theorem digits?_groups {group : List Char} {groups : List (List Char)}
    (areGroups : ∀ part ∈ group :: groups, IsGroup part) (afterDigit : Bool) (value : Nat) :
    digits? afterDigit value (['_'].intercalate (group :: groups)) =
      some (digitsValue value (group :: groups).flatten) := by
  induction groups generalizing group afterDigit value with
  | nil =>
    have first := digits?_group (areGroups group List.mem_cons_self) afterDigit value []
    rw [List.append_nil] at first
    rw [List.intercalate_singleton, first, digits?, List.flatten_singleton]
    rfl
  | cons next groups inductionHypothesis =>
    have later := inductionHypothesis
      (fun part member => areGroups part (List.mem_cons_of_mem group member)) false
      (digitsValue value group)
    have all : (group :: next :: groups).flatten = group ++ (next :: groups).flatten :=
      List.flatten_cons
    rw [List.intercalate_cons_cons, List.append_assoc,
      digits?_group (areGroups group List.mem_cons_self), List.singleton_append, digits?,
      if_pos rfl, if_pos rfl, later, all, digitsValue, digitsValue, digitsValue, List.foldl_append]

/-- What is read are groups, of which the first may be the rest of one that has begun. -/
theorem exists_groups_of_digits? {afterDigit : Bool} {value number : Nat} {text : List Char}
    (read : digits? afterDigit value text = some number) :
    ∃ group groups, text = ['_'].intercalate (group :: groups) ∧ (∀ c ∈ group, IsDigit c) ∧
      (afterDigit = false → group ≠ []) ∧ (∀ part ∈ groups, IsGroup part) ∧
      number = digitsValue value (group :: groups).flatten := by
  fun_induction digits? afterDigit value text with
  | case1 value =>
    cases read
    exact ⟨[], [], rfl, by simp, by simp, by simp, rfl⟩
  | case2 => cases read
  | case3 value rest inductionHypothesis =>
    obtain ⟨group, groups, rfl, digits, nonempty, areGroups, rfl⟩ := inductionHypothesis read
    refine ⟨[], group :: groups, by rw [List.intercalate_cons_cons]; rfl, by simp, by simp, ?_, rfl⟩
    exact List.forall_mem_cons.2 ⟨⟨nonempty rfl, digits⟩, areGroups⟩
  | case4 => cases read
  | case5 afterDigit value c rest noUnderscore digit isDigit inductionHypothesis =>
    obtain ⟨group, groups, rfl, digits, _, areGroups, rfl⟩ := inductionHypothesis read
    refine ⟨c :: group, groups, ?_, ?_, by simp, areGroups, ?_⟩
    · cases groups with
      | nil => rw [List.intercalate_singleton, List.intercalate_singleton]
      | cons next groups =>
        rw [List.intercalate_cons_cons, List.intercalate_cons_cons]
        rfl
    · exact List.forall_mem_cons.2 ⟨Option.isSome_of_mem isDigit, digits⟩
    · simp [digitsValue, isDigit]
  | case6 => cases read

/-- Exactly the spellings of natural numbers are read as digits. -/
theorem digits?_eq_some_iff {text : List Char} {number : Nat} :
    digits? false 0 text = some number ↔ SpellsNumber text number := by
  constructor
  · intro read
    obtain ⟨group, groups, rfl, digits, nonempty, areGroups, rfl⟩ := exists_groups_of_digits? read
    exact ⟨group, groups, rfl, List.forall_mem_cons.2 ⟨⟨nonempty rfl, digits⟩, areGroups⟩, rfl⟩
  · rintro ⟨group, groups, rfl, areGroups, rfl⟩
    exact digits?_groups areGroups false 0

/-- A spelling of a natural number begins with a digit. -/
theorem SpellsNumber.exists_first {text : List Char} {number : Nat}
    (spells : SpellsNumber text number) : ∃ first rest, text = first :: rest ∧ IsDigit first := by
  obtain ⟨group, groups, rfl, areGroups, _⟩ := spells
  obtain ⟨nonempty, digits⟩ := areGroups group List.mem_cons_self
  obtain ⟨first, rest, rfl⟩ := List.exists_cons_of_ne_nil nonempty
  have isDigit := digits first List.mem_cons_self
  cases groups with
  | nil => exact ⟨first, rest, List.intercalate_singleton, isDigit⟩
  | cons next groups => exact ⟨first, _, List.intercalate_cons_cons, isDigit⟩

/-- It ends with one, too. -/
theorem SpellsNumber.exists_last {text : List Char} {number : Nat}
    (spells : SpellsNumber text number) : ∃ front last, text = front ++ [last] ∧ IsDigit last := by
  obtain ⟨group, groups, rfl, areGroups, isNumber⟩ := spells
  clear isNumber
  induction groups generalizing group with
  | nil =>
    obtain ⟨nonempty, digits⟩ := areGroups group List.mem_cons_self
    rw [List.intercalate_singleton]
    refine ⟨group.dropLast, group.getLast nonempty, ?_, digits _ (List.getLast_mem nonempty)⟩
    exact (List.dropLast_concat_getLast nonempty).symm
  | cons next groups inductionHypothesis =>
    obtain ⟨front, last, rest, isDigit⟩ :=
      inductionHypothesis next fun part member => areGroups part (List.mem_cons_of_mem group member)
    refine ⟨group ++ ['_'] ++ front, last, ?_, isDigit⟩
    rw [List.intercalate_cons_cons, rest, List.append_assoc _ front]

/-! ## Signs -/

/-- An integer is spelled by digits with a sign in front or without. -/
inductive SpellsSigned : List Char → Int → Prop
  | bare {digits : List Char} {number : Nat} (spells : SpellsNumber digits number) :
      SpellsSigned digits number
  | plus {digits : List Char} {number : Nat} (spells : SpellsNumber digits number) :
      SpellsSigned ('+' :: digits) number
  | minus {digits : List Char} {number : Nat} (spells : SpellsNumber digits number) :
      SpellsSigned ('-' :: digits) (-number)

/-- Exactly the spellings with and without a sign are read. -/
theorem signed?_eq_some_iff {text : List Char} {value : Int} :
    signed? text = some value ↔ SpellsSigned text value := by
  constructor
  · intro read
    unfold signed? at read
    split at read
    · simp only [Option.map_eq_some_iff, Option.bind_eq_bind, Option.bind_eq_some_iff] at read
      obtain ⟨_, ⟨number, spelled, same⟩, rfl⟩ := read
      cases same
      exact .minus (digits?_eq_some_iff.1 spelled)
    · simp only [Option.map_eq_some_iff, Option.bind_eq_bind, Option.bind_eq_some_iff] at read
      obtain ⟨_, ⟨number, spelled, same⟩, rfl⟩ := read
      cases same
      exact .plus (digits?_eq_some_iff.1 spelled)
    · simp only [Option.map_eq_some_iff, Option.bind_eq_bind, Option.bind_eq_some_iff] at read
      obtain ⟨_, ⟨number, spelled, same⟩, rfl⟩ := read
      cases same
      exact .bare (digits?_eq_some_iff.1 spelled)
  · intro spells
    cases spells with
    | bare spells =>
      obtain ⟨first, rest, rfl, digit⟩ := spells.exists_first
      rw [signed?.eq_3 _ (fun _ same => digit.no_mark.2.2 (List.cons.inj same).1)
        fun _ same => digit.no_mark.2.1 (List.cons.inj same).1, digits?_eq_some_iff.2 spells]
      rfl
    | plus spells =>
      rw [signed?, digits?_eq_some_iff.2 spells]
      rfl
    | minus spells =>
      rw [signed?, digits?_eq_some_iff.2 spells]
      rfl

/-! ## White space -/

/-- A digit is no white space. -/
theorem IsDigit.isPadding_eq {c : Char} (digit : IsDigit c) : isPadding c = false := by
  have apart : ∀ start ∈ Text.digitZeros, ∀ range ∈ Text.blankRanges,
      start + 10 ≤ range.1 ∨ range.2 < start := by decide
  obtain ⟨worth, isWorth⟩ := Option.isSome_iff_exists.1 digit
  unfold Text.digitValue? at isWorth
  unfold isPadding
  split at isWorth
  · next ascii =>
    split at isWorth
    · next inside =>
      simp only [Bool.and_eq_true, decide_eq_true_eq] at inside
      have low : 48 ≤ c.toNat := inside.1
      have noBlank : c ≠ ' ' := by
        rintro rfl
        exact absurd low (by decide)
      rw [if_pos ascii, beq_eq_false_iff_ne.2 noBlank, Bool.false_or, Bool.and_eq_false_iff]
      exact .inr (decide_eq_false (by omega))
    · cases isWorth
  · next beyond =>
    rw [if_neg beyond, Text.isBlank, Bool.eq_false_iff, ne_eq, Text.Ranges.contains_iff]
    rintro ⟨range, isRange, low, high⟩
    obtain ⟨start, located, _⟩ := Option.map_eq_some_iff.1 isWorth
    have inside := List.find?_some located
    simp only [Bool.and_eq_true, decide_eq_true_eq] at inside
    have isStart := List.mem_of_find?_eq_some located
    rcases apart start isStart range isRange with before | after <;> omega

/-- What begins and ends with no white space is what is left without the white space around it. -/
theorem unpadded_append {before core after : List Char}
    (paddingBefore : ∀ c ∈ before, isPadding c = true)
    (paddingAfter : ∀ c ∈ after, isPadding c = true)
    (begins : ∃ first rest, core = first :: rest ∧ isPadding first = false)
    (ends : ∃ front last, core = front ++ [last] ∧ isPadding last = false) :
    unpadded (before ++ (core ++ after)) = core := by
  have left : (before ++ (core ++ after)).dropWhile isPadding = core ++ after := by
    obtain ⟨first, rest, rfl, solid⟩ := begins
    rw [List.dropWhile_append_of_pos paddingBefore, List.cons_append,
      List.dropWhile_cons_of_neg (by rw [solid]; exact Bool.false_ne_true)]
  have right : (core ++ after).reverse.dropWhile isPadding = core.reverse := by
    obtain ⟨front, last, rfl, solid⟩ := ends
    have reversed : ∀ c ∈ after.reverse, isPadding c = true := fun c member =>
      paddingAfter c (List.mem_reverse.1 member)
    rw [List.reverse_append, List.dropWhile_append_of_pos reversed, List.reverse_append,
      List.reverse_singleton, List.singleton_append,
      List.dropWhile_cons_of_neg (by rw [solid]; exact Bool.false_ne_true)]
  rw [unpadded, left, right, List.reverse_reverse]

/-- A text is what is left of it with white space around. -/
theorem exists_padding (text : List Char) : ∃ before after,
    text = before ++ (unpadded text ++ after) ∧ (∀ c ∈ before, isPadding c = true) ∧
      ∀ c ∈ after, isPadding c = true := by
  refine ⟨text.takeWhile isPadding,
    ((text.dropWhile isPadding).reverse.takeWhile isPadding).reverse, ?_, ?_, ?_⟩
  · rw [unpadded, ← List.reverse_append, List.takeWhile_append_dropWhile, List.reverse_reverse,
      List.takeWhile_append_dropWhile]
  · exact fun c member => List.mem_takeWhile_imp member
  · exact fun c member => List.mem_takeWhile_imp (List.mem_reverse.1 member)

/-- A text spells an integer: there is a spelling in it with white space around. -/
def Spells (text : List Char) (value : Int) : Prop :=
  ∃ before core after, text = before ++ (core ++ after) ∧ (∀ c ∈ before, isPadding c = true) ∧
    (∀ c ∈ after, isPadding c = true) ∧ SpellsSigned core value

/-- A spelling begins and ends with no white space. -/
theorem SpellsSigned.solid {text : List Char} {value : Int} (spells : SpellsSigned text value) :
    (∃ first rest, text = first :: rest ∧ isPadding first = false) ∧
      ∃ front last, text = front ++ [last] ∧ isPadding last = false := by
  cases spells with
  | bare spells =>
    obtain ⟨first, rest, begins, firstDigit⟩ := spells.exists_first
    obtain ⟨front, last, ends, lastDigit⟩ := spells.exists_last
    exact ⟨⟨first, rest, begins, firstDigit.isPadding_eq⟩, front, last, ends,
      lastDigit.isPadding_eq⟩
  | plus spells =>
    obtain ⟨front, last, rfl, lastDigit⟩ := spells.exists_last
    exact ⟨⟨'+', _, rfl, by decide⟩, '+' :: front, last, rfl, lastDigit.isPadding_eq⟩
  | minus spells =>
    obtain ⟨front, last, rfl, lastDigit⟩ := spells.exists_last
    exact ⟨⟨'-', _, rfl, by decide⟩, '-' :: front, last, rfl, lastDigit.isPadding_eq⟩

/-- Exactly the spellings of integers are read as integers. -/
theorem parse?_eq_some_iff {text : List Char} {value : Int} :
    parse? text = some value ↔ Spells text value := by
  constructor
  · intro read
    obtain ⟨before, after, parts, paddingBefore, paddingAfter⟩ := exists_padding text
    exact ⟨before, unpadded text, after, parts, paddingBefore, paddingAfter,
      signed?_eq_some_iff.1 read⟩
  · rintro ⟨before, core, after, rfl, paddingBefore, paddingAfter, spells⟩
    obtain ⟨begins, ends⟩ := spells.solid
    rw [parse?, unpadded_append paddingBefore paddingAfter begins ends, signed?_eq_some_iff]
    exact spells

end DeclCodec.IntText
