import DeclCodec.Text.EmojiNames
import DeclCodec.Text.Hex
import DeclCodec.Text.LowerCase
import DeclCodec.Text.Split

/-!
# Emoji codes

The name of an emoji between two colons stands for the emoji. Case does not matter.
A name may end with a dash and the word `text` or `emoji`; the emoji is then
followed by the selector of that form. A name that nothing is known of stands for
itself, colons included, and the search goes on behind it.
-/

namespace DeclCodec.Text

/-- The characters of code points that are written with dashes between them. -/
def charsOfCodes? (codes : List Char) : Option (List Char) :=
  (splitAt '-' codes).mapM fun digits => (hexNumber? digits).map Char.ofNat

/-- Names and emoji from words by turns. -/
def emojiEntries : List (List Char) → List (List Char × List Char)
  | name :: codes :: rest => (name, (charsOfCodes? codes).getD []) :: emojiEntries rest
  | _ => []

/-- The emoji under their names. -/
def emojiTable : List (List Char × List Char) := emojiEntries (words emojiNames.toList)

/-- The emoji of a name. -/
def emoji? (name : List Char) : Option (List Char) := emojiTable.lookup (lowerCase name)

/-- The ends of names that ask for a form, and the selectors of the forms. -/
def emojiForms : List (List Char × Char) :=
  [("-text".toList, '\uFE0E'), ("-emoji".toList, '\uFE0F')]

/-- What the text between two colons stands for. -/
def emojiOfCode? (code : List Char) : Option (List Char) :=
  match emojiForms.find? fun form => form.1.isSuffixOf code with
  | some (ending, selector) =>
    (emoji? (code.take (code.length - ending.length))).map (· ++ [selector])
  | none => emoji? code

/-- May the character stand in a code? -/
def isInCode (c : Char) : Bool := c != ':' && !isBlank c

/-- The text up to the next colon and the text after it, if no white space stands before it. -/
def untilColon? (text : List Char) : Option (List Char × List Char) :=
  match text.dropWhile isInCode with
  | ':' :: after => some (text.takeWhile isInCode, after)
  | _ => none

/-- The two parts are the text without the colon between them. -/
theorem eq_of_untilColon? {text : List Char} {parts : List Char × List Char}
    (found : untilColon? text = some parts) : text = parts.1 ++ ':' :: parts.2 := by
  unfold untilColon? at found
  split at found
  · rename_i after here
    cases found
    rw [← here, List.takeWhile_append_dropWhile]
  · cases found

/-- A text with emoji in place of their codes. -/
def withEmoji (text : List Char) : List Char :=
  match text with
  | [] => []
  | c :: rest =>
    if c = ':' then
      match _found : untilColon? rest with
      | some (code, after) =>
        (emojiOfCode? code).getD (':' :: code ++ [':']) ++ withEmoji after
      | none => ':' :: withEmoji rest
    else c :: withEmoji rest
termination_by text.length
decreasing_by
  · have whole := congrArg List.length (eq_of_untilColon? _found)
    simp only [List.length_append, List.length_cons] at whole ⊢
    omega
  · simp
  · simp

/-- A text without colons stays as it is. -/
theorem withEmoji_eq {text : List Char} (plain : ':' ∉ text) : withEmoji text = text := by
  induction text with
  | nil => simp [withEmoji]
  | cons c rest inductionHypothesis =>
    rw [List.mem_cons, not_or] at plain
    rw [withEmoji, if_neg (Ne.symm plain.1), inductionHypothesis plain.2]

end DeclCodec.Text
