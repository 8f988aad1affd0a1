import DeclCodec.Json.Basic
import DeclCodec.Number.FloatText
import DeclCodec.Text.Hex

/-!
# The text of a JSON value

Text is written in ASCII: a character outside the printable ASCII range is
escaped by its short form, if it has one, and else by its UTF-16 units. A surrogate
is a unit by itself. There are two layouts: a compact one without blanks, and an
indented one with a member or item a line.

Numbers that are not finite have the texts `NaN`, `Infinity` and `-Infinity`,
which strict JSON does not know; whoever needs strict text excludes them before.
-/

namespace DeclCodec.Json

/-- The escape of one 16-bit unit. -/
def escapeUnit (unit : Nat) : List Char := '\\' :: 'u' :: Text.hexDigits 4 unit

/-- One character inside a string literal. -/
def escapeChar (c : Char) : List Char :=
  if c = '"' then ['\\', '"']
  else if c = '\\' then ['\\', '\\']
  else if c = '\n' then ['\\', 'n']
  else if c = '\r' then ['\\', 'r']
  else if c = '\t' then ['\\', 't']
  else if c = '\x08' then ['\\', 'b']
  else if c = '\x0c' then ['\\', 'f']
  else if 0x20 ≤ c.toNat ∧ c.toNat < 0x7F then [c]
  else if c.toNat < 0x10000 then escapeUnit c.toNat
  else
    escapeUnit (Text.splitSurrogates c.toNat).1 ++ escapeUnit (Text.splitSurrogates c.toNat).2

/-- One code point inside a string literal. -/
def escapePoint : CodePoint → List Char
  | .char c => escapeChar c
  | surrogate => escapeUnit surrogate.toNat

/-- The inside of a string literal. -/
def escape (text : Points) : List Char := text.flatMap escapePoint

/-- A string literal. -/
def quote (text : Points) : List Char := '"' :: (escape text ++ ['"'])

/-- The digits of an integer. -/
def intText (value : Int) : List Char :=
  if value < 0 then '-' :: Nat.toDigits 10 value.natAbs else Nat.toDigits 10 value.natAbs

/-- The words for the numbers that are not finite; otherwise as on the wire. -/
def floatFormat : FloatFormat :=
  { FloatFormat.wire with
    infinityText := "Infinity".toList
    nanText := "NaN".toList }

/-- A list in brackets. -/
def bracketed (items : List (List Char)) : List Char := '[' :: ([','].intercalate items ++ [']'])

/-- Members in braces. -/
def braced (members : List (List Char)) : List Char :=
  '\x7b' :: ([','].intercalate members ++ ['\x7d'])

mutual

/-- The text without blanks. -/
def compact : Json → List Char
  | .null => "null".toList
  | .bool true => "true".toList
  | .bool false => "false".toList
  | .int value => intText value
  | .float value => floatFormat.write value
  | .str text => quote text
  | .list items => bracketed (compactItems items)
  | .object members => braced (compactMembers members)

/-- The texts of the items. -/
def compactItems : List Json → List (List Char)
  | [] => []
  | item :: rest => compact item :: compactItems rest

/-- The texts of the members. -/
def compactMembers : List (Points × Json) → List (List Char)
  | [] => []
  | (name, value) :: rest => (quote name ++ ':' :: compact value) :: compactMembers rest

end

/-- A line break and the blanks of a nesting depth, two for each level. -/
def lineBreak (depth : Nat) : List Char := '\n' :: List.replicate (2 * depth) ' '

/-- Entries one a line between two brackets, which stand together when there is no entry. -/
def indentedGroup (opening closing : Char) (depth : Nat) (entries : List (List Char)) : List Char :=
  match entries with
  | [] => [opening, closing]
  | _ =>
    opening :: (lineBreak (depth + 1) ++ (',' :: lineBreak (depth + 1)).intercalate entries ++
      lineBreak depth ++ [closing])

mutual

/-- The text with an entry a line, nested at a depth. -/
def indented (depth : Nat) : Json → List Char
  | .list items => indentedGroup '[' ']' depth (indentedItems (depth + 1) items)
  | .object members => indentedGroup '\x7b' '\x7d' depth (indentedMembers (depth + 1) members)
  | .null => "null".toList
  | .bool true => "true".toList
  | .bool false => "false".toList
  | .int value => intText value
  | .float value => floatFormat.write value
  | .str text => quote text

/-- The indented texts of the items. -/
def indentedItems (depth : Nat) : List Json → List (List Char)
  | [] => []
  | item :: rest => indented depth item :: indentedItems depth rest

/-- The indented texts of the members. -/
def indentedMembers (depth : Nat) : List (Points × Json) → List (List Char)
  | [] => []
  | (name, value) :: rest =>
    (quote name ++ ':' :: ' ' :: indented depth value) :: indentedMembers depth rest

end

end DeclCodec.Json
