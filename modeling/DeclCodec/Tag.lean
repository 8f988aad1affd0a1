import DeclCodec.Fault
import DeclCodec.Json.Reader
import DeclCodec.Text.Blank
import DeclCodec.Text.Enclosed
import DeclCodec.Text.Split

/-!
# Struct tags

A tag holds pairs `key:"value"`. A key is a longest run of characters other than
white space, colons and quotes, and the pair needs the colon and the opening
quote right after it. The value ends at the first quote that no backslash
escapes, and is read as the inside of a JSON string. What is not part of a pair
is passed over. A surrogate is as good as any character.

A value is in turn a name and flags, separated by commas.
-/

namespace DeclCodec.Tag

/-- A code point that a key may hold. -/
def isKeyPart (point : CodePoint) : Bool :=
  !(point.char?.any Text.isBlank) && point != .char ':' && point != .char '"'

/-- The value that goes on a text right after a key. -/
def valueAfterKey? : Points → Option (Points × Points)
  | .char ':' :: .char '"' :: rest => Text.enclosed? true rest
  | _ => none

/-- A value shortens the text. -/
theorem length_valueAfterKey? {text : Points} {tail : Points × Points}
    (closed : valueAfterKey? text = some tail) : tail.2.length < text.length := by
  unfold valueAfterKey? at closed
  split at closed
  · have := Text.length_enclosed? closed
    simp only [List.length_cons]
    omega
  · cases closed

/-- The pairs of a tag, each a key and the inside of its value. -/
def pairs (text : Points) : List (Points × Points) :=
  match text with
  | [] => []
  | point :: rest =>
    if isKeyPart point then
      match _found : valueAfterKey? (rest.dropWhile isKeyPart) with
      | some (inside, after) => (point :: rest.takeWhile isKeyPart, inside) :: pairs after
      | none => pairs (rest.dropWhile isKeyPart)
    else pairs rest
termination_by text.length
decreasing_by
  · have shorter : after.length < _ := length_valueAfterKey? _found
    have := (List.dropWhile_sublist isKeyPart (l := rest)).length_le
    simp only [List.length_cons]
    omega
  · have := (List.dropWhile_sublist isKeyPart (l := rest)).length_le
    simp only [List.length_cons]
    omega
  · simp

/-- The value of the first pair with a key; empty if there is none. -/
def lookup (tag : Option Points) (key : Points) : Except Fault Points :=
  match (pairs (tag.getD [])).lookup key with
  | some inside => (Json.unescape inside).mapError .invalidTagValue
  | none => .ok []

/-- The name in a value: what stands before the first comma. -/
def name (value : Points) : Points := Text.beforeFirst (.char ',') value

/-- The flags in a value: what stands after the first comma, split at the others. -/
def flags (value : Points) : List Points :=
  match Text.afterFirst (.char ',') value with
  | [] => []
  | rest => Text.splitAt (.char ',') rest

end DeclCodec.Tag
