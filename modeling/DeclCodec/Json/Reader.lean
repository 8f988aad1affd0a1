import DeclCodec.Json.Basic
import DeclCodec.Json.Fault
import DeclCodec.Table
import DeclCodec.Text.Hex

/-!
# Reading JSON text

The reader goes through the text once from left to right. Where it is stuck it
reports the cause together with the rest of the text at the place in question,
which is the next character for a missing delimiter, the opening quote for an
unterminated string, the backslash for an unknown escape and the `u` of an
incomplete Unicode escape.

A surrogate stands for itself in a string, as it is and as an escape; only the escapes
of a high and a low one side by side are read as the character that the two write.

Besides strict JSON the reader takes the numbers `NaN`, `Infinity` and
`-Infinity`. Of the members of an object with one name, the first decides the
place and the last the value.
-/

namespace DeclCodec.Json

/-- A cause and the rest of the text where it was met. -/
structure Stuck where
  cause : Cause
  rest : Points

/-- What a part of the reader returns: what it read and the rest of the text. -/
abbrev Reading (α : Type) := Except Stuck (α × Points)

/-- The four characters that count as blanks between tokens. -/
def isGap (point : CodePoint) : Bool :=
  point == .char ' ' || point == .char '\t' || point == .char '\n' || point == .char '\r'

/-- The text after its leading blanks. -/
def skipGaps (text : Points) : Points := text.dropWhile isGap

/-- The character of an escape of one letter. -/
def shortEscape? (c : Char) : Option Char :=
  if c = '"' then some '"'
  else if c = '\\' then some '\\'
  else if c = '/' then some '/'
  else if c = 'b' then some '\x08'
  else if c = 'f' then some '\x0c'
  else if c = 'n' then some '\n'
  else if c = 'r' then some '\r'
  else if c = 't' then some '\t'
  else none

/-- The second unit of a surrogate pair, when the text goes on with its escape. An escape at the
very end of a text is never complete. -/
def lowPartner? : Points → Option Nat
  | .char '\\' :: .char 'u' :: .char a :: .char b :: .char c :: .char d :: _ :: _ =>
    (Text.hexNumber? [a, b, c, d]).filter Text.isLowSurrogate
  | _ => none

/-- Put a code point in front of what is read after it. -/
def prepend (point : CodePoint) : Reading Points → Reading Points
  | .ok (points, rest) => .ok (point :: points, rest)
  | .error stuck => .error stuck

/-- The inside of a string up to its closing quote. `opening` is the text from the opening quote,
and `paired` tells that the next escape was already read as the second half of a pair. -/
def stringBody (opening : Points) (paired : Bool) : Points → Reading Points
  | [] => .error ⟨.unterminatedString, opening⟩
  | .char '\\' :: [] => .error ⟨.unterminatedString, opening⟩
  | .char '\\' :: .char 'u' :: .char a :: .char b :: .char c :: .char d :: rest =>
    match Text.hexNumber? [a, b, c, d], rest with
    | none, _ => .error ⟨.invalidUnicodeEscape, Text.points ['u', a, b, c, d] ++ rest⟩
    | _, [] => .error ⟨.invalidUnicodeEscape, Text.points ['u', a, b, c, d] ++ rest⟩
    | some unit, _ =>
      if paired then stringBody opening false rest
      else
        match if Text.isHighSurrogate unit then lowPartner? rest else none with
        | some low =>
          prepend (.ofNat (Text.joinSurrogates unit low)) (stringBody opening true rest)
        | none => prepend (.ofNat unit) (stringBody opening false rest)
  | .char '\\' :: point :: rest =>
    if point = .char 'u' then .error ⟨.invalidUnicodeEscape, point :: rest⟩
    else
      match point.char?.bind shortEscape? with
      | some char => prepend (.char char) (stringBody opening false rest)
      | none => .error ⟨.invalidEscape, .char '\\' :: point :: rest⟩
  | point :: rest =>
    if point = .char '"' then .ok ([], rest)
    else if point.toNat < 0x20 then .error ⟨.invalidControlCharacter, point :: rest⟩
    else prepend point (stringBody opening false rest)

/-- The string whose opening quote stands before the text. -/
def string (rest : Points) : Reading Points := stringBody (.char '"' :: rest) false rest

/-- The digits at the beginning of a text. -/
def leadingDigits : Points → List Char
  | .char c :: rest => if c.isDigit then c :: leadingDigits rest else []
  | _ => []

/-- A text after the digits at its beginning. -/
def afterDigits : Points → Points
  | .char c :: rest => if c.isDigit then afterDigits rest else .char c :: rest
  | rest => rest

/-- The digits before the point: a lone zero, or digits that begin with another one. -/
def wholeDigits? (text : Points) : Option (List Char × Points) :=
  match text with
  | .char '0' :: rest => some (['0'], rest)
  | _ => if leadingDigits text = [] then none else some (leadingDigits text, afterDigits text)

/-- The digits after a point, if the text goes on with a point and a digit. -/
def fractionDigits? : Points → Option (List Char × Points)
  | .char '.' :: rest =>
    if leadingDigits rest = [] then none else some (leadingDigits rest, afterDigits rest)
  | _ => none

/-- The sign in front of an exponent's digits. -/
def exponentSign : Points → Bool × Points
  | .char '-' :: rest => (true, rest)
  | .char '+' :: rest => (false, rest)
  | rest => (false, rest)

/-- The exponent, if the text goes on with a complete one. -/
def exponent? : Points → Option (Int × Points)
  | point :: rest =>
    if point = .char 'e' ∨ point = .char 'E' then
      let (negative, digits) := exponentSign rest
      if leadingDigits digits = [] then none
      else
        let value := Nat.ofDigitChars 10 (leadingDigits digits) 0
        some (if negative then -(value : Int) else value, afterDigits digits)
    else none
  | [] => none

/-- The number whose sign was read already. -/
def unsigned? (negative : Bool) (text : Points) : Option (Json × Points) := do
  let (whole, rest) ← wholeDigits? text
  let (fraction, rest') := (fractionDigits? rest).getD ([], rest)
  let (exponent, rest'') := (exponent? rest').getD (0, rest')
  if (fractionDigits? rest).isNone && (exponent? rest').isNone then
    let value := Nat.ofDigitChars 10 whole 0
    pure (.int (if negative then -(value : Int) else value), rest)
  else
    let coefficient := Nat.ofDigitChars 10 (whole ++ fraction) 0
    pure (.float (Binary64.ofDecimal negative coefficient (exponent - fraction.length)), rest'')

/-- A word or a number. -/
def atom (text : Points) : Reading Json :=
  match text with
  | .char 'n' :: .char 'u' :: .char 'l' :: .char 'l' :: rest => .ok (.null, rest)
  | .char 't' :: .char 'r' :: .char 'u' :: .char 'e' :: rest => .ok (.bool true, rest)
  | .char 'f' :: .char 'a' :: .char 'l' :: .char 's' :: .char 'e' :: rest => .ok (.bool false, rest)
  | .char 'N' :: .char 'a' :: .char 'N' :: rest => .ok (.float (.nan 0), rest)
  | .char 'I' :: .char 'n' :: .char 'f' :: .char 'i' :: .char 'n' :: .char 'i' :: .char 't' ::
      .char 'y' :: rest =>
    .ok (.float (.infinity false), rest)
  | .char '-' :: .char 'I' :: .char 'n' :: .char 'f' :: .char 'i' :: .char 'n' :: .char 'i' ::
      .char 't' :: .char 'y' :: rest =>
    .ok (.float (.infinity true), rest)
  | .char '-' :: rest =>
    match unsigned? true rest with
    | some reading => .ok reading
    | none => .error ⟨.expectingValue, text⟩
  | _ =>
    match unsigned? false text with
    | some reading => .ok reading
    | none => .error ⟨.expectingValue, text⟩

mutual

/-- A value at the beginning of the text. Each step into a value or on to the next entry takes one
of the steps left, of which a text needs at most two for each character and one more. -/
def value (steps : Nat) (text : Points) : Reading Json :=
  match steps with
  | 0 => .error ⟨.expectingValue, text⟩
  | steps + 1 =>
    match text with
    | .char '"' :: rest =>
      match string rest with
      | .ok (content, after) => .ok (.str content, after)
      | .error stuck => .error stuck
    | .char '[' :: rest =>
      match skipGaps rest with
      | .char ']' :: after => .ok (.list [], after)
      | first => items steps [] first
    | .char '\x7b' :: rest =>
      match skipGaps rest with
      | .char '\x7d' :: after => .ok (.object [], after)
      | first => members steps [] first
    | _ => atom text

/-- The items of a list from the next one on. -/
def items (steps : Nat) (before : List Json) (text : Points) : Reading Json :=
  match steps with
  | 0 => .error ⟨.expectingValue, text⟩
  | steps + 1 =>
    match value steps text with
    | .error stuck => .error stuck
    | .ok (item, rest) =>
      match skipGaps rest with
      | .char ']' :: after => .ok (.list (before ++ [item]), after)
      | .char ',' :: after => items steps (before ++ [item]) (skipGaps after)
      | other => .error ⟨.expectingComma, other⟩

/-- The members of an object from the next one on. -/
def members (steps : Nat) (before : List (Points × Json)) (text : Points) : Reading Json :=
  match steps with
  | 0 => .error ⟨.expectingPropertyName, text⟩
  | steps + 1 =>
    match text with
    | .char '"' :: rest =>
      match string rest with
      | .error stuck => .error stuck
      | .ok (name, rest) =>
        match skipGaps rest with
        | .char ':' :: rest =>
          match value steps (skipGaps rest) with
          | .error stuck => .error stuck
          | .ok (member, rest) =>
            match skipGaps rest with
            | .char '\x7d' :: after => .ok (.object (Table.put name member before), after)
            | .char ',' :: after => members steps (Table.put name member before) (skipGaps after)
            | other => .error ⟨.expectingComma, other⟩
        | other => .error ⟨.expectingColon, other⟩
    | other => .error ⟨.expectingPropertyName, other⟩

end

/-- The value that a whole text holds, blanks around it allowed. -/
def whole (text : Points) : Except Stuck Json :=
  match value (2 * text.length + 1) (skipGaps text) with
  | .error stuck => .error stuck
  | .ok (json, rest) =>
    match skipGaps rest with
    | [] => .ok json
    | extra => .error ⟨.extraData, extra⟩

/-- Name the place where reading a text got stuck. A surrogate takes one place like a character. -/
def Stuck.fault (text : Points) (stuck : Stuck) : Fault :=
  ⟨stuck.cause, .ofRest (text.map CodePoint.glyph) (stuck.rest.map CodePoint.glyph)⟩

/-- Read the value that decoded code points hold. -/
def parsePoints (text : Points) : Except Fault Json := (whole text).mapError (·.fault text)

/-- Read the value that a text holds. A text does not begin with a byte order mark. -/
def parse (text : Points) : Except Fault Json :=
  match text with
  | .char '\uFEFF' :: _ => .error ⟨.byteOrderMark, .start⟩
  | text => parsePoints text

/-- Read the string that the inside of a string literal denotes. -/
def unescape (inside : Points) : Except Fault Points :=
  match string (inside ++ [.char '"']) with
  | .ok (text, _) => .ok text
  | .error stuck => .error (stuck.fault (.char '"' :: (inside ++ [.char '"'])))

end DeclCodec.Json
