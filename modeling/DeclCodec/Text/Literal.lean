import DeclCodec.Text.Hex
import DeclCodec.Text.LineEnd
import DeclCodec.Text.Word

/-!
# Literal values

The text of a literal value is a number, a quoted text, quoted bytes, a constant, or
several literal values in round brackets (a row) or in braces (a set, or entries of a
key and a value). A number may have a sign, and a real and an imaginary number may be
added. Members of sets and keys of entries must not be sets or entries themselves,
nor rows of such.

A text is split into tokens first. Only whether it is a literal value is told.
-/

namespace DeclCodec.Text.Literal

/-- The parts of a literal value. -/
inductive Token
  | number (imaginary : Bool)
  | text
  | bytes
  | constant
  | setName
  | mark (c : Char)
  | lineEnd
deriving DecidableEq, Repr

/-! ## Numbers -/

/-- What follows digits with single underscores between them. At least one digit is needed. -/
def afterDigits? (isDigit : Char → Bool) : List Char → Option (List Char)
  | [] => none
  | [c] => if isDigit c then some [] else none
  | c :: d :: rest =>
    if isDigit c then
      if d = '_' then afterDigits? isDigit rest
      else if isDigit d then afterDigits? isDigit (d :: rest)
      else some (d :: rest)
    else none

/-- A decimal digit of ASCII. -/
def isDecimal (c : Char) : Bool := c.isDigit

/-- An octal digit. -/
def isOctal (c : Char) : Bool := '0' ≤ c && c ≤ '7'

/-- A binary digit. -/
def isBinary (c : Char) : Bool := c == '0' || c == '1'

/-- A hexadecimal digit. -/
def isHex (c : Char) : Bool := (hexValue? c).isSome

/-- The digits of a number in another base, with an underscore perhaps in front of them. -/
def afterBased? (isDigit : Char → Bool) : List Char → Option (List Char)
  | '_' :: rest => afterDigits? isDigit rest
  | text => afterDigits? isDigit text

/-- What follows the digits behind a point, if there are any. -/
def afterFraction? (text : List Char) : Option (List Char) :=
  if (text.head?.map isDecimal).getD false then afterDigits? isDecimal text else some text

/-- What follows an exponent, if there is one. -/
def afterExponent? : List Char → Option (List Char)
  | 'e' :: rest | 'E' :: rest =>
    match rest with
    | '+' :: digits | '-' :: digits => afterDigits? isDecimal digits
    | digits => afterDigits? isDecimal digits
  | text => some text

/-- The number is imaginary if a letter says so. No other letter may follow it. -/
def endNumber? : List Char → Option (Token × List Char)
  | 'j' :: rest | 'J' :: rest =>
    if (rest.head?.map isWord).getD false then none else some (.number true, rest)
  | rest => if (rest.head?.map isWord).getD false then none else some (.number false, rest)

/-- A whole number has no leading zeros, unless it is zero or imaginary. -/
def endWhole? (digits rest : List Char) : Option (Token × List Char) := do
  let result ← endNumber? rest
  let isPadded := digits.head? == some '0' && digits.any fun c => c != '0' && c != '_'
  if result.1 = .number false ∧ isPadded then none else some result

/-- A number, and what follows it. -/
def number? (text : List Char) : Option (Token × List Char) :=
  match text with
  | '0' :: 'x' :: rest | '0' :: 'X' :: rest => afterBased? isHex rest >>= endPlain?
  | '0' :: 'o' :: rest | '0' :: 'O' :: rest => afterBased? isOctal rest >>= endPlain?
  | '0' :: 'b' :: rest | '0' :: 'B' :: rest => afterBased? isBinary rest >>= endPlain?
  | '.' :: rest => do endNumber? (← afterExponent? (← afterDigits? isDecimal rest))
  | _ => do
    let rest ← afterDigits? isDecimal text
    match rest with
    | '.' :: fraction => endNumber? (← afterExponent? (← afterFraction? fraction))
    | 'e' :: _ | 'E' :: _ => endNumber? (← afterExponent? rest)
    | _ => endWhole? (text.take (text.length - rest.length)) rest
where
  /-- Nothing that could belong to the number may follow it. -/
  endPlain? (rest : List Char) : Option (Token × List Char) :=
    if (rest.head?.map isWord).getD false then none else some (.number false, rest)

/-! ## Quoted texts -/

/-- How a quotation is read. -/
structure Quotation where
  quote : Char
  /-- Does it end at three quotes, so that it can go over several lines? -/
  long : Bool
  /-- Does a backslash stand for itself? -/
  raw : Bool
  bytes : Bool
deriving DecidableEq, Repr

/-- May this stand behind a backslash? Escapes with too few digits may not, nor may names. -/
def Quotation.allowsEscape (quotation : Quotation) (c : Char) (rest : List Char) : Bool :=
  let hex (width : Nat) : Option Nat :=
    if (rest.take width).length = width then hexNumber? (rest.take width) else none
  if quotation.raw then true
  else if c = 'x' then (hex 2).isSome
  else if quotation.bytes then true
  else if c = 'u' then (hex 4).isSome
  else if c = 'U' then (hex 8).any (· < 0x110000)
  else c != 'N'

/-- What follows the end of a quotation. -/
def Quotation.after? (quotation : Quotation) : List Char → Option (List Char)
  | [] => none
  | '\\' :: [] => none
  | '\\' :: c :: rest =>
    if quotation.allowsEscape c rest && !(quotation.bytes && 0x80 ≤ c.toNat) then
      quotation.after? rest
    else none
  | c :: rest =>
    if c = quotation.quote ∧ (quotation.long = true → rest.take 2 = [c, c]) then
      some (if quotation.long then rest.drop 2 else rest)
    else if (c = '\n' && !quotation.long) || (quotation.bytes && 0x80 ≤ c.toNat) then none
    else quotation.after? rest

/-- A quotation whose quote comes first, and what follows it. -/
def quoted? (raw bytes : Bool) : List Char → Option (Token × List Char)
  | [] => none
  | quote :: rest =>
    let token : Token := if bytes then .bytes else .text
    if rest.take 2 = [quote, quote] then
      (Quotation.after? ⟨quote, true, raw, bytes⟩ (rest.drop 2)).map (token, ·)
    else (Quotation.after? ⟨quote, false, raw, bytes⟩ rest).map (token, ·)

/-- The letters in front of a quotation, and whether it is raw and whether it is of bytes. -/
def quotationKinds : List (String × Bool × Bool) :=
  [("", false, false), ("u", false, false), ("r", true, false), ("b", false, true),
    ("br", true, true), ("rb", true, true)]

/-- A word or a quotation, and what follows it. -/
def word? (text : List Char) : Option (Token × List Char) :=
  let word := String.ofList (text.takeWhile isWord)
  let rest := text.dropWhile isWord
  match rest with
  | '\'' :: _ | '"' :: _ =>
    match quotationKinds.lookup word.toLower with
    | some (raw, bytes) => quoted? raw bytes rest
    | none => none
  | _ =>
    if word ∈ ["None", "True", "False"] then some (.constant, rest)
    else if word = "set" then some (.setName, rest)
    else none

/-! ## Tokens -/

/-- How deep brackets may be nested. -/
def depthLimit : Nat := 200

/-- The tokens of a text inside so many brackets. The fuel bounds the number of tokens and gaps. -/
def tokensWithin : Nat → Nat → List Char → Option (List Token)
  | _, _, [] => some []
  | 0, _, _ :: _ => none
  | fuel + 1, depth, c :: rest =>
    if c = ' ' ∨ c = '\t' ∨ c = '\x0C' then tokensWithin fuel depth rest
    else if c = '#' then tokensWithin fuel depth (rest.dropWhile (· != '\n'))
    else if c = '\n' then
      (tokensWithin fuel depth rest).map fun later =>
        if depth = 0 then .lineEnd :: later else later
    else if c = '\\' then
      match rest with
      | '\n' :: next => tokensWithin fuel depth next
      | _ => none
    else if c = '(' ∨ c = '\x7B' then
      if depth < depthLimit then (tokensWithin fuel (depth + 1) rest).map (.mark c :: ·) else none
    else if c = ')' ∨ c = '\x7D' then (tokensWithin fuel (depth - 1) rest).map (.mark c :: ·)
    else if c = ',' ∨ c = ':' ∨ c = '+' ∨ c = '-' then
      (tokensWithin fuel depth rest).map (.mark c :: ·)
    else if c = '.' ∧ rest.take 2 = ['.', '.'] then
      (tokensWithin fuel depth (rest.drop 2)).map (.constant :: ·)
    else
      match if c.isDigit || c = '.' then number? (c :: rest) else word? (c :: rest) with
      | some (token, after) => (tokensWithin fuel depth after).map (token :: ·)
      | none => none

/-- The tokens of a text without the ends of lines around them. -/
def tokens? (text : List Char) : Option (List Token) :=
  if '\x00' ∈ text then none
  else
    (tokensWithin (text.length + 1) 0 (unifyLineEnds text)).map fun tokens =>
      ((tokens.dropWhile (· = .lineEnd)).reverse.dropWhile (· = .lineEnd)).reverse

/-! ## Values -/

/-- What is known about a value that has been read. -/
inductive Kind
  | real
  | imaginary
  /-- A real number with a sign. -/
  | signed
  /-- Any other value that can be a key. -/
  | fixed
  /-- A value that cannot be a key. -/
  | changing
deriving DecidableEq, Repr

/-- A value with a sign in front of it. -/
def Kind.sign? : Kind → Option Kind
  | .real => some .signed
  | .imaginary => some .fixed
  | _ => none

/-- The sum of two values, which have to be a real and an imaginary number. -/
def Kind.sum? : Kind → Kind → Option Kind
  | .real, .imaginary | .signed, .imaginary => some .fixed
  | _, _ => none

/-- The kind of a row. -/
def rowKind (kinds : List Kind) : Kind := if .changing ∈ kinds then .changing else .fixed

/-- The kind of a collection with such keys. -/
def keyedKind? (keys : List Kind) : Option Kind :=
  if .changing ∈ keys then none else some .changing

mutual

/-- A value without a sign, and what follows it. -/
def atom? : Nat → List Token → Option (Kind × List Token)
  | 0, _ => none
  | fuel + 1, tokens =>
    match tokens with
    | .number imaginary :: rest => some (if imaginary then .imaginary else .real, rest)
    | .constant :: rest => some (.fixed, rest)
    | .text :: rest => some (.fixed, rest.dropWhile (· = .text))
    | .bytes :: rest => some (.fixed, rest.dropWhile (· = .bytes))
    | .setName :: .mark '(' :: .mark ')' :: rest => some (.changing, rest)
    | .mark '(' :: .mark ')' :: rest => some (.fixed, rest)
    | .mark '(' :: rest => do
      match ← row? fuel rest with
      | (kinds, comma, .mark ')' :: after) =>
        match kinds, comma with
        | [kind], false => some (kind, after)
        | _, _ => some (rowKind kinds, after)
      | _ => none
    | .mark '\x7B' :: .mark '\x7D' :: rest => some (.changing, rest)
    | .mark '\x7B' :: rest => do
      let (first, next) ← sum? fuel rest
      match next with
      | .mark ':' :: value =>
        let (_, rest) ← sum? fuel value
        match ← moreEntries? fuel rest with
        | (keys, .mark '\x7D' :: after) => (keyedKind? (first :: keys)).map (·, after)
        | _ => none
      | _ =>
        match ← moreValues? fuel next with
        | (kinds, _, .mark '\x7D' :: after) => (keyedKind? (first :: kinds)).map (·, after)
        | _ => none
    | _ => none

/-- A value with a sign in front of it, perhaps. -/
def term? : Nat → List Token → Option (Kind × List Token)
  | 0, _ => none
  | fuel + 1, tokens =>
    match tokens with
    | .mark '+' :: rest | .mark '-' :: rest => do
      let (kind, after) ← atom? fuel rest
      kind.sign?.map (·, after)
    | _ => atom? fuel tokens

/-- A value or a sum of two. -/
def sum? : Nat → List Token → Option (Kind × List Token)
  | 0, _ => none
  | fuel + 1, tokens => do
    let (left, rest) ← term? fuel tokens
    match rest with
    | .mark '+' :: next | .mark '-' :: next =>
      let (right, after) ← atom? fuel next
      (left.sum? right).map (·, after)
    | _ => some (left, rest)

/-- Values with commas between them, one perhaps behind the last, and whether there are any. -/
def row? : Nat → List Token → Option (List Kind × Bool × List Token)
  | 0, _ => none
  | fuel + 1, tokens => do
    let (kind, rest) ← sum? fuel tokens
    let (kinds, comma, after) ← moreValues? fuel rest
    some (kind :: kinds, comma, after)

/-- What a row goes on with after a value. -/
def moreValues? : Nat → List Token → Option (List Kind × Bool × List Token)
  | 0, _ => none
  | fuel + 1, tokens =>
    match tokens with
    | .mark ',' :: next =>
      match next with
      | [] | .mark ')' :: _ | .mark '\x7D' :: _ => some ([], true, next)
      | _ => do
        let (kinds, _, after) ← row? fuel next
        some (kinds, true, after)
    | _ => some ([], false, tokens)

/-- What entries of a key and a value go on with after a value. -/
def moreEntries? : Nat → List Token → Option (List Kind × List Token)
  | 0, _ => none
  | fuel + 1, tokens =>
    match tokens with
    | .mark ',' :: .mark '\x7D' :: after => some ([], .mark '\x7D' :: after)
    | .mark ',' :: next => do
      let (key, rest) ← sum? fuel next
      match rest with
      | .mark ':' :: value =>
        let (_, rest) ← sum? fuel value
        let (keys, after) ← moreEntries? fuel rest
        some (key :: keys, after)
      | _ => none
    | _ => some ([], tokens)

end

/-- Is the text a literal value, or a row of them without brackets? -/
def isLiteral (text : List Char) : Bool :=
  match tokens? text with
  | none => false
  | some tokens =>
    match row? (4 * tokens.length + 4) tokens with
    | some (_, _, []) => true
    | _ => false

end DeclCodec.Text.Literal
