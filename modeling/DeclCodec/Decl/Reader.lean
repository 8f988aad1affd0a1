import DeclCodec.Decl.Token
import DeclCodec.Decl.TypeExpr
import DeclCodec.Fault
import DeclCodec.Json.Reader

/-!
# Reading declarations

The reader is a machine that takes one token after another. A `Place` says where
in a unit it stands and keeps what the unfinished declaration consists of so far;
`Place.expected` says which tokens may come next there, and `Draft.step` takes one.
A finished declaration goes to the draft of the unit.

A type expression always ends with a name, and only the token after it shows
that it has ended. So the place after a type name expects everything that may
follow a type in any context, and the token is then checked against the context
at hand. For the same reason the place after a struct's closing brace expects
what may follow in a group and what may follow outside.

A text is refused at its first token or character that cannot go on, and at its
last token when the text ends too early. The text of a quoted tag is read as a
JSON string; if it is none, the unit is refused for that only when nothing else
is wrong with it.
-/

namespace DeclCodec

/-- Where a declaration stands. -/
inductive Scope
  | top
  | group
deriving DecidableEq, Repr

/-- What a type expression is read for. `lone` is a text that is nothing but a type. -/
inductive Purpose
  | lone
  | alias (scope : Scope) (name : String)
  | field (scope : Scope) (struct : String) (before : List Field) (names : List String)
deriving DecidableEq, Repr

/-- A part of a type expression that waits for the type to its right. -/
inductive Frame
  | pointer
  | slice
  | array (length : Nat)
  | mapKey
  | mapValue (key : TypeExpr)
deriving DecidableEq, Repr

/-- Where the reader stands. -/
inductive Place
  /-- Nothing is read yet. -/
  | opening
  /-- After `package`. -/
  | packageName
  /-- Between declarations outside of groups. -/
  | between
  /-- After `type`. -/
  | declStart
  /-- After a group's opening parenthesis. -/
  | groupStart
  /-- After a declared name. -/
  | declName (scope : Scope) (name : String)
  /-- After `struct`. -/
  | structOpen (scope : Scope) (name : String)
  /-- Where a field line may begin. -/
  | fieldStart (scope : Scope) (name : String) (before : List Field)
  /-- After a field name. -/
  | fieldNames (scope : Scope) (name : String) (before : List Field) (names : List String)
  /-- After a comma between field names. -/
  | nextFieldName (scope : Scope) (name : String) (before : List Field) (names : List String)
  /-- Where a type expression or a part of one begins. -/
  | typeStart (purpose : Purpose) (frames : List Frame)
  /-- After `map`. -/
  | mapOpen (purpose : Purpose) (frames : List Frame)
  /-- After an opening bracket that begins a slice or an array. -/
  | bracket (purpose : Purpose) (frames : List Frame)
  /-- After the length of an array. -/
  | arrayClose (purpose : Purpose) (frames : List Frame) (length : Nat)
  /-- After a name in a type expression. -/
  | typeName (purpose : Purpose) (frames : List Frame) (package : List String) (name : String)
  /-- After a point in a qualified name. -/
  | selector (purpose : Purpose) (frames : List Frame) (package : List String)
  /-- After a struct's closing brace. -/
  | structEnd (scope : Scope)
deriving DecidableEq, Repr

/-- The tokens that may come next. -/
def Place.expected : Place → Expectation
  | .opening => ⟨false, [.package, .type], [], false, false⟩
  | .packageName => ⟨true, [], [], false, false⟩
  | .between => ⟨false, [.type], [], false, false⟩
  | .declStart => ⟨true, [], ['('], false, false⟩
  | .groupStart => ⟨true, [], [')'], false, false⟩
  | .declName _ _ => ⟨true, [.map, .struct], ['*', '[', '='], false, false⟩
  | .structOpen _ _ => ⟨false, [], ['\x7b'], false, false⟩
  | .fieldStart _ _ _ => ⟨true, [], ['\x7d'], false, false⟩
  | .fieldNames _ _ _ _ => ⟨true, [.map], [',', '*', '['], false, false⟩
  | .nextFieldName _ _ _ _ => ⟨true, [], [], false, false⟩
  | .typeStart _ _ => ⟨true, [.map], ['*', '['], false, false⟩
  | .mapOpen _ _ => ⟨false, [], ['['], false, false⟩
  | .bracket _ _ => ⟨false, [], [']'], true, false⟩
  | .arrayClose _ _ _ => ⟨false, [], [']'], false, false⟩
  | .typeName _ _ _ _ => ⟨true, [.type], ['.', '\x7d', ')', ']'], false, true⟩
  | .selector _ _ _ => ⟨true, [], [], false, false⟩
  | .structEnd _ => ⟨true, [.type], [')'], false, false⟩

/-- What is read of a unit so far. `brokenTag` is the first quoted tag that is no JSON string. -/
structure Draft where
  unit : String
  package : Option String
  decls : List Decl
  brokenTag : Option Json.Fault
deriving DecidableEq

namespace Draft

/-- The draft of a unit of which nothing is read. -/
def empty (unit : String) : Draft := ⟨unit, none, [], none⟩

/-- Add a finished declaration. -/
def add (draft : Draft) (decl : Decl) : Draft := { draft with decls := draft.decls ++ [decl] }

/-- The text of a quoted tag, with its fault kept if it is the first. -/
def quotedTag (draft : Draft) (inside : List Char) : Draft × Points :=
  match Json.unescape (Text.points inside) with
  | .ok text => (draft, text)
  | .error fault => ({ draft with brokenTag := draft.brokenTag.or (some fault) }, [])

end Draft

/-- Put a finished type into the parts that wait for it, up to a map that waits for its key. -/
def TypeExpr.settle (type : TypeExpr) : List Frame → TypeExpr × List Frame
  | [] => (type, [])
  | .pointer :: outer => settle (.pointer type) outer
  | .slice :: outer => settle (.slice type) outer
  | .array length :: outer => settle (.array length type) outer
  | .mapValue key :: outer => settle (.map key type) outer
  | .mapKey :: outer => (type, .mapKey :: outer)

namespace Draft

/-- Take the first token of a type expression or of a part of one. -/
def stepType (draft : Draft) (purpose : Purpose) (frames : List Frame) :
    Token → Option (Draft × Place)
  | .word name => some (draft, .typeName purpose frames [] name)
  | .keyword .map => some (draft, .mapOpen purpose frames)
  | .mark '*' => some (draft, .typeStart purpose (.pointer :: frames))
  | .mark '[' => some (draft, .bracket purpose frames)
  | _ => none

/-- Take the first token after a declaration. -/
def stepAfterDecl (draft : Draft) : Scope → Token → Option (Draft × Place)
  | .top, .keyword .type => some (draft, .declStart)
  | .group, .word name => some (draft, .declName .group name)
  | .group, .mark ')' => some (draft, .between)
  | _, _ => none

/-- Take the first token of a field line, or the closing brace. -/
def stepField (draft : Draft) (scope : Scope) (name : String) (before : List Field) :
    Token → Option (Draft × Place)
  | .word field => some (draft, .fieldNames scope name before [field])
  | .mark '\x7d' => some (draft.add (.struct name before draft.unit), .structEnd scope)
  | _ => none

/-- Take the first token after a whole type expression. -/
def stepAfterType (draft : Draft) (type : TypeExpr) : Purpose → Token → Option (Draft × Place)
  | .lone, _ => none
  | .alias scope name, token => (draft.add (.alias name type draft.unit)).stepAfterDecl scope token
  | .field scope name before names, .rawTag tag =>
    some (draft, .fieldStart scope name (before ++ [⟨names, type, some tag⟩]))
  | .field scope name before names, .quotedTag inside =>
    let (draft, tag) := draft.quotedTag inside
    some (draft, .fieldStart scope name (before ++ [⟨names, type, some tag⟩]))
  | .field scope name before names, token =>
    draft.stepField scope name (before ++ [⟨names, type, none⟩]) token

/-- Take the token after a name in a type expression. -/
def stepTypeName (draft : Draft) (purpose : Purpose) (frames : List Frame) (package : List String)
    (name : String) : Token → Option (Draft × Place)
  | .mark '.' => some (draft, .selector purpose frames (package ++ [name]))
  | token =>
    match (TypeExpr.named package name).settle frames with
    | (key, .mapKey :: outer) =>
      if token = .mark ']' then some (draft, .typeStart purpose (.mapValue key :: outer)) else none
    | (type, _) => draft.stepAfterType type purpose token

/-- Take a token, if it can stand here. -/
def step (draft : Draft) : Place → Token → Option (Draft × Place)
  | .opening, .keyword .package => some (draft, .packageName)
  | .opening, .keyword .type => some (draft, .declStart)
  | .packageName, .word name => some ({ draft with package := some name }, .between)
  | .between, .keyword .type => some (draft, .declStart)
  | .declStart, .word name => some (draft, .declName .top name)
  | .declStart, .mark '(' => some (draft, .groupStart)
  | .groupStart, token => draft.stepAfterDecl .group token
  | .declName scope name, .keyword .struct => some (draft, .structOpen scope name)
  | .declName scope name, .mark '=' => some (draft, .typeStart (.alias scope name) [])
  | .declName scope name, token => draft.stepType (.alias scope name) [] token
  | .structOpen scope name, .mark '\x7b' => some (draft, .fieldStart scope name [])
  | .fieldStart scope name before, token => draft.stepField scope name before token
  | .fieldNames scope name before names, .mark ',' =>
    some (draft, .nextFieldName scope name before names)
  | .fieldNames scope name before names, token =>
    draft.stepType (.field scope name before names) [] token
  | .nextFieldName scope name before names, .word field =>
    some (draft, .fieldNames scope name before (names ++ [field]))
  | .typeStart purpose frames, token => draft.stepType purpose frames token
  | .mapOpen purpose frames, .mark '[' => some (draft, .typeStart purpose (.mapKey :: frames))
  | .bracket purpose frames, .mark ']' => some (draft, .typeStart purpose (.slice :: frames))
  | .bracket purpose frames, .number length => some (draft, .arrayClose purpose frames length)
  | .arrayClose purpose frames length, .mark ']' =>
    some (draft, .typeStart purpose (.array length :: frames))
  | .typeName purpose frames package name, token =>
    draft.stepTypeName purpose frames package name token
  | .selector purpose frames package, .word name =>
    some (draft, .typeName purpose frames package name)
  | .structEnd scope, token => draft.stepAfterDecl scope token
  | _, _ => none

/-- The finished draft, if the text may end here. -/
def finish (draft : Draft) : Place → Option Draft
  | .opening => some draft
  | .between => some draft
  | .structEnd .top => some draft
  | .typeName (.alias .top declared) frames package name =>
    match (TypeExpr.named package name).settle frames with
    | (type, []) => some (draft.add (.alias declared type draft.unit))
    | _ => none
  | _ => none

end Draft

/-- The next thing in a text: a token with the text from it on and the text after it, the end, or
a place where no expected token stands. -/
inductive Lexeme
  | token (token : Token) (start rest : List Char)
  | ending
  | unexpected (rest : List Char)

/-- The next thing in a text, after white space and comments. -/
def Lexeme.next (expected : Expectation) (text : List Char) : Lexeme :=
  match Token.skipGaps .blank text with
  | [] => .ending
  | c :: rest =>
    match Token.scan? expected (c :: rest) with
    | some (scanned, after) => .token scanned (c :: rest) after
    | none => .unexpected (c :: rest)

/-- A token shortens the text. -/
theorem Lexeme.length_next {expected : Expectation} {text start rest : List Char} {token : Token}
    (found : Lexeme.next expected text = .token token start rest) : rest.length < text.length := by
  unfold Lexeme.next at found
  have skipped : (Token.skipGaps .blank text).length ≤ text.length :=
    Token.length_skipGaps .blank text
  split at found
  · cases found
  · rename_i c after here
    split at found
    · rename_i scanned after scan
      cases found
      have := Token.length_scan? scan
      rw [here] at skipped
      dsimp only at this
      omega
    · cases found

/-- Read to the end of a text. `last` is the text from the last token on; it is returned with what
was read, and if the reader gets stuck, the text from there on is returned instead. -/
def Draft.read (draft : Draft) (place : Place) (last text : List Char) :
    Except (List Char) (Draft × Place × List Char) :=
  match _found : Lexeme.next place.expected text with
  | .ending => .ok (draft, place, last)
  | .unexpected rest => .error rest
  | .token token start rest =>
    match draft.step place token with
    | some (draft, place) => draft.read place start rest
    | none => .error start
termination_by text.length
decreasing_by exact Lexeme.length_next _found

/-- The draft of a whole unit, or else the text from the place where it is wrong. -/
def Draft.ofUnit (unit : String) (text : List Char) : Except (List Char) Draft :=
  match (Draft.empty unit).read .opening text text with
  | .error rest => .error rest
  | .ok (draft, place, last) =>
    match draft.finish place with
    | some draft => .ok draft
    | none => .error last

/-- Read a unit. The package is the one named in the text, or else the one given. -/
def DeclUnit.parse (text name package : String) : Except Fault DeclUnit :=
  match Draft.ofUnit name text.toList with
  | .error rest => .error (.invalidDeclaration name (.ofRest text.toList rest))
  | .ok draft =>
    match draft.brokenTag with
    | some cause => .error (.invalidTagLiteral cause)
    | none => .ok ⟨name, draft.package.getD package, draft.decls⟩

/-- The type at the end of a text that is nothing but a type expression. -/
def TypeExpr.ofPlace? : Place → Option TypeExpr
  | .typeName .lone frames package name =>
    match (TypeExpr.named package name).settle frames with
    | (type, []) => some type
    | _ => none
  | _ => none

/-- Read a text that is nothing but a type expression. -/
def TypeExpr.parse (text : String) : Except Fault TypeExpr :=
  match (Draft.empty "").read (.typeStart .lone []) text.toList text.toList with
  | .error _ => .error (.invalidTypeExpr text)
  | .ok (_, place, _) =>
    match TypeExpr.ofPlace? place with
    | some type => .ok type
    | none => .error (.invalidTypeExpr text)

end DeclCodec
