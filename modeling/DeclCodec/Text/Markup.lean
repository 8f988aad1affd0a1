import DeclCodec.Text.Emoji
import DeclCodec.Text.Literal
import DeclCodec.Text.Style
import DeclCodec.Text.Styled

/-!
# Markup

In marked-up text a group in brackets is a tag if it begins with a lower-case ASCII
letter, a number sign, a slash or an at sign and holds no other opening bracket. All
other brackets stand for themselves. Of backslashes in front of a tag each pair
stands for one; if one is left over, the tag is not a tag but text.

A tag opens a style, which ends at the tag that closes it or at the end of the text.
A closing tag begins with a slash and names what it closes; if it names nothing it
closes what was opened last. Names are compared in the normal form of styles. A tag
that begins with an at sign names a handler, whose arguments have to be literal values
if it is closed.

The main statement is that a text without brackets and colons shows itself.
-/

namespace DeclCodec.Text

/-- Why marked-up text cannot be shown. -/
inductive MarkupFault
  /-- A closing tag names nothing that is open. -/
  | unopened (name : List Char)
  /-- A closing tag without a name stands where nothing is open. -/
  | nothingOpen
  /-- The arguments of a handler are not literal values. -/
  | handler (parameters : List Char)
  /-- A component of a color is not a number that can be read. -/
  | unreadableColor
  /-- A surrogate, which the screen has no way to show. -/
  | surrogate
deriving DecidableEq, Repr

/-- The words of a fault. -/
def MarkupFault.message : MarkupFault → String
  | .unopened name => "nothing of this name is open: " ++ String.ofList name
  | .nothingOpen => "nothing is open that could be closed"
  | .handler parameters => "the arguments are not literal values: " ++ String.ofList parameters
  | .unreadableColor => "a component of a color cannot be read"
  | .surrogate => "surrogates cannot be shown"

namespace Markup

/-- A part of marked-up text. -/
inductive Part
  | text (characters : List Char)
  | tag (name : List Char) (parameters : Option (List Char))
deriving DecidableEq, Repr

/-! ## Parts -/

/-- May a tag begin with this character? -/
def startsTag (c : Char) : Bool := ('a' ≤ c && c ≤ 'z') || c == '#' || c == '/' || c == '@'

/-- Does a tag go on with this character? -/
def isInTag (c : Char) : Bool := c != ']' && c != '['

/-- The inside of a tag and what follows the tag, for the text after an opening bracket. -/
def tagInside? (text : List Char) : Option (List Char × List Char) :=
  match text with
  | [] => none
  | c :: rest =>
    if startsTag c then
      match rest.dropWhile isInTag with
      | ']' :: after => some (c :: rest.takeWhile isInTag, after)
      | _ => none
    else none

/-- A tag with the backslashes in front of it. -/
structure Mark where
  backslashes : Nat
  inside : List Char
  after : List Char
deriving DecidableEq, Repr

/-- The tag at the beginning of a text, perhaps behind backslashes. -/
def mark? (text : List Char) : Option Mark :=
  match text.dropWhile (· == '\\') with
  | '[' :: rest =>
    (tagInside? rest).map fun found =>
      ⟨(text.takeWhile (· == '\\')).length, found.1, found.2⟩
  | _ => none

/-- A tag is not empty, so that what follows it is shorter. -/
theorem length_mark? {text : List Char} {mark : Mark} (found : mark? text = some mark) :
    mark.after.length < text.length := by
  unfold mark? at found
  split at found
  · rename_i rest here
    obtain ⟨parts, closed, rfl⟩ := Option.map_eq_some_iff.1 found
    have shorter := (List.dropWhile_sublist (· == '\\') (l := text)).length_le
    rw [here, List.length_cons] at shorter
    unfold tagInside? at closed
    split at closed
    · cases closed
    · rename_i c inner
      split at closed
      · split at closed
        · rename_i after tail
          cases closed
          have := (List.dropWhile_sublist isInTag (l := inner)).length_le
          rw [tail] at this
          simp only [List.length_cons] at this shorter ⊢
          omega
        · cases closed
      · cases closed
  · cases found

/-- A tag by its inside: a name and, behind an equals sign, parameters. -/
def Part.ofInside (inside : List Char) : Part :=
  .tag (beforeFirst '=' inside)
    (if '=' ∈ inside then some (afterFirst '=' inside) else none)

/-- What a tag with backslashes in front of it stands for. -/
def Mark.parts (mark : Mark) : List Part :=
  (if mark.backslashes < 2 then [] else [.text (List.replicate (mark.backslashes / 2) '\\')]) ++
    [if mark.backslashes % 2 = 1 then .text ('[' :: mark.inside ++ [']'])
      else .ofInside mark.inside]

/-- Text that has been read, backwards, as a part if there is any. -/
def pendingPart : List Char → List Part
  | [] => []
  | pending => [.text pending.reverse]

/-- The parts of the rest of a text, behind text that has been read, which is given backwards. -/
def partsAfter (pending text : List Char) : List Part :=
  match text with
  | [] => pendingPart pending
  | c :: rest =>
    match _found : mark? (c :: rest) with
    | some mark => pendingPart pending ++ mark.parts ++ partsAfter [] mark.after
    | none => partsAfter (c :: pending) rest
termination_by text.length
decreasing_by
  · exact length_mark? _found
  · simp

/-- The parts of marked-up text. -/
def parts (markup : List Char) : List Part := partsAfter [] markup

/-! ## Showing -/

/-- Text with its escaped opening brackets written plainly. -/
def plainBrackets : List Char → List Char
  | [] => []
  | '\\' :: '[' :: rest => '[' :: plainBrackets rest
  | c :: rest => c :: plainBrackets rest

/-- Is it a control character that is never shown? -/
def isHidden (c : Char) : Bool := [0x7, 0x8, 0xB, 0xC, 0xD].contains c.toNat

/-- What text outside of tags shows. -/
def shownText (text : List Char) : List Char :=
  (withEmoji (plainBrackets text)).filter fun c => !isHidden c

/-- A tag that has not been closed yet. -/
structure OpenTag where
  /-- The name in its normal form. -/
  name : List Char
  parameters : Option (List Char)
  start : Nat
deriving DecidableEq, Repr

/-- The definition of the style that a tag opens. -/
def OpenTag.definition (tag : OpenTag) : List Char :=
  match tag.parameters with
  | none => tag.name
  | some parameters => tag.name ++ ' ' :: parameters

/-- Does the tag name a handler? -/
def OpenTag.isHandler (tag : OpenTag) : Bool := tag.name.head? == some '@'

/-- The arguments in the parameters of a handler: what stands in round brackets behind a name, or
else everything. -/
def handlerArguments (parameters : List Char) : List Char :=
  let given := trim parameters
  match given.dropWhile fun c => isWord c || c == '.' with
  | [] => "()".toList
  | '(' :: rest =>
    if rest.getLast? = some ')' ∧ '\n' ∉ rest then '(' :: rest else given
  | _ => given

/-- The span of a tag that is closed at some place. -/
def OpenTag.close (tag : OpenTag) (stop : Nat) : Except MarkupFault Span :=
  if tag.isHandler then
    let parameters := tag.parameters.getD []
    if parameters = [] ∨ Literal.isLiteral (handlerArguments parameters) then
      .ok ⟨tag.start, stop, []⟩
    else .error (.handler parameters)
  else .ok ⟨tag.start, stop, tag.definition⟩

/-- What has been shown so far, and the tags that are open, the latest first. -/
structure Progress where
  shown : Styled
  openTags : List OpenTag
deriving DecidableEq, Repr

/-- The latest open tag of a name, and the others. -/
def takeOpen? (name : List Char) : List OpenTag → Option (OpenTag × List OpenTag)
  | [] => none
  | tag :: tags =>
    if tag.name = name then some (tag, tags)
    else (takeOpen? name tags).map fun found => (found.1, tag :: found.2)

/-- The normal form of the name of a tag. -/
def normalName (name : List Char) : Except MarkupFault (List Char) :=
  (Style.normalForm name).mapError fun _ => .unreadableColor

namespace Progress

/-- Add a span. -/
def cover (progress : Progress) (span : Span) (openTags : List OpenTag) : Progress :=
  ⟨{ progress.shown with spans := progress.shown.spans ++ [span] }, openTags⟩

/-- Close the tag of a name, or the latest one if there is no name. -/
def close (progress : Progress) (name : List Char) : Except MarkupFault Progress := do
  let stop := progress.shown.text.length
  if name = [] then
    match progress.openTags with
    | [] => .error .nothingOpen
    | tag :: tags => .ok (progress.cover (← tag.close stop) tags)
  else
    let name ← normalName name
    match takeOpen? name progress.openTags with
    | none => .error (.unopened name)
    | some (tag, tags) => .ok (progress.cover (← tag.close stop) tags)

/-- Go on by a part. -/
def add (progress : Progress) : Part → Except MarkupFault Progress
  | .text text =>
    .ok { progress with shown := progress.shown.append (.plain (shownText text)) }
  | .tag ('/' :: name) _ => progress.close (trim name)
  | .tag name parameters => do
    let tag : OpenTag := ⟨← normalName name, parameters, progress.shown.text.length⟩
    .ok { progress with openTags := tag :: progress.openTags }

/-- Everything has been read: what is open ends here. -/
def finish (progress : Progress) : Styled :=
  { progress.shown with
    spans := progress.shown.spans ++ progress.openTags.map fun tag =>
      ⟨tag.start, progress.shown.text.length, tag.definition⟩ }

end Progress

end Markup

/-- What marked-up text shows. -/
def Styled.ofMarkup (markup : List Char) : Except MarkupFault Styled := do
  let progress ← (Markup.parts markup).foldlM Markup.Progress.add ⟨.plain [], []⟩
  .ok progress.finish

/-- A styled text can be shown only if the definitions of its styles can be read. -/
def Styled.checkStyles (styled : Styled) : Except MarkupFault Unit :=
  if styled.spans.any fun span => Style.parse span.definition matches .error .unreadable then
    .error .unreadableColor
  else .ok ()

/-! ## Text without markup -/

/-- A text without opening brackets holds no tags. -/
theorem Markup.partsAfter_eq {pending text : List Char} (unmarked : '[' ∉ text) :
    partsAfter pending text = pendingPart (text.reverse ++ pending) := by
  induction text generalizing pending with
  | nil => rw [partsAfter]; rfl
  | cons c rest inductionHypothesis =>
    have nothing : mark? (c :: rest) = none := by
      unfold mark?
      split
      · rename_i tail here
        have inside : '[' ∈ (c :: rest).dropWhile (· == '\\') := by
          rw [here]
          exact List.mem_cons_self
        exact absurd ((List.dropWhile_sublist _).subset inside) unmarked
      · rfl
    rw [List.mem_cons, not_or] at unmarked
    rw [partsAfter]
    split
    · rename_i mark found
      rw [nothing] at found
      cases found
    · rw [inductionHypothesis unmarked.2, List.reverse_cons, List.append_assoc]
      rfl

/-- A text without opening brackets has none to write plainly. -/
theorem Markup.plainBrackets_eq {text : List Char} (unmarked : '[' ∉ text) :
    plainBrackets text = text := by
  fun_induction plainBrackets text with
  | case1 => rfl
  | case2 => simp at unmarked
  | case3 c rest _ inductionHypothesis =>
    rw [List.mem_cons, not_or] at unmarked
    rw [inductionHypothesis unmarked.2]

/-- A text without brackets, colons and hidden characters shows itself. -/
theorem Styled.ofMarkup_eq {text : List Char} (unmarked : '[' ∉ text) (uncoded : ':' ∉ text)
    (visible : ∀ c ∈ text, Markup.isHidden c = false) :
    Styled.ofMarkup text = .ok (.plain text) := by
  have shown : Markup.shownText text = text := by
    rw [Markup.shownText, Markup.plainBrackets_eq unmarked, withEmoji_eq uncoded,
      List.filter_eq_self]
    intro c inside
    simp [visible c inside]
  have parts : Markup.partsAfter [] text = Markup.pendingPart (text.reverse ++ []) :=
    Markup.partsAfter_eq unmarked
  rw [List.append_nil] at parts
  unfold Styled.ofMarkup Markup.parts
  rw [parts]
  match text with
  | [] => rfl
  | c :: rest =>
    have whole : Markup.pendingPart (c :: rest).reverse = [.text (c :: rest)] := by
      unfold Markup.pendingPart
      split
      · rename_i nothing
        simp at nothing
      · rw [List.reverse_reverse]
    rw [whole]
    simp only [List.foldlM_cons, List.foldlM_nil, Markup.Progress.add, shown]
    rfl

end DeclCodec.Text
