import DeclCodec.Number.IntText
import DeclCodec.Text.LowerCase
import DeclCodec.Text.Split

/-!
# Styles

The definition of a style is a row of words: attributes, attributes taken back with
`not`, a color, a color of the background after `on`, and a link. A later word
overrides an earlier one. A color is a name, six hexadecimal digits, a number, or
three components.

Definitions that mean the same style have the same normal form: attributes in their
fixed order, then the colors, then the link. A text that defines no style is its own
normal form but for case and the white space around it.
-/

namespace DeclCodec.Text

/-- Why a text defines no style. -/
inductive StyleFault
  /-- A word is not understood. -/
  | unknown
  /-- A component of a color is not a number that can be read. -/
  | unreadable
deriving DecidableEq, Repr

/-- The attributes, in the order in which they are written. -/
def attributeNames : List String :=
  ["bold", "dim", "italic", "underline", "blink", "blink2", "reverse", "conceal", "strike",
    "underline2", "frame", "encircle", "overline"]

/-- Short forms of attributes. -/
def attributeShortForms : List (String × String) :=
  [("d", "dim"), ("b", "bold"), ("i", "italic"), ("u", "underline"), ("r", "reverse"),
    ("c", "conceal"), ("s", "strike"), ("uu", "underline2"), ("o", "overline")]

/-- The attribute that a word names. -/
def attribute? (word : String) : Option String :=
  if word ∈ attributeNames then some word else attributeShortForms.lookup word

/-- The names of colors, with white space between them. -/
def colorNames : String := "default
  black red green yellow blue magenta cyan white bright_black bright_red bright_green
  bright_yellow bright_blue bright_magenta bright_cyan bright_white grey0 gray0 navy_blue
  dark_blue blue3 blue1 dark_green deep_sky_blue4 dodger_blue3 dodger_blue2 green4 spring_green4
  turquoise4 deep_sky_blue3 dodger_blue1 green3 spring_green3 dark_cyan light_sea_green
  deep_sky_blue2 deep_sky_blue1 spring_green2 cyan3 dark_turquoise turquoise2 green1 spring_green1
  medium_spring_green cyan2 cyan1 dark_red deep_pink4 purple4 purple3 blue_violet orange4 grey37
  gray37 medium_purple4 slate_blue3 royal_blue1 chartreuse4 dark_sea_green4 pale_turquoise4
  steel_blue steel_blue3 cornflower_blue chartreuse3 cadet_blue sky_blue3 steel_blue1 pale_green3
  sea_green3 aquamarine3 medium_turquoise chartreuse2 sea_green2 sea_green1 aquamarine1
  dark_slate_gray2 dark_magenta dark_violet purple light_pink4 plum4 medium_purple3 slate_blue1
  yellow4 wheat4 grey53 gray53 light_slate_grey light_slate_gray medium_purple light_slate_blue
  dark_olive_green3 dark_sea_green light_sky_blue3 sky_blue2 dark_sea_green3 dark_slate_gray3
  sky_blue1 chartreuse1 light_green pale_green1 dark_slate_gray1 red3 medium_violet_red magenta3
  dark_orange3 indian_red hot_pink3 medium_orchid3 medium_orchid medium_purple2 dark_goldenrod
  light_salmon3 rosy_brown grey63 gray63 medium_purple1 gold3 dark_khaki navajo_white3 grey69
  gray69 light_steel_blue3 light_steel_blue yellow3 dark_sea_green2 light_cyan3 light_sky_blue1
  green_yellow dark_olive_green2 dark_sea_green1 pale_turquoise1 deep_pink3 magenta2 hot_pink2
  orchid medium_orchid1 orange3 light_pink3 pink3 plum3 violet light_goldenrod3 tan misty_rose3
  thistle3 plum2 khaki3 light_goldenrod2 light_yellow3 grey84 gray84 light_steel_blue1 yellow2
  dark_olive_green1 honeydew2 light_cyan1 red1 deep_pink2 deep_pink1 magenta1 orange_red1
  indian_red1 hot_pink dark_orange salmon1 light_coral pale_violet_red1 orchid2 orchid1 orange1
  sandy_brown light_salmon1 light_pink1 pink1 plum1 gold1 navajo_white1 misty_rose1 thistle1
  yellow1 light_goldenrod1 khaki1 wheat1 cornsilk1 grey100 gray100 grey3 gray3 grey7 gray7 grey11
  gray11 grey15 gray15 grey19 gray19 grey23 gray23 grey27 gray27 grey30 gray30 grey35 gray35
  grey39 gray39 grey42 gray42 grey46 gray46 grey50 gray50 grey54 gray54 grey58 gray58 grey62
  gray62 grey66 gray66 grey70 gray70 grey74 gray74 grey78 gray78 grey82 gray82 grey85 gray85
  grey89 gray89 grey93 gray93"

/-- The names of colors. -/
def colorWords : List (List Char) := words colorNames.toList

/-- Is the word the name of a color? -/
def isColorName (word : List Char) : Bool := colorWords.contains word

/-- The text between an opening and a closing part. -/
def between? (opening closing : String) (text : List Char) : Option (List Char) :=
  let inner := (text.drop opening.length).take (text.length - opening.length - closing.length)
  if text = opening.toList ++ inner ++ closing.toList then some inner else none

/-- The value of one component of a color. -/
def component (digits : List Char) : Except StyleFault Int :=
  match IntText.parse? digits with
  | some value => .ok value
  | none => .error .unreadable

/-- Three components of a color are numbers up to 255. -/
def checkComponents (text : List Char) : Except StyleFault Unit :=
  match splitAt ',' text with
  | [red, green, blue] => do
    let values ← [red, green, blue].mapM component
    if values.all (· ≤ 255) then .ok () else .error .unknown
  | _ => .error .unknown

/-- A word in lower case defines a color. -/
def checkColor (word : List Char) : Except StyleFault Unit :=
  let isSmallHex (c : Char) : Bool := ('0' ≤ c && c ≤ '9') || ('a' ≤ c && c ≤ 'f')
  if isColorName word then .ok ()
  else
    match between? "#" "" word, between? "color(" ")" word, between? "rgb(" ")" word with
    | some digits, _, _ =>
      if digits.length = 6 ∧ digits.all isSmallHex then .ok () else .error .unknown
    | _, some digits, _ =>
      if digits.all Char.isDigit ∧ 1 ≤ digits.length ∧ digits.length ≤ 3 ∧
          (IntText.parse? digits).any (· ≤ 255) then .ok ()
      else .error .unknown
    | _, _, some components =>
      if components ≠ [] ∧ components.all (fun c => c == ',' || (digitValue? c).isSome) then
        checkComponents components
      else .error .unknown
    | none, none, none => .error .unknown

/-- The name of the color that a word defines. -/
def colorName (word : List Char) : Except StyleFault (List Char) := do
  let lowered := lowerCase word
  checkColor lowered
  .ok lowered

/-- What a definition says. -/
structure Style where
  /-- Attributes that are turned on or off, the latest first. -/
  attributes : List (String × Bool) := []
  color : Option (List Char) := none
  background : Option (List Char) := none
  link : Option (List Char) := none
deriving DecidableEq, Repr

namespace Style

/-- Turn an attribute on or off. -/
def turn (style : Style) (name : String) (on : Bool) : Style :=
  { style with attributes := (name, on) :: style.attributes }

/-- A style that is defined further by words. -/
def readWords (style : Style) : List (List Char) → Except StyleFault Style
  | [] => .ok style
  | word :: rest =>
    let lowered := String.ofList (lowerCase word)
    if lowered = "on" then
      match rest with
      | [] => .error .unknown
      | color :: rest =>
        match colorName color with
        | .error fault => .error fault
        | .ok name => readWords { style with background := some name } rest
    else if lowered = "not" then
      match rest with
      | [] => .error .unknown
      | word :: rest =>
        match attribute? (String.ofList word) with
        | none => .error .unknown
        | some name => readWords (style.turn name false) rest
    else if lowered = "link" then
      match rest with
      | [] => .error .unknown
      | target :: rest => readWords { style with link := some target } rest
    else
      match attribute? lowered with
      | some name => readWords (style.turn name true) rest
      | none =>
        match colorName word with
        | .error fault => .error fault
        | .ok name => readWords { style with color := some name } rest

/-- The style that a text defines. -/
def parse (definition : List Char) : Except StyleFault Style :=
  if trim definition = "none".toList then .ok {} else readWords {} (words definition)

/-- The words of a style in their fixed order. -/
def canonicalWords (style : Style) : List (List Char) :=
  attributeNames.filterMap (fun name => (style.attributes.lookup name).map fun on =>
      ((if on then "" else "not ") ++ name).toList) ++
    style.color.toList ++
    (style.background.map fun name => "on ".toList ++ name).toList ++
    (style.link.map fun target => "link ".toList ++ target).toList

/-- The text of a style. -/
def written (style : Style) : List Char :=
  match style.canonicalWords with
  | [] => "none".toList
  | parts => [' '].intercalate parts

/-- The normal form of a definition. -/
def normalForm (definition : List Char) : Except StyleFault (List Char) :=
  match parse definition with
  | .ok style => .ok style.written
  | .error .unknown => .ok (lowerCase (trim definition))
  | .error .unreadable => .error .unreadable

/-- The empty style is written as a word that means it. -/
theorem parse_written_empty : parse (written {}) = .ok {} := by
  have nothing : written {} = "none".toList := rfl
  rw [nothing]
  rfl

end Style

end DeclCodec.Text
