import DeclCodec.Text.Markup
import DeclCodec.Text.Wrap

/-!
# Columns

Marked-up texts stand in columns without borders. A column is as wide as its widest
text with its margins, unless the columns together are wider than the screen; then
the widest ones are narrowed. A text may take several lines, and the others of its
row are filled up with blank ones.
-/

namespace DeclCodec.Text

/-- The width of the screen. -/
def screenWidth : Nat := 120

/-- The margins of the texts in a column. -/
structure Margins where
  left : Nat
  right : Nat
deriving DecidableEq, Repr

/-- Does the character end a line for the measure of a text? -/
def endsLine (c : Char) : Bool :=
  [0xA, 0x1C, 0x1D, 0x1E, 0x85, 0x2028, 0x2029].contains c.toNat

/-- The total of numbers. -/
def total (numbers : List Nat) : Nat := numbers.foldl Nat.add 0

/-- The cells of the longest line of a text. -/
def longestLine (text : List Char) : Nat :=
  ((splitAt '\n' (text.map fun c => if endsLine c then '\n' else c)).map cells).foldl max 0

/-- The width of a column of texts. -/
def columnWidth (margins : Margins) (column : List Styled) : Nat :=
  let widest := (column.map fun styled => longestLine styled.text).foldl max 0
  min screenWidth (margins.left + widest + margins.right)

/-! ## Narrowing -/

/-- A quotient rounded to the nearest number, a half to the even one. -/
def roundedQuotient (dividend divisor : Nat) : Nat :=
  let quotient := dividend / divisor
  let twice := 2 * (dividend % divisor)
  if twice < divisor ∨ (twice = divisor ∧ quotient % 2 = 0) then quotient else quotient + 1

/-- Take an amount off the columns of some width, evenly, and no more than a limit off each.
`sharers` counts the columns of this width. -/
def takeOff (widest limit : Nat) (amount sharers : Nat) : List Nat → List Nat
  | [] => []
  | width :: rest =>
    if width = widest then
      let share := min limit (roundedQuotient amount sharers)
      (width - share) :: takeOff widest limit (amount - share) (sharers - 1) rest
    else width :: takeOff widest limit amount sharers rest

/-- Narrow the widest columns, to the next width at most. -/
def narrowOnce (excess : Nat) (widths : List Nat) : List Nat :=
  let widest := widths.foldl max 0
  let next := (widths.filter (· ≠ widest)).foldl max 0
  takeOff widest (min excess (widest - next)) excess (widths.count widest) widths

/-- Narrow columns until they fit. Each round takes something off. -/
def narrowWithin : Nat → Nat → List Nat → List Nat
  | 0, _, widths => widths
  | fuel + 1, room, widths =>
    if total widths ≤ room then widths
    else narrowWithin fuel room (narrowOnce (total widths - room) widths)

/-- The widths of columns that have to fit on the screen. -/
def fittedWidths (widths : List Nat) : List Nat := narrowWithin (total widths) screenWidth widths

/-! ## Lines -/

/-- Pieces that fit into so many cells. The last one is cut off or filled up. -/
def cropPieces (width : Nat) : List (List Char) → List (List Char)
  | [] => []
  | piece :: rest =>
    if cells piece < width then piece :: cropPieces (width - cells piece) rest
    else [resized width piece]

/-- Pieces cut off or filled up with blanks to a width. -/
def resizedPieces (width : Nat) (pieces : List (List Char)) : List (List Char) :=
  let used := total (pieces.map cells)
  if used ≤ width then pieces ++ [blanks (width - used)] else cropPieces width pieces

/-- The lines of a text in a column. -/
def columnLines (margins : Margins) (width : Nat) (styled : Styled) : List (List Char) :=
  let room := width - margins.left - margins.right
  (styled.wrap room .left .ellipsis).map fun line =>
    let pieces := resizedPieces room line.pieces
    (resizedPieces width ([blanks margins.left] ++ pieces ++ [blanks margins.right])).flatten

/-- The lines of a row, for the lines of its texts, each with the width of its column. -/
def rowLines (row : List (Nat × List (List Char))) : List (List Char) :=
  let height := (row.map fun cell => cell.2.length).foldl max 0
  (List.range height).map fun place =>
    (row.map fun cell => (cell.2[place]?).getD (blanks cell.1)).flatten

/-- The rows of columns of so many texts. -/
def rowsOf {α : Type} (count : Nat) (columns : List (List α)) : List (List α) :=
  columns.foldr (List.zipWith List.cons) (List.replicate count [])

/-- The lines of columns of so many texts, under a title if there is one. -/
def tableLines (margins : Margins) (title : Option (List Char)) (count : Nat)
    (columns : List (List (List Char))) : Except MarkupFault (List (List Char)) := do
  let columns ← columns.mapM fun column => column.mapM Styled.ofMarkup
  let widths := fittedWidths (columns.map (columnWidth margins))
  let head ← match title with
    | none => .ok []
    | some title => do
      let title ← Styled.ofMarkup title
      title.checkStyles
      .ok ((title.wrap (total widths) .center .fold).map (·.text))
  columns.forM fun column => column.forM Styled.checkStyles
  let cells := List.zipWith (fun width column =>
    column.map fun styled => (width, columnLines margins width styled)) widths columns
  .ok (head ++ (rowsOf count cells).flatMap rowLines)

/-- The lines of a text on the screen. -/
def printedLines (markup : List Char) : Except MarkupFault (List (List Char)) := do
  let styled ← Styled.ofMarkup markup
  styled.checkStyles
  .ok ((styled.wrap screenWidth .ragged .fold).map (·.text))

/-! ## Laws -/

/-- A text that fits on one line stands there, with blanks behind it. -/
theorem flatten_resizedPieces {width : Nat} {pieces : List (List Char)}
    (fits : total (pieces.map cells) ≤ width) :
    (resizedPieces width pieces).flatten =
      pieces.flatten ++ blanks (width - total (pieces.map cells)) := by
  rw [resizedPieces, if_pos fits, List.flatten_append]
  simp

/-- Columns that fit are not narrowed. -/
theorem fittedWidths_eq {widths : List Nat} (fits : total widths ≤ screenWidth) :
    fittedWidths widths = widths := by
  unfold fittedWidths
  cases total widths with
  | zero => rfl
  | succ fuel => rw [narrowWithin, if_pos fits]

/-- A row is as high as its highest text. -/
theorem length_rowLines (row : List (Nat × List (List Char))) :
    (rowLines row).length = (row.map fun cell => cell.2.length).foldl max 0 := by
  simp [rowLines]

end DeclCodec.Text
