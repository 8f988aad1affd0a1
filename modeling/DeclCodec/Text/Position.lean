/-!
# Positions in a text

Lines and columns count from one and offsets from zero, all in characters; only
a line feed ends a line.
-/

namespace DeclCodec.Text

/-- A place between two characters of a text. -/
structure Position where
  line : Nat
  column : Nat
  offset : Nat
deriving DecidableEq, Repr

/-- The first place of every text. -/
def Position.start : Position := ⟨1, 1, 0⟩

/-- The place after one more character. -/
def Position.advance (position : Position) (c : Char) : Position :=
  if c = '\n' then ⟨position.line + 1, 1, position.offset + 1⟩
  else ⟨position.line, position.column + 1, position.offset + 1⟩

/-- The place reached by reading some characters. -/
def Position.after (consumed : List Char) : Position := consumed.foldl advance start

/-- The place in a text where the given rest begins. -/
def Position.ofRest (text rest : List Char) : Position :=
  Position.after (text.take (text.length - rest.length))

/-- The place where the second part of a text begins is the place after its first part. -/
theorem Position.ofRest_append (consumed rest : List Char) :
    Position.ofRest (consumed ++ rest) rest = Position.after consumed := by
  simp [Position.ofRest]

end DeclCodec.Text
