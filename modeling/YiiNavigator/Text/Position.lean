import YiiNavigator.Text.Basic

/-!
# Positions in a text

A position is a row and a column, both counted from zero. Lines end at a line feed and nowhere
else. Offsets and positions convert into each other, and a value outside the text is moved to the
nearest place inside it.
-/

namespace YiiNavigator

/-- A row and a column. -/
structure Position where
  row : Int
  column : Int
deriving DecidableEq, Repr

namespace Position

/-- The first position of every text. -/
def origin : Position := ⟨0, 0⟩

/-- The position after a character read at a position. -/
def advance (p : Position) (c : Char) : Position :=
  if c = '\n' then ⟨p.row + 1, 0⟩ else ⟨p.row, p.column + 1⟩

/-- Text order: by row, then by column. -/
def precedes (p q : Position) : Bool :=
  decide (p.row < q.row ∨ p.row = q.row ∧ p.column ≤ q.column)

end Position

namespace Text

/-- The number of lines; the empty text has one. -/
def lineCount (text : Text) : Nat :=
  text.count '\n' + 1

/-- An offset held inside the text. -/
def clamp (text : Text) (offset : Int) : Nat :=
  min offset.toNat text.length

/-- The position of an offset. -/
def positionAt (text : Text) (offset : Int) : Position :=
  (text.take (text.clamp offset)).foldl Position.advance .origin

/-- The offset of the place `column` characters into the line `rows` lines down, or of the end of
that line when it is shorter, or of the end of the text when there is no such line. -/
def offsetOnLine (column : Nat) : (rows : Nat) → Text → Nat
  | 0, text => min column (text.takeWhile (· ≠ '\n')).length
  | _ + 1, [] => 0
  | rows + 1, c :: rest => 1 + offsetOnLine column (if c = '\n' then rows else rows + 1) rest

/-- The offset of a position: a negative row is before the text, a negative column before its
line. -/
def offsetAt (text : Text) (p : Position) : Nat :=
  if p.row < 0 then 0 else offsetOnLine p.column.toNat p.row.toNat text

end Text
end YiiNavigator
