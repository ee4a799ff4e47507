import YiiNavigator.Text.Integer

/-!
# What is handed to the screen

A command hands over lines and tables, with parts of their texts marked as of a style. How a screen
draws them, and how wide it is, is not the business of a command.
-/

namespace YiiNavigator
namespace CommandLine

/-! ## Styles -/

/-- A style that a part of a text may have. -/
inductive Style where
  | red
  | green
  | yellow
  | cyan
deriving DecidableEq, Repr

namespace Style

/-- The name of a style. -/
def name : Style → Text
  | red => "red".toList
  | green => "green".toList
  | yellow => "yellow".toList
  | cyan => "cyan".toList

/-- The mark in front of a text of a style. -/
def openingMark (style : Style) : Text :=
  '[' :: (style.name ++ [']'])

/-- The mark after a text of a style. -/
def closingMark (style : Style) : Text :=
  "[/".toList ++ style.name ++ [']']

/-- A text marked as of a style. -/
def styled (style : Style) (text : Text) : Text :=
  style.openingMark ++ text ++ style.closingMark

/-- A text marked as of a style, with the mark that closes any style. -/
def marked (style : Style) (text : Text) : Text :=
  style.openingMark ++ text ++ "[/]".toList

end Style

/-! ## Pieces -/

/-- What is handed to the screen at once: a line, or rows of cells under a header. -/
inductive Piece where
  | line (text : Text)
  | table (header : List Text) (rows : List (List Text))
deriving DecidableEq, Repr

/-- A table, with the number of its rows in a line of its own. -/
def countedTable (header : List Text) (rows : List (List Text)) : List Piece :=
  [.table header rows, .line ("(".toList ++ Text.ofNat rows.length ++ " rows)".toList)]

end CommandLine
end YiiNavigator
