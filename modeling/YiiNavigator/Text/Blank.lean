import YiiNavigator.Text.CodeRange

/-!
# Blank characters

White space of every script, the four ASCII separators among the control characters included. A
zero-width space and a byte order mark are not blank.
-/

namespace YiiNavigator
namespace Text

/-- The code points of white space. -/
def blankRanges : List CodeRange :=
  [ (0x9, 0xD), (0x1C, 0x20), (0x85, 0x85), (0xA0, 0xA0), (0x1680, 0x1680), (0x2000, 0x200A),
    (0x2028, 0x2029), (0x202F, 0x202F), (0x205F, 0x205F), (0x3000, 0x3000) ]

/-- Whether a character is white space. -/
def isBlank (c : Char) : Bool :=
  inRanges blankRanges c

end Text
end YiiNavigator
