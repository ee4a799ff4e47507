import YiiNavigator.Text.Printable

/-!
# Quoted texts

The quoted form in which error messages show a text: single quotes, or double quotes when the text
holds a single quote and no double quote; characters that do not print are written as escapes.
-/

namespace YiiNavigator
namespace Text

/-- The character of a hexadecimal digit. -/
def hexDigit (n : Nat) : Char :=
  if n < 10 then Char.ofNat (0x30 + n) else Char.ofNat (0x61 + (n - 10))

/-- The last `width` hexadecimal digits of a number. -/
def hex : (width : Nat) → Nat → Text
  | 0, _ => []
  | width + 1, n => hex width (n / 16) ++ [hexDigit (n % 16)]

/-- The escape of a character by its code point, in the shortest of the three widths. -/
def escapeCode (c : Char) : Text :=
  if c.toNat < 0x100 then "\\x".toList ++ hex 2 c.toNat
  else if c.toNat < 0x10000 then "\\u".toList ++ hex 4 c.toNat
  else "\\U".toList ++ hex 8 c.toNat

/-- One character as it is written between quotes that are `mark`. -/
def quoteChar (mark c : Char) : Text :=
  if c = mark || c = '\\' then ['\\', c]
  else if c = '\n' then "\\n".toList
  else if c = '\r' then "\\r".toList
  else if c = '\t' then "\\t".toList
  else if isPrintable c then [c]
  else escapeCode c

/-- The text between quotes. -/
def quoted (text : Text) : Text :=
  let mark := if text.elem '\x27' && !text.elem '\x22' then '\x22' else '\x27'
  mark :: (text.flatMap (quoteChar mark) ++ [mark])

end Text
end YiiNavigator
