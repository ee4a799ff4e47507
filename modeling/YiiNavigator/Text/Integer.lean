import YiiNavigator.Text.Blank

/-!
# Integers written as texts

Blanks may surround the number. A plus sign may come first. Zeros on the left do not count, nor do
underscores among them; a minus sign may come before or after them. Single underscores may separate
digits, and a fraction may follow that consists of zeros only. Digits are those of ASCII. A number
of more than 4300 digits is not read.
-/

namespace YiiNavigator
namespace Text

/-- Why a text is read as no integer. -/
inductive IntegerFault where
  | malformed
  | tooLong
deriving DecidableEq, Repr

/-! ## Blanks and padding -/

/-- Whether a blank may surround a number: the four ASCII separators may not. -/
def isNumberBlank (c : Char) : Bool :=
  isBlank c && !(decide (0x1C ≤ c.toNat) && decide (c.toNat ≤ 0x1F))

/-- The text without the characters of a class at both ends. -/
def trim (p : Char → Bool) (text : Text) : Text :=
  ((text.dropWhile p).reverse.dropWhile p).reverse

/-- The text without a plus sign at its start, unless a minus sign follows it. -/
def dropPlus : Text → Text
  | '+' :: rest => if rest.head? = some '-' then '+' :: rest else rest
  | text => text

/-- How many zeros and underscores stand before a number; the first of them is a zero. -/
def paddingLength (text : Text) : Nat :=
  if text.head? = some '0' then (text.takeWhile fun c => c == '0' || c == '_').length else 0

/-- The text without its padding. The last character of the padding stays when nothing or a decimal
point follows it: it may be the number. -/
def dropPadding (text : Text) : Text :=
  let padding := paddingLength text
  let rest := text.drop padding
  if rest.head? = none ∨ rest.head? = some '.' then text.drop (padding - 1) else rest

/-! ## Fractions and separators -/

/-- The text without a decimal point followed by zeros only, of which there is at least one. -/
def dropZeroFraction (text : Text) : Text :=
  match text.dropWhile (· ≠ '.') with
  | '.' :: zeros =>
    if zeros ≠ [] ∧ zeros.all (· == '0') then text.takeWhile (· ≠ '.') else text
  | _ => text

/-- The text without its underscores, if they stand one at a time and inside the text. -/
def joinGroups (text : Text) : Text :=
  let groups := text.splitOn '_'
  if groups.all (!·.isEmpty) then groups.flatten else text

/-- The number without padding, fraction and underscores. -/
def plain (text : Text) : Text :=
  joinGroups (dropZeroFraction (dropPadding text))

/-! ## Numbers -/

/-- The value of an ASCII digit. -/
def digit? (c : Char) : Option Nat :=
  if '0' ≤ c ∧ c ≤ '9' then some (c.toNat - 0x30) else none

/-- The value of digits that follow a number. -/
def digitsFrom? (value : Nat) : Text → Option Nat
  | [] => some value
  | c :: rest => (digit? c).bind fun d => digitsFrom? (10 * value + d) rest

/-- The number of digits of the longest number that is read. -/
def mostDigits : Nat := 4300

/-- The value of digits. There are no more of them than may be read, and no zero comes first unless
it stands alone. -/
def natural? (text : Text) : Option Nat :=
  if text = [] ∨ (text.head? = some '0' ∧ text ≠ ['0']) ∨ mostDigits < text.length then none
  else digitsFrom? 0 text

/-- The value of digits, with a minus sign before them or not. -/
def signed? : Text → Option Int
  | '-' :: rest => (natural? rest).map fun n => -n
  | text => (natural? text).map fun n => n

/-- The value of a number, in any of the forms in which it may be written. A minus sign comes before
or after the padding, not both. -/
def number? : Text → Option Int
  | '-' :: rest => (natural? (plain rest)).map fun n => -n
  | text => signed? (plain text)

/-- Whether a text begins with more digits than are read. Such a number has no blank, plus sign or
padding before it: those it has are no part of a number that is only too long. -/
def isTooLong (text : Text) : Bool :=
  let number := if text.head? = some '-' then text.drop 1 else text
  decide (number.head? ≠ some '0') &&
    decide (mostDigits < (number.takeWhile fun c => (digit? c).isSome).length)

/-- Reads an integer. -/
def readInteger (text : Text) : Except IntegerFault Int :=
  if isTooLong text then .error .tooLong
  else match number? (dropPlus (trim isNumberBlank text)) with
    | none => .error .malformed
    | some value => .ok value

end Text
end YiiNavigator
