/-!
# Texts

A text is a list of characters, so that offsets, columns and lengths all count characters, and
cutting and joining are the list operations. Source files, file paths and names are texts.

This file holds the type and the cuts that the core library does not have: slices whose bounds
may count from the end, and the order by code points in which listings are sorted.
-/

namespace YiiNavigator

/-- A sequence of characters. -/
abbrev Text := List Char

namespace Text

/-! ## Slices -/

/-- The offset that a slice bound denotes: a negative bound counts from the end, and every bound
is held inside the text. -/
def bound (length : Nat) (i : Int) : Nat :=
  if i < 0 then (length + i).toNat else min i.toNat length

/-- The characters from `start` up to `stop`; empty when `stop` does not come after `start`. -/
def slice (text : Text) (start stop : Int) : Text :=
  (text.take (bound text.length stop)).drop (bound text.length start)

theorem bound_natCast (length n : Nat) : bound length n = min n length := by
  simp [bound, Int.not_lt.2 (Int.natCast_nonneg n)]

/-! ## Order -/

/-- The order by code points; a text comes before its continuations. -/
def precedes : Text → Text → Bool
  | [], _ => true
  | _ :: _, [] => false
  | a :: as, b :: bs => if a = b then precedes as bs else decide (a.toNat < b.toNat)

/-- The texts in the order by code points. -/
def sorted (texts : List Text) : List Text :=
  texts.mergeSort precedes

/-! ## Search and replacement -/

/-- Whether `part` occurs somewhere in the text. -/
def contains (text part : Text) : Bool :=
  match text with
  | [] => part.isEmpty
  | c :: rest => part.isPrefixOf (c :: rest) || contains rest part

/-- The text with its trailing characters that are `c` removed. -/
def trimEnd (text : Text) (c : Char) : Text :=
  (text.reverse.dropWhile (· == c)).reverse

/-- The decimal digits of an integer, with a leading minus sign when it is negative. -/
def ofInt (i : Int) : Text :=
  (toString i).toList

/-- The decimal digits of a natural number. -/
def ofNat (n : Nat) : Text :=
  (toString n).toList

end Text
end YiiNavigator
