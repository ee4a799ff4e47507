import YiiNavigator.Text.Basic

/-!
# Bytes of a text file

Text files hold UTF-8. Reading never fails: each longest run of bytes that begins a character
without completing it, and each byte that begins none, is read as the replacement character.
A line may end in a line feed, a carriage return or both, and is read with a line feed.
-/

namespace YiiNavigator
namespace Text

/-! ## Writing -/

/-- The UTF-8 bytes of a character. -/
def encodeChar (c : Char) : List UInt8 :=
  let n := c.toNat
  if n < 0x80 then [n.toUInt8]
  else if n < 0x800 then [(0xC0 + n / 0x40).toUInt8, (0x80 + n % 0x40).toUInt8]
  else if n < 0x10000 then
    [(0xE0 + n / 0x1000).toUInt8, (0x80 + n / 0x40 % 0x40).toUInt8, (0x80 + n % 0x40).toUInt8]
  else
    [(0xF0 + n / 0x40000).toUInt8, (0x80 + n / 0x1000 % 0x40).toUInt8,
      (0x80 + n / 0x40 % 0x40).toUInt8, (0x80 + n % 0x40).toUInt8]

/-- The UTF-8 bytes of a text. -/
def encodeUtf8 (text : Text) : List UInt8 :=
  text.flatMap encodeChar

/-! ## Reading -/

/-- The stand-in for bytes that are no character. -/
def replacement : Char := Char.ofNat 0xFFFD

/-- A character begun: its leading bits, how many bytes complete it after the next one, and the
bounds of the next byte. Only a second byte has bounds narrower than `0x80` to `0xBF`: they keep
out overlong forms, surrogates and numbers beyond the last code point. -/
structure PartialChar where
  bits : Nat
  later : Nat
  low : Nat
  high : Nat

/-- What the first byte of a character says. -/
inductive LeadByte where
  | whole (c : Char)
  | begun (start : PartialChar)
  | invalid

/-- Reads the first byte of a character. -/
def leadByte (b : UInt8) : LeadByte :=
  let n := b.toNat
  if n < 0x80 then .whole (Char.ofNat n)
  else if n < 0xC2 then .invalid
  else if n < 0xE0 then .begun ⟨n - 0xC0, 0, 0x80, 0xBF⟩
  else if n < 0xF0 then
    .begun ⟨n - 0xE0, 1, if n = 0xE0 then 0xA0 else 0x80, if n = 0xED then 0x9F else 0xBF⟩
  else if n < 0xF5 then
    .begun ⟨n - 0xF0, 2, if n = 0xF0 then 0x90 else 0x80, if n = 0xF4 then 0x8F else 0xBF⟩
  else .invalid

/-- Reads bytes, with a character begun before them or not. -/
def decodeFrom (begun : Option PartialChar) : List UInt8 → Text
  | [] => if begun.isSome then [replacement] else []
  | b :: rest =>
    let fresh (_ : Unit) := match leadByte b with
      | .whole c => c :: decodeFrom none rest
      | .begun start => decodeFrom (some start) rest
      | .invalid => replacement :: decodeFrom none rest
    match begun with
    | none => fresh ()
    | some p =>
      if p.low ≤ b.toNat ∧ b.toNat ≤ p.high then
        let bits := p.bits * 0x40 + (b.toNat - 0x80)
        match p.later with
        | 0 => Char.ofNat bits :: decodeFrom none rest
        | later + 1 => decodeFrom (some ⟨bits, later, 0x80, 0xBF⟩) rest
      else replacement :: fresh ()

/-- The text that bytes are read as. -/
def decodeUtf8 (bytes : List UInt8) : Text :=
  decodeFrom none bytes

/-- The text with every line end written as a line feed. -/
def unifyLineEnds : Text → Text
  | [] => []
  | '\r' :: '\n' :: rest => '\n' :: unifyLineEnds rest
  | c :: rest => (if c = '\r' then '\n' else c) :: unifyLineEnds rest

end Text
end YiiNavigator
