import YiiNavigator.Text.Utf8
import Mathlib.Data.Nat.Notation

/-!
# Texts in files

A text that is written in UTF-8 is read back (`decodeUtf8_encodeUtf8`), and its line ends stay as
they are if it has no carriage returns.
-/

namespace YiiNavigator
namespace Text

variable {c : Char} {b : UInt8} {n bits later low high : ℕ} {rest : List UInt8}

/-! ## Single bytes -/

lemma toNat_toUInt8 (h : n < 0x100) : n.toUInt8.toNat = n := by
  show n % 2 ^ 8 = n
  exact Nat.mod_eq_of_lt h

lemma decodeFrom_whole (h : leadByte b = .whole c) :
    decodeFrom none (b :: rest) = c :: decodeFrom none rest := by
  rw [decodeFrom, h]

lemma decodeFrom_begun {start : PartialChar} (h : leadByte b = .begun start) :
    decodeFrom none (b :: rest) = decodeFrom (some start) rest := by
  rw [decodeFrom, h]

/-- The last byte of a character completes it. -/
lemma decodeFrom_last (h : low ≤ n ∧ n ≤ high) (hn : n < 0x100) :
    decodeFrom (some ⟨bits, 0, low, high⟩) (n.toUInt8 :: rest)
      = Char.ofNat (bits * 0x40 + (n - 0x80)) :: decodeFrom none rest := by
  rw [decodeFrom, toNat_toUInt8 hn]
  exact if_pos h

/-- A byte in the middle of a character adds six bits to it. -/
lemma decodeFrom_middle (h : low ≤ n ∧ n ≤ high) (hn : n < 0x100) :
    decodeFrom (some ⟨bits, later + 1, low, high⟩) (n.toUInt8 :: rest)
      = decodeFrom (some ⟨bits * 0x40 + (n - 0x80), later, 0x80, 0xBF⟩) rest := by
  rw [decodeFrom, toNat_toUInt8 hn]
  exact if_pos h

/-! ## Characters -/

/-- The code point of a character is no surrogate and not beyond the last one. -/
lemma toNat_bounds (c : Char) : c.toNat < 0xD800 ∨ 0xDFFF < c.toNat ∧ c.toNat < 0x110000 :=
  c.valid

lemma decodeFrom_encodeChar (c : Char) (rest : List UInt8) :
    decodeFrom none (encodeChar c ++ rest) = c :: decodeFrom none rest := by
  have hvalid := toNat_bounds c
  have hc : ∀ n, n = c.toNat → Char.ofNat n = c := fun n hn => by rw [hn, Char.ofNat_toNat]
  unfold encodeChar
  dsimp only
  split
  · -- one byte
    rename_i h₁
    refine decodeFrom_whole ?_
    rw [leadByte, toNat_toUInt8 (by omega), if_pos h₁, hc _ rfl]
  · split
    · -- two bytes
      rename_i h₁ h₂
      have hlead : leadByte (0xC0 + c.toNat / 0x40).toUInt8
          = .begun ⟨c.toNat / 0x40, 0, 0x80, 0xBF⟩ := by
        rw [leadByte, toNat_toUInt8 (by omega), if_neg (by omega), if_neg (by omega),
          if_pos (by omega), Nat.add_sub_cancel_left]
      rw [List.cons_append, decodeFrom_begun hlead, List.cons_append,
        decodeFrom_last (by omega) (by omega), hc _ (by omega)]
      rfl
    · split
      · -- three bytes
        rename_i h₁ h₂ h₃
        have hlead : ∃ low high, leadByte (0xE0 + c.toNat / 0x1000).toUInt8
              = .begun ⟨c.toNat / 0x1000, 1, low, high⟩
            ∧ low ≤ 0x80 + c.toNat / 0x40 % 0x40 ∧ 0x80 + c.toNat / 0x40 % 0x40 ≤ high := by
          rw [leadByte, toNat_toUInt8 (by omega), if_neg (by omega), if_neg (by omega),
            if_neg (by omega), if_pos (by omega), Nat.add_sub_cancel_left]
          refine ⟨_, _, rfl, ?_, ?_⟩
          · split <;> omega
          · split <;> omega
        obtain ⟨low, high, hlead, hbounds⟩ := hlead
        rw [List.cons_append, decodeFrom_begun hlead, List.cons_append,
          decodeFrom_middle hbounds (by omega), List.cons_append,
          decodeFrom_last (by omega) (by omega), hc _ (by omega)]
        rfl
      · -- four bytes
        rename_i h₁ h₂ h₃
        have hlead : ∃ low high, leadByte (0xF0 + c.toNat / 0x40000).toUInt8
              = .begun ⟨c.toNat / 0x40000, 2, low, high⟩
            ∧ low ≤ 0x80 + c.toNat / 0x1000 % 0x40
            ∧ 0x80 + c.toNat / 0x1000 % 0x40 ≤ high := by
          rw [leadByte, toNat_toUInt8 (by omega), if_neg (by omega), if_neg (by omega),
            if_neg (by omega), if_neg (by omega), if_pos (by omega), Nat.add_sub_cancel_left]
          refine ⟨_, _, rfl, ?_, ?_⟩
          · split <;> omega
          · split <;> omega
        obtain ⟨low, high, hlead, hbounds⟩ := hlead
        rw [List.cons_append, decodeFrom_begun hlead, List.cons_append,
          decodeFrom_middle hbounds (by omega), List.cons_append,
          decodeFrom_middle (by omega) (by omega), List.cons_append,
          decodeFrom_last (by omega) (by omega), hc _ (by omega)]
        rfl

/-! ## Texts -/

/-- A text that is written in UTF-8 is read back. -/
lemma decodeUtf8_encodeUtf8 (text : Text) : decodeUtf8 (encodeUtf8 text) = text := by
  show decodeFrom none (text.flatMap encodeChar) = text
  induction text with
  | nil => rfl
  | cons c rest ih => rw [List.flatMap_cons, decodeFrom_encodeChar, ih]

lemma encodeUtf8_inj {first second : Text} (h : encodeUtf8 first = encodeUtf8 second) :
    first = second := by
  rw [← decodeUtf8_encodeUtf8 first, h, decodeUtf8_encodeUtf8]

lemma unifyLineEnds_eq_self {text : Text} (h : '\r' ∉ text) : unifyLineEnds text = text := by
  induction text with
  | nil => rfl
  | cons c rest ih =>
    have hc : c ≠ '\r' := fun heq => h (by rw [heq]; exact List.mem_cons_self)
    rw [unifyLineEnds, if_neg hc, ih fun hmem => h (List.mem_cons_of_mem _ hmem)]
    rintro rest rfl
    exact absurd rfl hc

end Text
end YiiNavigator
