import Mathlib.Data.List.Basic
import Phrasebook.Text.Utf8

/-!
# Decoding what was encoded

A character is encoded in one to four bytes, by the size of its code point. Decoding recognizes each
of these sequences by its first byte, accepts its second byte because the code point is neither
overlong nor a surrogate nor too large, and gives the code point back. So the bytes of a text are
decoded as the text.
-/

namespace Phrasebook.Text

section Bytes

variable {a b : UInt8}

theorem isContinuation_iff : isContinuation b = true ↔ 128 ≤ b.toNat ∧ b.toNat ≤ 191 := by
  simp [isContinuation, UInt8.le_iff_toNat_le]

/-- A second byte continues the sequence. Four first bytes narrow the range further. -/
theorem isSecond_iff : isSecond a b = true ↔ 128 ≤ b.toNat ∧ b.toNat ≤ 191 ∧
    (a.toNat = 224 → 160 ≤ b.toNat) ∧ (a.toNat = 237 → b.toNat ≤ 159) ∧
    (a.toNat = 240 → 144 ≤ b.toNat) ∧ (a.toNat = 244 → b.toNat ≤ 143) := by
  simp only [isSecond, isContinuation, ← UInt8.toNat_inj, UInt8.le_iff_toNat_le]
  split_ifs <;> simp_all <;> omega

end Bytes

section Sequences

variable {a b c d : UInt8} (position : Nat) (rest : List UInt8)

/-- A byte below 128 is a character. -/
private theorem decodeUtf8From_one (ha : a.toNat < 128) : decodeUtf8From position (a :: rest) =
    (Char.ofNat a.toNat :: ·) <$> decodeUtf8From (position + 1) rest := by
  rw [decodeUtf8From.eq_def]
  simp [UInt8.lt_iff_toNat_lt, ha]

/-- A sequence of two bytes is a character. -/
private theorem decodeUtf8From_two (ha : 194 ≤ a.toNat ∧ a.toNat < 224)
    (hb : isContinuation b = true) :
    decodeUtf8From position (a :: b :: rest) =
      (Char.ofNat (a.toNat % 32 * 64 + lowBits b) :: ·) <$>
        decodeUtf8From (position + 2) rest := by
  have h₁ : ¬ a.toNat < 128 := by omega
  have h₂ : ¬ a.toNat < 194 := by omega
  rw [decodeUtf8From.eq_def]
  simp [UInt8.lt_iff_toNat_lt, h₁, h₂, ha.2, hb]

/-- A sequence of three bytes is a character. -/
private theorem decodeUtf8From_three (ha : 224 ≤ a.toNat ∧ a.toNat < 240) (hb : isSecond a b = true)
    (hc : isContinuation c = true) : decodeUtf8From position (a :: b :: c :: rest) =
      (Char.ofNat ((a.toNat % 16 * 64 + lowBits b) * 64 + lowBits c) :: ·) <$>
        decodeUtf8From (position + 3) rest := by
  have h₁ : ¬ a.toNat < 128 := by omega
  have h₂ : ¬ a.toNat < 194 := by omega
  have h₃ : ¬ a.toNat < 224 := by omega
  have h₄ : ¬ 245 ≤ a.toNat := by omega
  rw [decodeUtf8From.eq_def]
  simp [UInt8.lt_iff_toNat_lt, UInt8.le_iff_toNat_le, h₁, h₂, h₃, h₄, ha.2, hb, hc]

/-- A sequence of four bytes is a character. -/
private theorem decodeUtf8From_four (ha : 240 ≤ a.toNat ∧ a.toNat < 245) (hb : isSecond a b = true)
    (hc : isContinuation c = true) (hd : isContinuation d = true) :
    decodeUtf8From position (a :: b :: c :: d :: rest) =
      (Char.ofNat (((a.toNat % 8 * 64 + lowBits b) * 64 + lowBits c) * 64 + lowBits d) :: ·) <$>
        decodeUtf8From (position + 4) rest := by
  have h₁ : ¬ a.toNat < 128 := by omega
  have h₂ : ¬ a.toNat < 194 := by omega
  have h₃ : ¬ a.toNat < 224 := by omega
  have h₄ : ¬ 245 ≤ a.toNat := by omega
  have h₅ : ¬ a.toNat < 240 := by omega
  rw [decodeUtf8From.eq_def]
  simp [UInt8.lt_iff_toNat_lt, UInt8.le_iff_toNat_le, h₁, h₂, h₃, h₄, h₅, hb, hc, hd]

end Sequences

section RoundTrip

/-- The bytes of a character are decoded as the character, whatever follows them. -/
theorem decodeUtf8From_encodeChar (c : Char) (position : Nat) (rest : List UInt8) :
    decodeUtf8From position (String.utf8EncodeChar c ++ rest) =
      (c :: ·) <$> decodeUtf8From (position + (String.utf8EncodeChar c).length) rest := by
  have hvalid : c.toNat < 0xD800 ∨ 0xDFFF < c.toNat ∧ c.toNat < 0x110000 := c.valid
  have hback {n : Nat} (h : n = c.toNat) : Char.ofNat n = c := by rw [h, Char.ofNat_toNat]
  have hbyte {n : Nat} (h : n < 256) : (UInt8.ofNat n).toNat = n := UInt8.toNat_ofNat_of_lt h
  rw [String.utf8EncodeChar.eq_1, ← Char.toNat]
  split_ifs with h₁ h₂ h₃
  · have ha := hbyte (n := c.toNat) (by omega)
    rw [List.singleton_append, decodeUtf8From_one position rest (by omega), hback ha]
    rfl
  · have ha := hbyte (n := c.toNat / 64 % 32 + 192) (by omega)
    have hb := hbyte (n := c.toNat % 64 + 128) (by omega)
    rw [List.cons_append, List.singleton_append, decodeUtf8From_two position rest (by omega)
      (isContinuation_iff.mpr (by omega)), lowBits, hback (by omega)]
    rfl
  · have ha := hbyte (n := c.toNat / 4096 % 16 + 224) (by omega)
    have hb := hbyte (n := c.toNat / 64 % 64 + 128) (by omega)
    have hc := hbyte (n := c.toNat % 64 + 128) (by omega)
    rw [List.cons_append, List.cons_append, List.singleton_append,
      decodeUtf8From_three position rest (by omega) (isSecond_iff.mpr (by omega))
        (isContinuation_iff.mpr (by omega)), lowBits, lowBits, hback (by omega)]
    rfl
  · have ha := hbyte (n := c.toNat / 262144 % 8 + 240) (by omega)
    have hb := hbyte (n := c.toNat / 4096 % 64 + 128) (by omega)
    have hc := hbyte (n := c.toNat / 64 % 64 + 128) (by omega)
    have hd := hbyte (n := c.toNat % 64 + 128) (by omega)
    rw [List.cons_append, List.cons_append, List.cons_append, List.singleton_append,
      decodeUtf8From_four position rest (by omega) (isSecond_iff.mpr (by omega))
        (isContinuation_iff.mpr (by omega)) (isContinuation_iff.mpr (by omega)), lowBits, lowBits,
      lowBits, hback (by omega)]
    rfl

/-- The bytes of a text are decoded as the text. -/
theorem decodeUtf8_encodeUtf8 (text : List Char) : decodeUtf8 (encodeUtf8 text) = .ok text := by
  have hfrom (position : Nat) : decodeUtf8From position (encodeUtf8 text) = .ok text := by
    induction text generalizing position with
    | nil => simp [encodeUtf8, decodeUtf8From]
    | cons c rest ih =>
        rw [encodeUtf8, List.flatMap_cons, decodeUtf8From_encodeChar, ← encodeUtf8, ih]
        rfl
  exact hfrom 0

end RoundTrip

end Phrasebook.Text
