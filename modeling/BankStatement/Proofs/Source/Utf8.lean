import BankStatement.Source.TextFile
import Mathlib.Data.Char

/-!
# Reading back what was written in UTF-8

The reader takes a well-formed character of one to four bytes in one step (`decode_one` to
`decode_four`), and what the writer makes of a character is such a character (`decode_encodeChar`).
So reading the bytes of a text gives the text (`decode?_encode`). The bytes of a text without null
characters hold no null byte (`zero_notMem_encode`).

The reader follows the table of well-formed byte sequences, in which the second byte is restricted
for some first bytes: no character is written longer than it needs to be, none is a surrogate, and
none lies beyond the last code point. A character of Lean has a valid code point, so what the writer
makes of it obeys these restrictions. This is where the proof has its cases, one for each length and
each first byte with a restriction of its own.

What the reader does with bytes that are not well formed does not matter here. It marks the place
and goes on, and whoever wanted a text finds that there is none.
-/

namespace BankStatement.Utf8

/-! ## Bytes -/

theorem toNat_byte {n : Nat} (h : n < 0x100) : (byte n).toNat = n := by
  rw [byte, UInt8.toNat_ofNat']
  exact Nat.mod_eq_of_lt h

theorem isTail_iff {b : UInt8} : isTail b = true ↔ 0x80 ≤ b.toNat ∧ b.toNat ≤ 0xBF := by
  simp [isTail, UInt8.le_iff_toNat_le]

theorem isTail_byte {n : Nat} (h : n < 0x40) : isTail (byte (0x80 + n)) = true := by
  have hb : (byte (0x80 + n)).toNat = 0x80 + n := toNat_byte (by omega)
  exact isTail_iff.mpr (by omega)

theorem tailBits_byte {n : Nat} (h : n < 0x40) : tailBits (byte (0x80 + n)) = n := by
  have hb : (byte (0x80 + n)).toNat = 0x80 + n := toNat_byte (by omega)
  unfold tailBits
  omega

theorem follows3_of {a b : UInt8} (h : isTail b = true) (hlow : a.toNat = 0xE0 → 0xA0 ≤ b.toNat)
    (hsurrogate : a.toNat = 0xED → b.toNat ≤ 0x9F) : follows3 a b = true := by
  have hb := isTail_iff.mp h
  have ha (n : UInt8) : a = n ↔ a.toNat = n.toNat := UInt8.toNat_inj.symm
  simp only [follows3, ha]
  split
  · next h0 => simpa [UInt8.le_iff_toNat_le, hb.2] using hlow h0
  · split
    · next h0 => simpa [UInt8.le_iff_toNat_le, hb.1] using hsurrogate h0
    · exact h

theorem follows4_of {a b : UInt8} (h : isTail b = true) (hlow : a.toNat = 0xF0 → 0x90 ≤ b.toNat)
    (hlast : a.toNat = 0xF4 → b.toNat ≤ 0x8F) : follows4 a b = true := by
  have hb := isTail_iff.mp h
  have ha (n : UInt8) : a = n ↔ a.toNat = n.toNat := UInt8.toNat_inj.symm
  simp only [follows4, ha]
  split
  · next h0 => simpa [UInt8.le_iff_toNat_le, hb.2] using hlow h0
  · split
    · next h0 => simpa [UInt8.le_iff_toNat_le, hb.1] using hlast h0
    · exact h

/-! ## Characters of one to four bytes -/

section

variable {a b c d : UInt8} {rest : Bytes}

theorem not_lt_of_toNat {n : UInt8} (h : n.toNat ≤ a.toNat) : ¬ a < n := by
  rw [UInt8.lt_iff_toNat_lt]
  omega

theorem within_iff {m n : UInt8} :
    (m ≤ a && a ≤ n) = decide (m.toNat ≤ a.toNat ∧ a.toNat ≤ n.toNat) := by
  simp [UInt8.le_iff_toNat_le]

theorem decode_one (ha : a.toNat < 0x80) :
    decode (a :: rest) = some (Char.ofNat a.toNat) :: decode rest := by
  have h1 : a < 0x80 := UInt8.lt_iff_toNat_lt.mpr ha
  rw [decode.eq_def]
  simp only [h1, if_true]

theorem decode_two (ha : 0xC2 ≤ a.toNat ∧ a.toNat ≤ 0xDF) (hb : isTail b = true) :
    decode (a :: b :: rest)
      = some (Char.ofNat ((a.toNat - 0xC0) * 0x40 + tailBits b)) :: decode rest := by
  have h1 : ¬ a < 0x80 := not_lt_of_toNat (by simp; omega)
  have h2 : (0xC2 ≤ a && a ≤ 0xDF) = true := by simpa [within_iff] using ha
  rw [decode.eq_def]
  simp only [h1, h2, hb, if_true, if_false]

theorem decode_three (ha : 0xE0 ≤ a.toNat ∧ a.toNat ≤ 0xEF) (hb : follows3 a b = true)
    (hc : isTail c = true) :
    decode (a :: b :: c :: rest)
      = some (Char.ofNat ((a.toNat - 0xE0) * 0x1000 + tailBits b * 0x40 + tailBits c))
        :: decode rest := by
  have h1 : ¬ a < 0x80 := not_lt_of_toNat (by simp; omega)
  have h2 : (0xC2 ≤ a && a ≤ 0xDF) = false := by simp [within_iff]; omega
  have h3 : (0xE0 ≤ a && a ≤ 0xEF) = true := by simpa [within_iff] using ha
  rw [decode.eq_def]
  simp only [h1, h2, h3, hb, hc, if_true, if_false, Bool.false_eq_true]

theorem decode_four (ha : 0xF0 ≤ a.toNat ∧ a.toNat ≤ 0xF4) (hb : follows4 a b = true)
    (hc : isTail c = true) (hd : isTail d = true) :
    decode (a :: b :: c :: d :: rest)
      = some (Char.ofNat ((a.toNat - 0xF0) * 0x40000 + tailBits b * 0x1000 + tailBits c * 0x40
          + tailBits d))
        :: decode rest := by
  have h1 : ¬ a < 0x80 := not_lt_of_toNat (by simp; omega)
  have h2 : (0xC2 ≤ a && a ≤ 0xDF) = false := by simp [within_iff]; omega
  have h3 : (0xE0 ≤ a && a ≤ 0xEF) = false := by simp [within_iff]; omega
  have h4 : (0xF0 ≤ a && a ≤ 0xF4) = true := by simpa [within_iff] using ha
  rw [decode.eq_def]
  simp only [h1, h2, h3, h4, hb, hc, hd, if_true, if_false, Bool.false_eq_true]

end

/-! ## Texts -/

/-- The code points of characters: surrogates are none. -/
theorem toNat_valid (c : Char) :
    c.toNat < 0xD800 ∨ 0xDFFF < c.toNat ∧ c.toNat < 0x110000 := by
  have h := c.valid
  simp only [UInt32.isValidChar, Nat.isValidChar] at h
  exact h

theorem decode_encodeChar (c : Char) (rest : Bytes) :
    decode (encodeChar c ++ rest) = some c :: decode rest := by
  have hvalid := toNat_valid c
  have hc : Char.ofNat c.toNat = c := Char.ofNat_toNat c
  have tails (m : Nat) : isTail (byte (0x80 + m % 0x40)) = true := isTail_byte (by omega)
  have bits (m : Nat) : tailBits (byte (0x80 + m % 0x40)) = m % 0x40 := tailBits_byte (by omega)
  unfold encodeChar
  generalize c.toNat = n at hvalid hc
  simp only
  split
  · next h =>
    have ha := toNat_byte (n := n) (by omega)
    rw [List.cons_append, decode_one (by omega), ha, hc]
    rfl
  · split
    · next h =>
      have ha := toNat_byte (n := 0xC0 + n / 0x40) (by omega)
      rw [List.cons_append, List.cons_append, decode_two (by omega) (tails n), ha, bits]
      have hn : (0xC0 + n / 0x40 - 0xC0) * 0x40 + n % 0x40 = n := by omega
      rw [hn, hc]
      rfl
    · split
      · next h =>
        have ha := toNat_byte (n := 0xE0 + n / 0x1000) (by omega)
        have hb := toNat_byte (n := 0x80 + n / 0x40 % 0x40) (by omega)
        simp only [List.cons_append]
        rw [decode_three (by omega) (follows3_of (tails _) (by omega) (by omega)) (tails n), ha,
          bits, bits]
        have hn : (0xE0 + n / 0x1000 - 0xE0) * 0x1000 + n / 0x40 % 0x40 * 0x40 + n % 0x40 = n := by
          omega
        rw [hn, hc]
        rfl
      · have ha := toNat_byte (n := 0xF0 + n / 0x40000) (by omega)
        have hb := toNat_byte (n := 0x80 + n / 0x1000 % 0x40) (by omega)
        simp only [List.cons_append]
        rw [decode_four (by omega) (follows4_of (tails _) (by omega) (by omega)) (tails _)
          (tails n), ha, bits, bits, bits]
        have hn : (0xF0 + n / 0x40000 - 0xF0) * 0x40000 + n / 0x1000 % 0x40 * 0x1000
            + n / 0x40 % 0x40 * 0x40 + n % 0x40 = n := by
          omega
        rw [hn, hc]
        rfl

theorem decode_encode (t : Text) : decode (encode t) = t.map some := by
  induction t with
  | nil => simp [encode, decode]
  | cons c t ih =>
    rw [encode, List.flatMap_cons, decode_encodeChar, ← encode, ih, List.map_cons]

/-- Reading gives back what was written. -/
theorem decode?_encode (t : Text) : decode? (encode t) = some t := by
  rw [decode?, decode_encode]
  induction t with
  | nil => rfl
  | cons c t ih =>
    rw [List.map_cons, List.mapM_cons, ih]
    rfl

theorem zero_notMem_encodeChar {c : Char} (h : c ≠ Char.ofNat 0) : 0 ∉ encodeChar c := by
  have hn : c.toNat ≠ 0 := by
    intro h0
    rw [← Char.ofNat_toNat c, h0] at h
    exact h rfl
  have hvalid := toNat_valid c
  have positive {m : Nat} (h0 : m ≠ 0) (h1 : m < 0x100) : (0 : UInt8) ≠ byte m := by
    intro hm
    have hbyte := toNat_byte h1
    rw [← hm] at hbyte
    exact h0 hbyte.symm
  unfold encodeChar
  generalize c.toNat = n at hn hvalid
  simp only
  split
  · simpa using positive (m := n) (by omega) (by omega)
  · split
    · simpa using ⟨positive (m := 0xC0 + n / 0x40) (by omega) (by omega),
        positive (m := 0x80 + n % 0x40) (by omega) (by omega)⟩
    · split
      · simpa using ⟨positive (m := 0xE0 + n / 0x1000) (by omega) (by omega),
          positive (m := 0x80 + n / 0x40 % 0x40) (by omega) (by omega),
          positive (m := 0x80 + n % 0x40) (by omega) (by omega)⟩
      · simpa using ⟨positive (m := 0xF0 + n / 0x40000) (by omega) (by omega),
          positive (m := 0x80 + n / 0x1000 % 0x40) (by omega) (by omega),
          positive (m := 0x80 + n / 0x40 % 0x40) (by omega) (by omega),
          positive (m := 0x80 + n % 0x40) (by omega) (by omega)⟩

/-- Only the null character is written with a null byte. -/
theorem zero_notMem_encode {t : Text} (h : Char.ofNat 0 ∉ t) : 0 ∉ encode t := by
  rw [encode, List.mem_flatMap]
  rintro ⟨c, hc, hzero⟩
  exact zero_notMem_encodeChar (ne_of_mem_of_not_mem hc h) hzero

end BankStatement.Utf8
