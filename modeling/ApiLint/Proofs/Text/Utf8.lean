import ApiLint.Text.Encoding

/-! Texts in UTF-8: a text has bytes when no half of a pair stands alone in it, and they are the bytes of
its characters. -/

namespace ApiLint.Text

theorem utf8Bytes_eq (c : Char) : utf8Bytes c.toNat = String.utf8EncodeChar c := by
  have hvalid : c.toNat < 0xd800 ∨ 0xdfff < c.toNat ∧ c.toNat < 0x110000 := c.valid
  simp only [utf8Bytes, String.utf8EncodeChar, Char.toNat_val]
  generalize c.toNat = n at hvalid ⊢
  simp only [show n < 0x80 ↔ n ≤ 127 by omega, show n < 0x800 ↔ n ≤ 2047 by omega,
    show n < 0x10000 ↔ n ≤ 65535 by omega]
  split
  · rfl
  · split
    · rw [show n / 64 % 32 + 192 = 0xc0 + n / 64 by omega, show n % 64 + 128 = 0x80 + n % 64 by omega]
    · split
      · rw [show n / 4096 % 16 + 224 = 0xe0 + n / 4096 by omega,
          show n / 64 % 64 + 128 = 0x80 + n / 64 % 64 by omega,
          show n % 64 + 128 = 0x80 + n % 64 by omega]
      · rw [show n / 262144 % 8 + 240 = 0xf0 + n / 262144 by omega,
          show n / 4096 % 64 + 128 = 0x80 + n / 4096 % 64 by omega,
          show n / 64 % 64 + 128 = 0x80 + n / 64 % 64 by omega,
          show n % 64 + 128 = 0x80 + n % 64 by omega]

theorem encodeFrom_ofChars (position : Nat) (cs : List Char) :
    encodeFrom .utf8 position (ofChars cs) = .ok (cs.flatMap String.utf8EncodeChar) := by
  induction cs generalizing position with
  | nil => rfl
  | cons c cs ih =>
    have hcs : ofChars (c :: cs) = .scalar c :: ofChars cs := rfl
    simp only [hcs, encodeFrom, Encoding.bytes?, ih, utf8Bytes_eq, List.flatMap_cons]
    rfl

theorem eq_ofChars_of_encodeFrom {position : Nat} {t : Text} {bytes : List UInt8}
    (h : encodeFrom .utf8 position t = .ok bytes) : ∃ cs, t = ofChars cs := by
  induction t generalizing position bytes with
  | nil => exact ⟨[], rfl⟩
  | cons x rest ih =>
    cases x with
    | half offset => cases h
    | scalar c =>
      cases hr : encodeFrom .utf8 (position + 1) rest with
      | error fault =>
        simp only [encodeFrom, Encoding.bytes?, hr] at h
        cases h
      | ok more =>
        obtain ⟨cs, rfl⟩ := ih hr
        exact ⟨c :: cs, rfl⟩

/-- The texts that have bytes in UTF-8, and these bytes. -/
theorem encode_utf8_iff {t : Text} {bytes : List UInt8} :
    encode .utf8 t = .ok bytes ↔
      ∃ cs, t = ofChars cs ∧ bytes = cs.flatMap String.utf8EncodeChar := by
  constructor
  · intro h
    obtain ⟨cs, rfl⟩ := eq_ofChars_of_encodeFrom h
    rw [encode, encodeFrom_ofChars, Except.ok.injEq] at h
    exact ⟨cs, rfl, h.symm⟩
  · rintro ⟨cs, rfl, rfl⟩
    exact encodeFrom_ofChars 0 cs

end ApiLint.Text
