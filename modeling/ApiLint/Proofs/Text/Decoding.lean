import ApiLint.Proofs.Text.Utf8
import Mathlib.Data.List.Basic

/-! Bytes that spell a text in UTF-8. The reader gives the characters whose bytes they are, and it has a
fault for all other bytes. -/

namespace ApiLint.Text

section

variable {b : UInt8} {p : Pending} {rest : List UInt8}

theorem piecesAfter_ascii (h : b.toNat < 0x80) :
    piecesAfter none (b :: rest) = .char (Char.ofNat b.toNat) :: piecesAfter none rest := by
  rw [piecesAfter, if_pos h]

theorem piecesAfter_opening (h : ¬ b.toNat < 0x80) (hb : opening b = some p) :
    piecesAfter none (b :: rest) = piecesAfter (some p) rest := by
  rw [piecesAfter, if_neg h, hb]

theorem piecesAfter_last (h : p.low ≤ b.toNat ∧ b.toNat ≤ p.high) (hm : p.missing = 1) :
    piecesAfter (some p) (b :: rest) =
      .char (Char.ofNat (p.value * 64 + (b.toNat - 0x80))) :: piecesAfter none rest := by
  rw [piecesAfter, if_pos h]
  exact if_pos hm

theorem piecesAfter_more (h : p.low ≤ b.toNat ∧ b.toNat ≤ p.high) (hm : p.missing ≠ 1) :
    piecesAfter (some p) (b :: rest) =
      piecesAfter (some ⟨b :: p.read, p.missing - 1, 0x80, 0xbf, p.value * 64 + (b.toNat - 0x80)⟩)
        rest := by
  rw [piecesAfter, if_pos h]
  exact if_neg hm

/-- Where characters come out of an open one, a byte in its range comes first. -/
theorem piecesAfter_some_eq_map {bytes : List UInt8} {cs : List Char}
    (h : piecesAfter (some p) bytes = cs.map .char) :
    ∃ b rest, bytes = b :: rest ∧ p.low ≤ b.toNat ∧ b.toNat ≤ p.high ∧
      piecesAfter (some p) (b :: rest) = cs.map .char := by
  cases bytes with
  | nil =>
    cases cs with
    | nil => cases h
    | cons c cs => cases (List.cons.inj h).1
  | cons b rest =>
    by_cases hb : p.low ≤ b.toNat ∧ b.toNat ≤ p.high
    · exact ⟨b, rest, rfl, hb.1, hb.2, h⟩
    · have hwrong : ∃ more, piecesAfter (some p) (b :: rest) =
          .wrong p.read.reverse .continuation :: more := by
        rw [piecesAfter, if_neg hb]
        simp only
        split
        · exact ⟨_, rfl⟩
        · split <;> exact ⟨_, rfl⟩
      obtain ⟨more, hmore⟩ := hwrong
      rw [hmore] at h
      cases cs with
      | nil => cases h
      | cons c cs => cases (List.cons.inj h).1

theorem opening_two (h : 0xc2 ≤ b.toNat ∧ b.toNat < 0xe0) :
    opening b = some ⟨[b], 1, 0x80, 0xbf, b.toNat - 0xc0⟩ := by
  unfold opening
  simp only [if_neg (Nat.not_lt.mpr h.1), if_pos h.2]

theorem opening_three (h : 0xe0 ≤ b.toNat ∧ b.toNat < 0xf0) :
    opening b = some ⟨[b], 2, if b.toNat = 0xe0 then 0xa0 else 0x80,
      if b.toNat = 0xed then 0x9f else 0xbf, b.toNat - 0xe0⟩ := by
  unfold opening
  simp only [show ¬ b.toNat < 0xc2 by omega, show ¬ b.toNat < 0xe0 by omega, if_pos h.2, if_false]

theorem opening_four (h : 0xf0 ≤ b.toNat ∧ b.toNat < 0xf5) :
    opening b = some ⟨[b], 3, if b.toNat = 0xf0 then 0x90 else 0x80,
      if b.toNat = 0xf4 then 0x8f else 0xbf, b.toNat - 0xf0⟩ := by
  unfold opening
  simp only [show ¬ b.toNat < 0xc2 by omega, show ¬ b.toNat < 0xe0 by omega,
    show ¬ b.toNat < 0xf0 by omega, if_pos h.2, if_false]

theorem opening_cases (h : opening b = some p) :
    (0xc2 ≤ b.toNat ∧ b.toNat < 0xe0) ∨ (0xe0 ≤ b.toNat ∧ b.toNat < 0xf0) ∨
      (0xf0 ≤ b.toNat ∧ b.toNat < 0xf5) := by
  by_cases hb : 0xc2 ≤ b.toNat ∧ b.toNat < 0xf5
  · omega
  · unfold opening at h
    simp only at h
    split at h
    · cases h
    · simp only [show ¬ b.toNat < 0xe0 by omega, show ¬ b.toNat < 0xf0 by omega,
        show ¬ b.toNat < 0xf5 by omega, if_false] at h
      cases h

end

/-- The bytes of one character are read as this character, whatever comes behind them. -/
theorem piecesAfter_utf8Bytes (c : Char) (rest : List UInt8) :
    piecesAfter none (utf8Bytes c.toNat ++ rest) = .char c :: piecesAfter none rest := by
  have hvalid : c.toNat < 0xd800 ∨ 0xdfff < c.toNat ∧ c.toNat < 0x110000 := c.valid
  have hback : Char.ofNat c.toNat = c := Char.ofNat_toNat c
  generalize c.toNat = n at hvalid hback
  subst hback
  unfold utf8Bytes
  split
  · have hb := UInt8.toNat_ofNat_of_lt' (show n < 256 by omega)
    rw [List.cons_append, piecesAfter_ascii (by omega), hb]
    rfl
  · split
    · have h0 := UInt8.toNat_ofNat_of_lt' (show 0xc0 + n / 64 < 256 by omega)
      have h1 := UInt8.toNat_ofNat_of_lt' (show 0x80 + n % 64 < 256 by omega)
      rw [List.cons_append, piecesAfter_opening (by omega) (opening_two (by omega)), List.cons_append,
        piecesAfter_last (by simp only; omega) rfl, h0, h1]
      simp only [List.nil_append, show (0xc0 + n / 64 - 0xc0) * 64 + (0x80 + n % 64 - 0x80) = n by omega]
    · split
      · have h0 := UInt8.toNat_ofNat_of_lt' (show 0xe0 + n / 4096 < 256 by omega)
        have h1 := UInt8.toNat_ofNat_of_lt' (show 0x80 + n / 64 % 64 < 256 by omega)
        have h2 := UInt8.toNat_ofNat_of_lt' (show 0x80 + n % 64 < 256 by omega)
        rw [List.cons_append, piecesAfter_opening (by omega) (opening_three (by omega)),
          List.cons_append, piecesAfter_more (by simp only [h0, h1]; split <;> split <;> omega)
            (show 2 ≠ 1 by decide),
          List.cons_append, piecesAfter_last (by simp only; omega) rfl, h0, h1, h2]
        simp only [List.nil_append, show ((0xe0 + n / 4096 - 0xe0) * 64 +
          (0x80 + n / 64 % 64 - 0x80)) * 64 + (0x80 + n % 64 - 0x80) = n by omega]
      · have h0 := UInt8.toNat_ofNat_of_lt' (show 0xf0 + n / 262144 < 256 by omega)
        have h1 := UInt8.toNat_ofNat_of_lt' (show 0x80 + n / 4096 % 64 < 256 by omega)
        have h2 := UInt8.toNat_ofNat_of_lt' (show 0x80 + n / 64 % 64 < 256 by omega)
        have h3 := UInt8.toNat_ofNat_of_lt' (show 0x80 + n % 64 < 256 by omega)
        rw [List.cons_append, piecesAfter_opening (by omega) (opening_four (by omega)),
          List.cons_append, piecesAfter_more (by simp only [h0, h1]; split <;> split <;> omega)
            (show 3 ≠ 1 by decide),
          List.cons_append, piecesAfter_more (by simp only; omega) (show 3 - 1 ≠ 1 by decide),
          List.cons_append, piecesAfter_last (by simp only; omega) rfl, h0, h1, h2, h3]
        simp only [List.nil_append, show (((0xf0 + n / 262144 - 0xf0) * 64 +
          (0x80 + n / 4096 % 64 - 0x80)) * 64 + (0x80 + n / 64 % 64 - 0x80)) * 64 +
          (0x80 + n % 64 - 0x80) = n by omega]

theorem toNat_char_ofNat {n : Nat} (h : n < 0xd800 ∨ 0xdfff < n ∧ n < 0x110000) :
    (Char.ofNat n).toNat = n := by
  have hofNat : Char.ofNat n = Char.ofNatAux n h := dif_pos h
  rw [hofNat]
  rfl

section

variable {a b c d : UInt8}

theorem utf8Bytes_one (h : a.toNat < 0x80) : utf8Bytes (Char.ofNat a.toNat).toNat = [a] := by
  rw [toNat_char_ofNat (by omega), utf8Bytes, if_pos h, UInt8.ofNat_toNat]

theorem utf8Bytes_two (ha : 0xc2 ≤ a.toNat ∧ a.toNat < 0xe0) (hb : 0x80 ≤ b.toNat ∧ b.toNat ≤ 0xbf) :
    utf8Bytes (Char.ofNat ((a.toNat - 0xc0) * 64 + (b.toNat - 0x80))).toNat = [a, b] := by
  obtain ⟨n, hn⟩ : ∃ n, (a.toNat - 0xc0) * 64 + (b.toNat - 0x80) = n := ⟨_, rfl⟩
  rw [hn, toNat_char_ofNat (by omega), utf8Bytes, if_neg (by omega), if_pos (by omega),
    show 0xc0 + n / 64 = a.toNat by omega, show 0x80 + n % 64 = b.toNat by omega, UInt8.ofNat_toNat,
    UInt8.ofNat_toNat]

theorem utf8Bytes_three (ha : 0xe0 ≤ a.toNat ∧ a.toNat < 0xf0)
    (hb : (if a.toNat = 0xe0 then 0xa0 else 0x80) ≤ b.toNat ∧
      b.toNat ≤ if a.toNat = 0xed then 0x9f else 0xbf) (hc : 0x80 ≤ c.toNat ∧ c.toNat ≤ 0xbf) :
    utf8Bytes (Char.ofNat (((a.toNat - 0xe0) * 64 + (b.toNat - 0x80)) * 64 +
      (c.toNat - 0x80))).toNat = [a, b, c] := by
  have hb' : (0x80 ≤ b.toNat ∧ b.toNat ≤ 0xbf) ∧ (a.toNat = 0xe0 → 0xa0 ≤ b.toNat) ∧
      (a.toNat = 0xed → b.toNat ≤ 0x9f) := by
    split at hb <;> split at hb <;> omega
  obtain ⟨n, hn⟩ : ∃ n, ((a.toNat - 0xe0) * 64 + (b.toNat - 0x80)) * 64 + (c.toNat - 0x80) = n :=
    ⟨_, rfl⟩
  rw [hn, toNat_char_ofNat (by omega), utf8Bytes, if_neg (by omega), if_neg (by omega),
    if_pos (by omega), show 0xe0 + n / 4096 = a.toNat by omega,
    show 0x80 + n / 64 % 64 = b.toNat by omega, show 0x80 + n % 64 = c.toNat by omega, UInt8.ofNat_toNat,
    UInt8.ofNat_toNat, UInt8.ofNat_toNat]

theorem utf8Bytes_four (ha : 0xf0 ≤ a.toNat ∧ a.toNat < 0xf5)
    (hb : (if a.toNat = 0xf0 then 0x90 else 0x80) ≤ b.toNat ∧
      b.toNat ≤ if a.toNat = 0xf4 then 0x8f else 0xbf) (hc : 0x80 ≤ c.toNat ∧ c.toNat ≤ 0xbf)
    (hd : 0x80 ≤ d.toNat ∧ d.toNat ≤ 0xbf) :
    utf8Bytes (Char.ofNat ((((a.toNat - 0xf0) * 64 + (b.toNat - 0x80)) * 64 + (c.toNat - 0x80)) * 64 +
      (d.toNat - 0x80))).toNat = [a, b, c, d] := by
  have hb' : (0x80 ≤ b.toNat ∧ b.toNat ≤ 0xbf) ∧ (a.toNat = 0xf0 → 0x90 ≤ b.toNat) ∧
      (a.toNat = 0xf4 → b.toNat ≤ 0x8f) := by
    split at hb <;> split at hb <;> omega
  obtain ⟨n, hn⟩ : ∃ n, (((a.toNat - 0xf0) * 64 + (b.toNat - 0x80)) * 64 + (c.toNat - 0x80)) * 64 +
      (d.toNat - 0x80) = n := ⟨_, rfl⟩
  rw [hn, toNat_char_ofNat (by omega), utf8Bytes, if_neg (by omega), if_neg (by omega),
    if_neg (by omega), show 0xf0 + n / 262144 = a.toNat by omega,
    show 0x80 + n / 4096 % 64 = b.toNat by omega, show 0x80 + n / 64 % 64 = c.toNat by omega,
    show 0x80 + n % 64 = d.toNat by omega, UInt8.ofNat_toNat, UInt8.ofNat_toNat, UInt8.ofNat_toNat,
    UInt8.ofNat_toNat]

end

/-- Where an open character is completed, it is the first one of those that come out. -/
theorem piecesAfter_last_eq_map {p : Pending} {b : UInt8} {rest : List UInt8} {cs : List Char}
    (hm : p.missing = 1) (hb : p.low ≤ b.toNat ∧ b.toNat ≤ p.high)
    (h : piecesAfter (some p) (b :: rest) = cs.map .char) :
    ∃ more, cs = Char.ofNat (p.value * 64 + (b.toNat - 0x80)) :: more ∧
      piecesAfter none rest = more.map .char := by
  rw [piecesAfter_last hb hm] at h
  cases cs with
  | nil => cases h
  | cons c more =>
    obtain ⟨hc, hmore⟩ := List.cons.inj h
    exact ⟨more, by rw [Piece.char.inj hc], hmore⟩

theorem eq_flatMap_of_pieces (n : Nat) {bytes : List UInt8} (hn : bytes.length ≤ n) {cs : List Char}
    (h : piecesAfter none bytes = cs.map .char) :
    bytes = cs.flatMap fun c => utf8Bytes c.toNat := by
  induction n generalizing bytes cs with
  | zero =>
    obtain rfl := List.length_eq_zero_iff.mp (Nat.le_zero.mp hn)
    obtain rfl := List.map_eq_nil_iff.mp h.symm
    rfl
  | succ n ih =>
    cases bytes with
    | nil =>
      obtain rfl := List.map_eq_nil_iff.mp h.symm
      rfl
    | cons a rest =>
      by_cases ha : a.toNat < 0x80
      · rw [piecesAfter_ascii ha] at h
        cases cs with
        | nil => cases h
        | cons c cs =>
          obtain ⟨hc, hcs⟩ := List.cons.inj h
          have hrest := ih (by simpa using hn) hcs
          rw [List.flatMap_cons, ← Piece.char.inj hc, utf8Bytes_one ha, ← hrest]
          rfl
      · cases hp : opening a with
        | none =>
          rw [piecesAfter, if_neg ha, hp] at h
          cases cs with
          | nil => cases h
          | cons c cs => cases (List.cons.inj h).1
        | some p =>
          rw [piecesAfter_opening ha hp] at h
          obtain ⟨b, rest, rfl, hlow, hhigh, h⟩ := piecesAfter_some_eq_map h
          simp only [List.length_cons] at hn
          rcases opening_cases hp with htwo | hthree | hfour
          · rw [opening_two htwo, Option.some.injEq] at hp
            subst hp
            obtain ⟨more, rfl, hmore⟩ := piecesAfter_last_eq_map rfl ⟨hlow, hhigh⟩ h
            have hrest := ih (by omega) hmore
            rw [List.flatMap_cons, utf8Bytes_two htwo ⟨hlow, hhigh⟩, ← hrest]
            rfl
          · rw [opening_three hthree, Option.some.injEq] at hp
            subst hp
            rw [piecesAfter_more ⟨hlow, hhigh⟩ (show 2 ≠ 1 by decide)] at h
            obtain ⟨c, rest, rfl, hlow', hhigh', h⟩ := piecesAfter_some_eq_map h
            obtain ⟨more, rfl, hmore⟩ := piecesAfter_last_eq_map rfl ⟨hlow', hhigh'⟩ h
            simp only [List.length_cons] at hn
            have hrest := ih (by omega) hmore
            rw [List.flatMap_cons, utf8Bytes_three hthree ⟨hlow, hhigh⟩ ⟨hlow', hhigh'⟩, ← hrest]
            rfl
          · rw [opening_four hfour, Option.some.injEq] at hp
            subst hp
            rw [piecesAfter_more ⟨hlow, hhigh⟩ (show 3 ≠ 1 by decide)] at h
            obtain ⟨c, rest, rfl, hlow', hhigh', h⟩ := piecesAfter_some_eq_map h
            rw [piecesAfter_more ⟨hlow', hhigh'⟩ (show 3 - 1 ≠ 1 by decide)] at h
            obtain ⟨d, rest, rfl, hlow'', hhigh'', h⟩ := piecesAfter_some_eq_map h
            obtain ⟨more, rfl, hmore⟩ := piecesAfter_last_eq_map rfl ⟨hlow'', hhigh''⟩ h
            simp only [List.length_cons] at hn
            have hrest := ih (by omega) hmore
            rw [List.flatMap_cons, utf8Bytes_four hfour ⟨hlow, hhigh⟩ ⟨hlow', hhigh'⟩ ⟨hlow'', hhigh''⟩,
              ← hrest]
            rfl

theorem pieces_eq_map_iff {bytes : List UInt8} {cs : List Char} :
    pieces bytes = cs.map .char ↔ bytes = cs.flatMap String.utf8EncodeChar := by
  have hbytes : cs.flatMap String.utf8EncodeChar = cs.flatMap fun c => utf8Bytes c.toNat := by
    simp only [utf8Bytes_eq]
  rw [hbytes]
  constructor
  · exact eq_flatMap_of_pieces bytes.length (Nat.le_refl _)
  · rintro rfl
    clear hbytes
    induction cs with
    | nil => rfl
    | cons c cs ih =>
      rw [pieces] at ih
      rw [pieces, List.flatMap_cons, piecesAfter_utf8Bytes, ih, List.map_cons]

theorem charsFrom_eq_ok_iff {position : Nat} {pieces : List Piece} {cs : List Char} :
    charsFrom position pieces = .ok cs ↔ pieces = cs.map .char := by
  induction pieces generalizing position cs with
  | nil => cases cs <;> simp [charsFrom]
  | cons piece pieces ih =>
    cases piece with
    | wrong bytes cause => cases cs <;> simp [charsFrom]
    | char c =>
      rw [charsFrom]
      cases hr : charsFrom (position + (Piece.char c).size) pieces with
      | error fault =>
        have hnone : ∀ more : List Char, pieces ≠ more.map .char := by
          intro more hmore
          rw [ih.mpr hmore] at hr
          cases hr
        cases cs with
        | nil => simp [Except.map]
        | cons d more => simp [Except.map, hnone more]
      | ok found =>
        have hfound := ih.mp hr
        cases cs with
        | nil => simp [Except.map]
        | cons d more =>
          have hinj : found = more ↔ pieces = more.map .char := by
            rw [hfound]
            exact (List.map_injective_iff.mpr fun _ _ => Piece.char.inj).eq_iff.symm
          simp only [Except.map, Except.ok.injEq, List.cons.injEq, List.map_cons, Piece.char.injEq, hinj]

/-- Bytes give characters when they are the bytes of these. -/
theorem decode_eq_ok_iff {bytes : List UInt8} {cs : List Char} :
    decode bytes = .ok cs ↔ bytes = cs.flatMap String.utf8EncodeChar :=
  charsFrom_eq_ok_iff.trans pieces_eq_map_iff

theorem flatMap_utf8EncodeChar_injective :
    Function.Injective fun cs : List Char => cs.flatMap String.utf8EncodeChar := by
  intro cs ds h
  exact Except.ok.inj ((decode_eq_ok_iff.mpr rfl).symm.trans (decode_eq_ok_iff.mpr h))

end ApiLint.Text
