import ApiLint.Json.Reader
import ApiLint.Json.Writer
import Mathlib.Tactic.SplitIfs

/-! Strings in a JSON document. What the writer makes of a character is ASCII and is read back as the
character, be it an escape of one letter, a number, or a pair of numbers for the two halves. -/

namespace ApiLint.Json

theorem hexDigit?_digitChar : ∀ d < 16, hexDigit? (Nat.digitChar d) = some d := by decide

theorem toNat_digitChar_lt : ∀ d < 16, (Nat.digitChar d).toNat < 0x80 := by decide

theorem hexDigits_four (n : Nat) :
    hexDigits 4 n = [Nat.digitChar (n / 4096 % 16), Nat.digitChar (n / 256 % 16),
      Nat.digitChar (n / 16 % 16), Nat.digitChar (n % 16)] := by
  simp [hexDigits, List.range, List.range.loop]

theorem ofHexDigits?_hexDigits_four {n : Nat} (h : n < 0x10000) :
    ofHexDigits? (hexDigits 4 n) = some n := by
  have hd (m : Nat) : hexDigit? (Nat.digitChar (m % 16)) = some (m % 16) :=
    hexDigit?_digitChar _ (Nat.mod_lt _ (by decide))
  simp only [hexDigits_four, ofHexDigits?, List.foldl_cons, List.foldl_nil, hd]
  simp only [bind, Option.bind, pure, Option.some.injEq]
  omega

theorem codePoint_ofNat_toNat (c : Char) : CodePoint.ofNat c.toNat = .scalar c := by
  have hvalid : c.toNat < 0xd800 ∨ 0xdfff < c.toNat ∧ c.toNat < 0x110000 := c.valid
  rw [CodePoint.ofNat, dif_neg (by omega), Char.ofNat_toNat]

theorem codePoint_ofNat_half {k : Nat} (h : k < 0x800) :
    CodePoint.ofNat (0xd800 + k) = .half ⟨k, h⟩ := by
  rw [CodePoint.ofNat, dif_pos ⟨by omega, by omega⟩]
  simp

theorem toNat_lt_of_char (c : Char) : c.toNat < 0x110000 := by
  have hvalid : c.toNat < 0xd800 ∨ 0xdfff < c.toNat ∧ c.toNat < 0x110000 := c.valid
  omega

/-- The code points that a written character is read as, before halves are joined. -/
def pointsOf (c : Char) : Text :=
  if c.toNat < 0x10000 then [.scalar c]
  else [.ofNat (0xd800 + (c.toNat - 0x10000) / 0x400), .ofNat (0xdc00 + (c.toNat - 0x10000) % 0x400)]

section

variable {c e : Char} (opening rest : List Char) (read : Text)

theorem shortEscape_eq_some (h : shortEscape c = some e) :
    simpleEscape e = some c ∧ e ≠ 'u' ∧ c.toNat < 0x80 ∧ e.toNat < 0x80 := by
  unfold shortEscape at h
  split_ifs at h with hc hc hc hc hc hc hc <;> cases h <;> subst hc <;> decide

theorem string_shortEscape (h : shortEscape c = some e) :
    string opening read ('\\' :: e :: rest) = string opening (.scalar c :: read) rest := by
  obtain ⟨hc, hu, -⟩ := shortEscape_eq_some h
  rw [string.eq_6 _ _ _ _ (fun _ _ _ _ _ _ he => absurd he hu) hu, hc]

theorem string_plain (h : shortEscape c = none) (hspace : ' ' ≤ c) :
    string opening read (c :: rest) = string opening (.scalar c :: read) rest := by
  have hquote : c ≠ '"' := by
    rintro rfl
    cases h
  have hslash : c ≠ '\\' := by
    rintro rfl
    cases h
  have hcontrol : ¬ c < ' ' := Char.not_lt.mpr hspace
  rw [string.eq_7 _ _ _ _ hquote (by simp [hslash]) (by simp [hslash]) (by simp [hslash])
    (by simp [hslash]), if_neg hcontrol]

theorem string_unitEscape {n : Nat} (h : n < 0x10000) (next : Char) :
    string opening read (unitEscape n ++ next :: rest) =
      string opening (CodePoint.ofNat n :: read) (next :: rest) := by
  have hn := ofHexDigits?_hexDigits_four h
  rw [hexDigits_four] at hn
  rw [unitEscape, hexDigits_four]
  simp only [List.cons_append, List.nil_append, string, hn]

/-- Something has to stand behind a character, as an escape of four digits is read only then. -/
theorem string_writeChar (c next : Char) :
    string opening read (writeChar c ++ next :: rest) =
      string opening ((pointsOf c).reverse ++ read) (next :: rest) := by
  unfold writeChar
  split
  · rename_i e he
    have hlow : c.toNat < 0x10000 := by
      have := (shortEscape_eq_some he).2.2.1
      omega
    rw [pointsOf, if_pos hlow]
    exact string_shortEscape opening (next :: rest) read he
  · rename_i hnone
    split
    · rename_i hplain
      have htilde : c.toNat ≤ '~'.toNat := hplain.2
      have hlow : c.toNat < 0x10000 := Nat.lt_of_le_of_lt htilde (by decide)
      rw [pointsOf, if_pos hlow]
      exact string_plain opening (next :: rest) read hnone hplain.1
    · split
      · rename_i hlow
        rw [pointsOf, if_pos hlow, string_unitEscape opening rest read hlow, codePoint_ofNat_toNat]
        rfl
      · rename_i hhigh
        have hvalid := toNat_lt_of_char c
        have hfirst : 0xd800 + (c.toNat - 0x10000) / 0x400 < 0x10000 := by omega
        have hsecond : 0xdc00 + (c.toNat - 0x10000) % 0x400 < 0x10000 := by omega
        rw [pointsOf, if_neg hhigh, List.append_assoc, unitEscape.eq_1 (0xdc00 + _), List.cons_append,
          string_unitEscape opening _ read hfirst]
        exact string_unitEscape opening rest _ hsecond next

theorem string_flatMap (cs : List Char) :
    string opening read (cs.flatMap writeChar ++ '"' :: rest) =
      .ok (joinHalves (read.reverse ++ cs.flatMap pointsOf), rest) := by
  induction cs generalizing read with
  | nil => simp [string]
  | cons c cs ih =>
    have hnext : ∃ next more, cs.flatMap writeChar ++ '"' :: rest = next :: more := by
      cases h : cs.flatMap writeChar with
      | nil => exact ⟨'"', rest, rfl⟩
      | cons next more => exact ⟨next, _, rfl⟩
    obtain ⟨next, more, hmore⟩ := hnext
    rw [List.flatMap_cons, List.append_assoc, hmore, string_writeChar, ← hmore, ih]
    simp

end

theorem joinHalves_pointsOf (c : Char) (rest : Text) :
    joinHalves (pointsOf c ++ rest) = .scalar c :: joinHalves rest := by
  unfold pointsOf
  split
  · exact joinHalves.eq_2 _ _ (by simp)
  · rename_i hhigh
    have hvalid := toNat_lt_of_char c
    have hfirst : (c.toNat - 0x10000) / 0x400 < 0x800 := by omega
    have hsecond : 0x400 + (c.toNat - 0x10000) % 0x400 < 0x800 := by omega
    have hsum : 0x10000 + (c.toNat - 0x10000) / 0x400 * 0x400 +
        (0x400 + (c.toNat - 0x10000) % 0x400 - 0x400) = c.toNat := by omega
    have hshift : 0xdc00 + (c.toNat - 0x10000) % 0x400 =
        0xd800 + (0x400 + (c.toNat - 0x10000) % 0x400) := by omega
    rw [hshift, codePoint_ofNat_half hfirst, codePoint_ofNat_half hsecond, List.cons_append,
      List.cons_append, List.nil_append, joinHalves.eq_1,
      if_pos ⟨by simp only; omega, by simp only; omega⟩]
    simp only [hsum, Char.ofNat_toNat]

theorem joinHalves_flatMap (cs : List Char) : joinHalves (cs.flatMap pointsOf) = Text.ofChars cs := by
  induction cs with
  | nil => rfl
  | cons c cs ih =>
    rw [List.flatMap_cons, joinHalves_pointsOf, ih]
    rfl

theorem writeText_ofChars (cs rest : List Char) :
    writeText (Text.ofChars cs) ++ rest = '"' :: (cs.flatMap writeChar ++ '"' :: rest) := by
  have hpoint : (Text.ofChars cs).flatMap writePoint = cs.flatMap writeChar := by
    simp [Text.ofChars, List.flatMap_map, writePoint]
  simp [writeText, hpoint]

/-- A text in which no half stands alone is read back as it was written. -/
theorem string_writeText (opening cs rest : List Char) :
    string opening [] (cs.flatMap writeChar ++ '"' :: rest) = .ok (Text.ofChars cs, rest) := by
  rw [string_flatMap, List.reverse_nil, List.nil_append, joinHalves_flatMap]

def IsAscii (cs : List Char) : Prop :=
  ∀ c ∈ cs, c.toNat < 0x80

@[simp] theorem isAscii_nil : IsAscii [] := nofun

@[simp] theorem isAscii_cons {c : Char} {cs : List Char} :
    IsAscii (c :: cs) ↔ c.toNat < 0x80 ∧ IsAscii cs :=
  List.forall_mem_cons

@[simp] theorem isAscii_append {cs ds : List Char} :
    IsAscii (cs ++ ds) ↔ IsAscii cs ∧ IsAscii ds :=
  List.forall_mem_append

@[simp] theorem isAscii_unitEscape (n : Nat) : IsAscii (unitEscape n) := by
  have hd (m : Nat) : (Nat.digitChar (m % 16)).toNat < 0x80 :=
    toNat_digitChar_lt _ (Nat.mod_lt _ (by decide))
  rw [unitEscape, hexDigits_four]
  simp [hd]

theorem isAscii_writeChar (c : Char) : IsAscii (writeChar c) := by
  unfold writeChar
  split
  · rename_i e he
    simp [(shortEscape_eq_some he).2.2.2]
  · split
    · rename_i hplain
      have htilde : c.toNat ≤ '~'.toNat := hplain.2
      have hlow : c.toNat < 0x80 := Nat.lt_of_le_of_lt htilde (by decide)
      simp [hlow]
    · split <;> simp

@[simp] theorem isAscii_writeText (t : Text) : IsAscii (writeText t) := by
  have hpoint : ∀ x : CodePoint, IsAscii (writePoint x) := by
    rintro (c | offset)
    · exact isAscii_writeChar c
    · exact isAscii_unitEscape _
  have hbody : IsAscii (t.flatMap writePoint) := by
    intro d hd
    obtain ⟨x, -, hx⟩ := List.mem_flatMap.mp hd
    exact hpoint x d hx
  simp [writeText, hbody]

end ApiLint.Json
