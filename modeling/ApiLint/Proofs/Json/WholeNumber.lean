import ApiLint.Json.Reader
import Mathlib.Data.List.TakeWhile

/-! The whole numbers on which the reader gives up. Where it does, that many digits stand in a row in
its input; and it does on every list that begins with such a number. -/

namespace ApiLint.Json

/-- Just so many digits stand in a row somewhere in a text, as far as they go to the right. -/
def HasDigits (n : Nat) (cs : List Char) : Prop :=
  ∃ ds rest, ds ++ rest <:+ cs ∧ ds.length = n ∧ (∀ d ∈ ds, d.isDigit) ∧ ∀ d ∈ rest.head?, ¬ d.isDigit

theorem HasDigits.mono {n : Nat} {cs ds : List Char} (h : HasDigits n cs) (hs : cs <:+ ds) :
    HasDigits n ds := by
  obtain ⟨digits, rest, hsuffix, hrest⟩ := h
  exact ⟨digits, rest, hsuffix.trans hs, hrest⟩

/-- What was read leaves an end of the text, and a number that was given up on stands in it. -/
def ReadFrom {α : Type} (cs : List Char) : Except Stop (α × List Char) → Prop
  | .ok (_, rest) => rest <:+ cs
  | .error (.longInteger n) => longestInteger < n ∧ HasDigits n cs
  | .error _ => True

section

variable {α β : Type} {cs ds rest : List Char} {r : Except Stop (α × List Char)}

theorem ReadFrom.mono (h : ReadFrom cs r) (hs : cs <:+ ds) : ReadFrom ds r := by
  match r, h with
  | .ok (_, _), h => exact List.IsSuffix.trans h hs
  | .error (.longInteger _), h => exact ⟨h.1, h.2.mono hs⟩
  | .error (.malformed _ _), _ => trivial
  | .error .tooDeep, _ => trivial

theorem readFrom_ok {x : α} (h : rest <:+ cs) : ReadFrom cs (.ok (x, rest)) := h

theorem readFrom_fail {cause : Cause} : ReadFrom cs (fail cause rest : Except Stop (α × List Char)) :=
  trivial

theorem ReadFrom.bind {next : α × List Char → Except Stop (β × List Char)} (h : ReadFrom cs r)
    (hn : ∀ x rest, rest <:+ cs → ReadFrom rest (next (x, rest))) : ReadFrom cs (r >>= next) := by
  match r, h with
  | .ok (x, rest), h => exact (hn x rest h).mono h
  | .error (.longInteger _), h => exact h
  | .error (.malformed _ _), _ => trivial
  | .error .tooDeep, _ => trivial

theorem skipSpace_suffix (cs : List Char) : skipSpace cs <:+ cs :=
  List.dropWhile_suffix _

theorem suffix_of_skipSpace_eq {c : Char} (h : skipSpace cs = c :: rest) : rest <:+ cs := by
  have hs := skipSpace_suffix cs
  rw [h] at hs
  exact (List.suffix_cons c rest).trans hs

theorem readFrom_string (opening : List Char) (read : Text) (cs : List Char) :
    ReadFrom cs (string opening read cs) := by
  fun_induction string opening read cs with
  | case1 | case3 | case5 | case6 | case8 | case9 => trivial
  | case2 read rest => exact List.suffix_cons _ _
  | case4 read a b c d next rest n hn ih => exact ih.mono ⟨['\\', 'u', a, b, c, d], rfl⟩
  | case7 read e rest _ _ c hc ih => exact ih.mono ⟨['\\', e], rfl⟩
  | case10 read c rest _ _ _ _ _ _ ih => exact ih.mono (List.suffix_cons _ _)

theorem fraction_suffix {fs : List Char} (h : fraction cs = some (fs, rest)) : rest <:+ cs := by
  unfold fraction at h
  split at h
  · split at h
    · simp at h
    · cases h
      exact (List.dropWhile_suffix _).trans (List.suffix_cons _ _)
  · simp at h

theorem exponent_suffix {e : Int} (h : exponent cs = some (e, rest)) : rest <:+ cs := by
  unfold exponent at h
  split at h
  · rename_i c tail
    split at h
    rename_i negative body heq
    have hbody : body <:+ tail := by
      split at heq <;> cases heq
      · exact List.suffix_cons _ _
      · exact List.suffix_cons _ _
      · exact List.suffix_rfl
    simp only at h
    split at h
    · cases h
      exact ((List.dropWhile_suffix _).trans hbody).trans (List.suffix_cons _ _)
    · simp at h
  · simp at h

theorem readFrom_finishNumber {negative : Bool} {whole : List Char} (hr : rest <:+ cs)
    (hw : longestInteger < whole.length → HasDigits whole.length cs) :
    ReadFrom cs (finishNumber negative whole rest) := by
  unfold finishNumber
  split
  · split
    · rename_i hlong
      exact ⟨hlong, hw hlong⟩
    · exact readFrom_ok hr
  · rename_i fs rest' hf _
    exact readFrom_ok ((fraction_suffix hf).trans hr)
  · rename_i e rest' hf he
    rw [hf] at he
    exact readFrom_ok ((exponent_suffix he).trans hr)
  · rename_i fs rest' e rest'' hf he
    rw [hf] at he
    exact readFrom_ok (((exponent_suffix he).trans (fraction_suffix hf)).trans hr)

theorem readFrom_number (cs : List Char) : ReadFrom cs (number cs) := by
  unfold number
  split
  rename_i negative body heq
  have hbody : body <:+ cs := by
    split at heq <;> cases heq
    · exact List.suffix_cons _ _
    · exact List.suffix_rfl
  split
  · rename_i rest
    refine readFrom_finishNumber ((List.suffix_cons _ rest).trans hbody) fun h => ?_
    exact absurd h (by decide)
  · rename_i c rest _
    split
    · rename_i hc
      refine readFrom_finishNumber
        (((List.dropWhile_suffix _).trans (List.suffix_cons _ _)).trans hbody) fun _ => ?_
      refine ⟨c :: rest.takeWhile Char.isDigit, rest.dropWhile Char.isDigit, ?_, rfl, ?_, ?_⟩
      · rwa [List.cons_append, List.takeWhile_append_dropWhile]
      · intro d hd
        rcases List.mem_cons.mp hd with rfl | hd
        · exact hc
        · exact List.mem_takeWhile_imp hd
      · intro d hd
        have := List.head?_dropWhile_not Char.isDigit rest
        rw [Option.mem_def.mp hd] at this
        simpa using this
    · exact readFrom_fail
  · exact readFrom_fail

theorem readFrom_atom (cs : List Char) : ReadFrom cs (atom cs) := by
  unfold atom
  split
  · exact ⟨['n', 'u', 'l', 'l'], rfl⟩
  · exact ⟨['t', 'r', 'u', 'e'], rfl⟩
  · exact ⟨['f', 'a', 'l', 's', 'e'], rfl⟩
  · exact ⟨['N', 'a', 'N'], rfl⟩
  · exact ⟨['I', 'n', 'f', 'i', 'n', 'i', 't', 'y'], rfl⟩
  · exact ⟨['-', 'I', 'n', 'f', 'i', 'n', 'i', 't', 'y'], rfl⟩
  · exact readFrom_number cs

variable {item : List Char → ValueRead}

theorem readFrom_items (h : ∀ cs, ReadFrom cs (item cs)) (n : Nat) (read : List Value)
    (cs : List Char) : ReadFrom cs (items item n read cs) := by
  induction n generalizing read cs with
  | zero => exact readFrom_fail
  | succ n ih =>
    refine (h cs).bind fun v rest _ => ?_
    simp only
    split
    · rename_i hs
      exact readFrom_ok (suffix_of_skipSpace_eq hs)
    · rename_i hs
      exact (ih _ _).mono ((skipSpace_suffix _).trans (suffix_of_skipSpace_eq hs))
    · exact readFrom_fail

theorem readFrom_fields (h : ∀ cs, ReadFrom cs (item cs)) (n : Nat) (read : Fields)
    (cs : List Char) : ReadFrom cs (fields item n read cs) := by
  induction n generalizing read cs with
  | zero => exact readFrom_fail
  | succ n ih =>
    unfold fields
    split
    · rename_i opened
      refine ReadFrom.mono (ReadFrom.bind (readFrom_string _ [] opened) fun key rest _ => ?_)
        (List.suffix_cons _ _)
      simp only
      split
      · rename_i hs
        refine ReadFrom.mono (ReadFrom.bind (h _) fun v rest _ => ?_)
          ((skipSpace_suffix _).trans (suffix_of_skipSpace_eq hs))
        simp only
        split
        · rename_i hs
          exact readFrom_ok (suffix_of_skipSpace_eq hs)
        · rename_i hs
          exact (ih _ _).mono ((skipSpace_suffix _).trans (suffix_of_skipSpace_eq hs))
        · exact readFrom_fail
      · exact readFrom_fail
    · exact readFrom_fail

theorem readFrom_value (width depth : Nat) (cs : List Char) :
    ReadFrom cs (value width depth cs) := by
  induction depth using Nat.strongRecOn generalizing cs with
  | ind depth ih =>
    fun_cases value width depth cs with
    | case1 _ rest =>
      exact ((readFrom_string _ [] rest).mono (List.suffix_cons _ _)).bind fun _ _ _ =>
        readFrom_ok List.suffix_rfl
    | case2 | case3 => trivial
    | case4 depth rest rest' hs | case6 depth rest rest' hs =>
      exact readFrom_ok ((suffix_of_skipSpace_eq hs).trans (List.suffix_cons _ _))
    | case5 depth rest =>
      exact (readFrom_items (ih depth (Nat.lt_succ_self depth)) _ _ _).mono
        ((skipSpace_suffix rest).trans (List.suffix_cons _ _))
    | case7 depth rest =>
      exact (readFrom_fields (ih depth (Nat.lt_succ_self depth)) _ _ _).mono
        ((skipSpace_suffix rest).trans (List.suffix_cons _ _))
    | case8 => exact readFrom_atom _

/-- The reader gives up on a number only if as many digits stand in a row in its input. -/
theorem hasDigits_of_read {n : Nat} (h : read cs = .error (.longInteger n)) :
    longestInteger < n ∧ HasDigits n cs := by
  have hv := (readFrom_value (cs.length + 1) deepest (skipSpace cs)).mono (skipSpace_suffix cs)
  unfold read at h
  have hw : readWith deepest cs = .error (.longInteger n) := by
    cases hw : readWith deepest cs with
    | ok v =>
      rw [hw] at h
      cases h
    | error stop =>
      rw [hw] at h
      cases stop <;> simp [Except.mapError, Fault.ofStop] at h
      rw [h]
  unfold readWith at hw
  split at hw
  · cases hw
  · cases hr : value (cs.length + 1) deepest (skipSpace cs) with
    | error stop =>
      rw [hr] at hv hw
      cases hw
      exact hv
    | ok found =>
      rw [hr] at hw
      simp only [bind, Except.bind] at hw
      split at hw <;> cases hw

end

section

variable {c : Char} {ds rest : List Char}

theorem value_of_isDigit (width depth : Nat) (hc : c.isDigit) :
    value width depth (c :: rest) = number (c :: rest) := by
  have hv : value width depth (c :: rest) = atom (c :: rest) := by
    unfold value
    split
    case h_6 => rfl
    all_goals
      rename_i heq
      cases heq
      exact absurd hc (by decide)
  rw [hv]
  unfold atom
  split
  case h_7 => rfl
  all_goals
    rename_i heq
    cases heq
    exact absurd hc (by decide)

theorem number_of_isDigit (hc : c.isDigit) (hz : c ≠ '0') :
    number (c :: rest) =
      finishNumber false (c :: rest.takeWhile Char.isDigit) (rest.dropWhile Char.isDigit) := by
  unfold number
  split
  rename_i negative body heq
  split at heq
  · rename_i h
    cases h
    exact absurd hc (by decide)
  · cases heq
    split
    · rename_i h
      cases h
      exact absurd rfl hz
    · rename_i h
      cases h
      exact if_pos hc
    · rename_i h
      cases h

theorem value_longInteger (width depth : Nat) (hc : c.isDigit) (hz : c ≠ '0') (hd : ∀ d ∈ ds, d.isDigit)
    (hlong : longestInteger < ds.length + 1) (hr : ∀ d ∈ rest.head?, ¬ d.isDigit)
    (hf : fraction rest = none) (he : exponent rest = none) :
    value width depth (c :: (ds ++ rest)) = .error (.longInteger (ds.length + 1)) := by
  have hrest : rest.takeWhile Char.isDigit = [] ∧ rest.dropWhile Char.isDigit = rest := by
    cases rest with
    | nil => exact ⟨rfl, rfl⟩
    | cons d rest =>
      have := hr d rfl
      exact ⟨List.takeWhile_cons_of_neg this, List.dropWhile_cons_of_neg this⟩
  rw [value_of_isDigit width depth hc, number_of_isDigit hc hz, List.takeWhile_append_of_pos hd,
    List.dropWhile_append_of_pos hd, hrest.1, hrest.2, List.append_nil]
  unfold finishNumber
  rw [hf]
  simp only [Option.elim, he, List.length_cons]
  exact if_pos hlong

/-- The reader gives up on a list that begins with a long whole number, whatever comes behind it. -/
theorem read_longInteger (hc : c.isDigit) (hz : c ≠ '0') (hd : ∀ d ∈ ds, d.isDigit)
    (hlong : longestInteger < ds.length + 1) (hr : ∀ d ∈ rest.head?, ¬ d.isDigit)
    (hf : fraction rest = none) (he : exponent rest = none) :
    read ('[' :: c :: (ds ++ rest)) = .error (.longInteger (ds.length + 1)) := by
  have hs : ∀ cs, skipSpace (c :: cs) = c :: cs := by
    intro cs
    refine List.dropWhile_cons_of_neg ?_
    rintro hspace
    simp only [isSpace, Bool.or_eq_true, decide_eq_true_eq] at hspace
    rcases hspace with ((rfl | rfl) | rfl) | rfl <;> exact absurd hc (by decide)
  have hv : ∀ width, value (width + 1) deepest ('[' :: c :: (ds ++ rest)) =
      .error (.longInteger (ds.length + 1)) := by
    intro width
    rw [show deepest = 989 + 1 from rfl]
    unfold value
    simp only [hs]
    split
    · rename_i h
      cases h
      exact absurd hc (by decide)
    · rw [items, value_longInteger _ _ hc hz hd hlong hr hf he]
      rfl
  have hopen : skipSpace ('[' :: c :: (ds ++ rest)) = '[' :: c :: (ds ++ rest) := rfl
  unfold read readWith
  simp only [hopen, hv]
  rfl

end

end ApiLint.Json
