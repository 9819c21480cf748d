import ApiLint.Proofs.Json.Bounded
import ApiLint.Proofs.Json.Strings

/-! What was written is read back. The reader gets a value from its written text, and leaves alone what
stands behind it, when the value nests no deeper than the reader goes and all its parts have a written
form of their own: texts without lone halves, whole numbers that are not too long, tables with distinct
keys. Such a text is ASCII. -/

namespace ApiLint.Json

inductive Restorable : Nat → Value → Prop where
  | null {depth : Nat} : Restorable depth .null
  | bool {depth : Nat} (b : Bool) : Restorable depth (.bool b)
  | int {depth : Nat} {n : Int} : Short n → Restorable depth (.int n)
  | text {depth : Nat} (cs : List Char) : Restorable depth (.text (Text.ofChars cs))
  | list {depth : Nat} {vs : List Value} :
      (∀ v ∈ vs, Restorable depth v) → Restorable (depth + 1) (.list vs)
  | table {depth : Nat} {fields : Fields} :
      (∀ key ∈ fields.keys, ∃ cs, key = Text.ofChars cs) → fields.keys.Nodup →
      (∀ f ∈ fields, Restorable depth f.2) → Restorable (depth + 1) (.table fields)

/-- Nothing that a whole number could go on with. -/
def Ends (rest : List Char) : Prop :=
  ∀ c ∈ rest.head?, ¬ c.isDigit ∧ c ≠ '.' ∧ c ≠ 'e' ∧ c ≠ 'E'

theorem ends_cons {c : Char} {rest : List Char}
    (h : ¬ c.isDigit ∧ c ≠ '.' ∧ c ≠ 'e' ∧ c ≠ 'E') : Ends (c :: rest) := by
  intro d hd
  cases hd
  exact h

section Numbers

variable {rest : List Char}

theorem fraction_of_ends (h : Ends rest) : fraction rest = none := by
  unfold fraction
  split
  · exact absurd rfl (h '.' rfl).2.1
  · rfl

theorem exponent_of_ends (h : Ends rest) : exponent rest = none := by
  unfold exponent
  split
  · rename_i e tail
    have he := h e rfl
    exact if_neg (by simp [he])
  · rfl

theorem finishNumber_of_ends {negative : Bool} {whole : List Char} (h : Ends rest)
    (hlen : whole.length ≤ longestInteger) :
    finishNumber negative whole rest =
      .ok (.int (if negative then -(ofDigits whole : Int) else ofDigits whole), rest) := by
  have hf := fraction_of_ends h
  unfold finishNumber
  rw [hf]
  simp only [Option.elim, exponent_of_ends h, if_neg (Nat.not_lt.mpr hlen)]

theorem takeWhile_isDigit {ds : List Char} (hd : ∀ d ∈ ds, d.isDigit) (h : Ends rest) :
    (ds ++ rest).takeWhile Char.isDigit = ds ∧ (ds ++ rest).dropWhile Char.isDigit = rest := by
  have hrest : rest.takeWhile Char.isDigit = [] ∧ rest.dropWhile Char.isDigit = rest := by
    cases rest with
    | nil => exact ⟨rfl, rfl⟩
    | cons d rest =>
      have hnot := (h d rfl).1
      exact ⟨List.takeWhile_cons_of_neg hnot, List.dropWhile_cons_of_neg hnot⟩
  rw [List.takeWhile_append_of_pos hd, List.dropWhile_append_of_pos hd, hrest.1, hrest.2,
    List.append_nil]
  exact ⟨rfl, rfl⟩

theorem ofDigits_digits (n : Nat) : ofDigits (digits n) = n :=
  Nat.ofDigitChars_ten_toDigits

theorem length_digits_le {n : Nat} (h : n < 10 ^ longestInteger) :
    (digits n).length ≤ longestInteger :=
  (Nat.length_toDigits_le_iff (by decide) (by decide)).mpr h

/-- Only zero is written with a zero in front. -/
theorem digits_eq_cons (n : Nat) :
    ∃ c ds, digits n = c :: ds ∧ c.isDigit ∧ (c = '0' → ds = []) := by
  induction n using Nat.strongRecOn with
  | ind n ih =>
    by_cases hn : n < 10
    · have hone : digits n = [Nat.digitChar n] := Nat.toDigits_of_lt_base hn
      have hdigit : (Nat.digitChar n).isDigit := isDigit_of_mem_digits (n := n) _ (by simp [hone])
      exact ⟨_, [], hone, hdigit, fun _ => rfl⟩
    · have hmore : digits n = digits (n / 10) ++ [Nat.digitChar (n % 10)] := by
        rw [digits, Nat.toDigits_eq_if (by decide), if_neg hn]
        rfl
      obtain ⟨c, ds, hds, hc, hzero⟩ := ih (n / 10) (by omega)
      refine ⟨c, ds ++ [Nat.digitChar (n % 10)], by rw [hmore, hds]; rfl, hc, ?_⟩
      rintro rfl
      have hnone : n / 10 = 0 := by
        rw [← ofDigits_digits (n / 10), hds, hzero rfl]
        rfl
      omega

/-- The digits of a number, behind a minus sign or not. -/
theorem number_digits {n : Nat} (hn : n < 10 ^ longestInteger) (h : Ends rest) :
    number (digits n ++ rest) = .ok (.int n, rest) ∧
      number ('-' :: (digits n ++ rest)) = .ok (.int (-(n : Int)), rest) := by
  have hlen := length_digits_le hn
  have hfinish : ∀ negative : Bool, finishNumber negative (digits n) rest =
      .ok (.int (if negative then -(n : Int) else n), rest) := by
    intro negative
    rw [finishNumber_of_ends h hlen, ofDigits_digits]
  obtain ⟨c, ds, hds, hc, hzero⟩ := digits_eq_cons n
  have hall : ∀ d ∈ ds, d.isDigit := fun d hd => isDigit_of_mem_digits (n := n) d (by simp [hds, hd])
  obtain ⟨htake, hdrop⟩ := takeWhile_isDigit hall h
  rw [hds] at hfinish ⊢
  by_cases hz : c = '0'
  · subst hz
    rw [hzero rfl] at hfinish ⊢
    exact ⟨hfinish false, hfinish true⟩
  · constructor
    · rw [List.cons_append, number_of_isDigit hc hz, htake, hdrop]
      exact hfinish false
    · have hminus : number ('-' :: c :: (ds ++ rest)) = finishNumber true (c :: ds) rest := by
        unfold number
        simp only
        rw [if_pos hc, htake, hdrop]
      rw [List.cons_append, hminus]
      exact hfinish true

theorem value_eq_atom (width depth : Nat) {c : Char} (h : c ≠ '"' ∧ c ≠ '[' ∧ c ≠ '\x7b') :
    value width depth (c :: rest) = atom (c :: rest) := by
  unfold value
  split
  case h_6 => rfl
  all_goals
    rename_i heq
    cases heq
    simp at h

theorem value_of_minus (width depth : Nat) {c : Char} (hc : c.isDigit) :
    value width depth ('-' :: c :: rest) = number ('-' :: c :: rest) := by
  rw [value_eq_atom width depth (by decide)]
  unfold atom
  split
  case h_7 => rfl
  all_goals
    rename_i heq
    cases heq
  exact absurd hc (by decide)

theorem value_int (width depth : Nat) {n : Int} (hn : Short n) (h : Ends rest) :
    value width depth ((toString n).toList ++ rest) = .ok (.int n, rest) := by
  obtain ⟨hplus, hminus⟩ := number_digits hn h
  obtain ⟨c, ds, hds, hc, -⟩ := digits_eq_cons n.natAbs
  rw [hds, List.cons_append] at hplus hminus
  rw [toList_toString_int, hds]
  split
  · rw [List.cons_append, value_of_isDigit width depth hc, hplus, Int.natAbs_of_nonneg (by assumption)]
  · rw [List.cons_append, List.cons_append, value_of_minus width depth hc, hminus,
      Int.ofNat_natAbs_of_nonpos (by omega), Int.neg_neg]

end Numbers

section Containers

variable {c : Char} {rest : List Char} {v : Value} {depth : Nat}

theorem skipSpace_cons (h : isSpace c = false) : skipSpace (c :: rest) = c :: rest :=
  List.dropWhile_cons_of_neg (by simp [h])

theorem skipSpace_newLine (level : Nat) (h : isSpace c = false) :
    skipSpace (newLine level ++ c :: rest) = c :: rest := by
  have hspaces : ∀ d ∈ newLine level, isSpace d := by
    intro d hd
    rcases List.mem_cons.mp hd with rfl | hd
    · decide
    · rw [List.eq_of_mem_replicate hd]
      decide
  rw [skipSpace, List.dropWhile_append_of_pos hspaces]
  exact skipSpace_cons h

theorem ends_newLine (level : Nat) (rest : List Char) : Ends (newLine level ++ rest) :=
  ends_cons (by decide)

theorem ends_writeItems (level outer : Nat) (vs : List Value) (rest : List Char) :
    Ends (writeItems level vs ++ (newLine outer ++ rest)) := by
  cases vs with
  | nil => exact ends_newLine outer rest
  | cons v vs => exact ends_cons (by decide)

theorem ends_writeFields (level outer : Nat) (fs : Fields) (rest : List Char) :
    Ends (writeFields level fs ++ (newLine outer ++ rest)) := by
  cases fs with
  | nil => exact ends_newLine outer rest
  | cons f fs => exact ends_cons (by decide)

/-- How the text of a value begins; a list that is not empty is told from an empty one by that. -/
theorem writeAt_eq_cons (h : Restorable depth v) (level : Nat) :
    ∃ c body, writeAt level v = c :: body ∧ isSpace c = false ∧ c ≠ ']' := by
  cases h with
  | null => exact ⟨'n', ['u', 'l', 'l'], rfl, by decide, by decide⟩
  | bool b =>
    cases b with
    | true => exact ⟨'t', ['r', 'u', 'e'], rfl, by decide, by decide⟩
    | false => exact ⟨'f', ['a', 'l', 's', 'e'], rfl, by decide, by decide⟩
  | @int _ n _ =>
    obtain ⟨c, ds, hds, hc, -⟩ := digits_eq_cons n.natAbs
    have hspace : isSpace c = false := by
      cases hs : isSpace c with
      | false => rfl
      | true =>
        simp only [isSpace, Bool.or_eq_true, decide_eq_true_eq] at hs
        rcases hs with ((rfl | rfl) | rfl) | rfl <;> exact absurd hc (by decide)
    have hclose : c ≠ ']' := by
      rintro rfl
      exact absurd hc (by decide)
    have hwritten : writeAt level (.int n) = if 0 ≤ n then c :: ds else '-' :: c :: ds := by
      rw [writeAt, toList_toString_int, hds]
    rw [hwritten]
    split
    · exact ⟨c, ds, rfl, hspace, hclose⟩
    · exact ⟨'-', c :: ds, rfl, by decide, by decide⟩
  | text cs => exact ⟨'"', _, rfl, by decide, by decide⟩
  | @list _ vs _ =>
    cases vs with
    | nil => exact ⟨'[', [']'], rfl, by decide, by decide⟩
    | cons v vs => exact ⟨'[', _, rfl, by decide, by decide⟩
  | @table _ fs _ _ _ =>
    cases fs with
    | nil => exact ⟨'\x7b', ['\x7d'], rfl, by decide, by decide⟩
    | cons f fs => exact ⟨'\x7b', _, rfl, by decide, by decide⟩

variable {item : List Char → ValueRead}

theorem items_writeItems (level outer : Nat) {vs : List Value}
    (hvs : ∀ u ∈ v :: vs, Restorable depth u)
    (hitem : ∀ u ∈ v :: vs, ∀ rest, Ends rest → item (writeAt level u ++ rest) = .ok (u, rest))
    (read : List Value) {n : Nat} (hn : vs.length < n) :
    items item n read (writeAt level v ++ (writeItems level vs ++ (newLine outer ++ ']' :: rest))) =
      .ok (.list (read.reverse ++ v :: vs), rest) := by
  induction vs generalizing v read n with
  | nil =>
    obtain ⟨n, rfl⟩ : ∃ k, n = k + 1 := ⟨n - 1, by omega⟩
    have hv := hitem v (by simp) _ (ends_newLine outer (']' :: rest))
    rw [items, writeItems, List.nil_append, hv]
    simp only [bind, Except.bind, skipSpace_newLine outer (show isSpace ']' = false by decide)]
    simp [pure, Except.pure]
  | cons u vs ih =>
    obtain ⟨n, rfl⟩ : ∃ k, n = k + 1 := ⟨n - 1, by omega⟩
    have hv := hitem v (by simp) _ (ends_writeItems level outer (u :: vs) (']' :: rest))
    have hmore := ih (fun w hw => hvs w (List.mem_cons_of_mem _ hw))
      (fun w hw => hitem w (List.mem_cons_of_mem _ hw)) (v :: read) (n := n)
      (by simpa using hn)
    obtain ⟨c, body, hbody, hspace, -⟩ := writeAt_eq_cons (hvs u (by simp)) level
    have hskip : ∀ more, skipSpace (newLine level ++ (writeAt level u ++ more)) =
        writeAt level u ++ more := by
      intro more
      rw [hbody, List.cons_append]
      exact skipSpace_newLine level hspace
    have hcomma : skipSpace (writeItems level (u :: vs) ++ (newLine outer ++ ']' :: rest)) =
        ',' :: (newLine level ++ (writeAt level u ++
          (writeItems level vs ++ (newLine outer ++ ']' :: rest)))) := by
      simp only [writeItems, List.cons_append, List.append_assoc]
      exact skipSpace_cons (by decide)
    rw [items, hv]
    simp only [bind, Except.bind, hcomma, hskip, hmore]
    simp

theorem put_of_not_mem {key : Text} {fields : Fields} (h : key ∉ fields.keys) (v : Value) :
    fields.put key v = fields ++ [(key, v)] := by
  induction fields with
  | nil => rfl
  | cons f fields ih =>
    simp only [Fields.keys, List.map_cons, List.mem_cons, not_or] at h
    rw [Fields.put, if_neg (Ne.symm h.1), ih h.2]
    rfl

/-- One field of a table, and what its reading goes on with. -/
theorem fields_field (h : Restorable depth v) (level : Nat) (key tail : List Char)
    (hv : item (writeAt level v ++ tail) = .ok (v, tail)) (read : Fields) (n : Nat) :
    fields item (n + 1) read (writeText (Text.ofChars key) ++ ':' :: ' ' :: (writeAt level v ++ tail)) =
      match skipSpace tail with
      | '\x7d' :: rest => .ok (.table (read.put (Text.ofChars key) v), rest)
      | ',' :: rest => fields item n (read.put (Text.ofChars key) v) (skipSpace rest)
      | rest => fail .expectingComma rest := by
  obtain ⟨c, body, hbody, hspace, -⟩ := writeAt_eq_cons h level
  have hskip : skipSpace (' ' :: (writeAt level v ++ tail)) = writeAt level v ++ tail := by
    have hone : skipSpace (' ' :: (writeAt level v ++ tail)) = skipSpace (writeAt level v ++ tail) := rfl
    rw [hone, hbody, List.cons_append]
    exact skipSpace_cons hspace
  rw [writeText_ofChars, fields, string_writeText]
  simp only [bind, Except.bind, skipSpace_cons (show isSpace ':' = false by decide), hskip, hv]
  rfl

theorem fields_writeFields (level outer : Nat) {key : Text} {fs : Fields}
    (hkeys : ∀ k ∈ key :: fs.keys, ∃ cs, k = Text.ofChars cs)
    (hfs : ∀ f ∈ (key, v) :: fs, Restorable depth f.2)
    (hitem : ∀ f ∈ (key, v) :: fs, ∀ rest, Ends rest →
      item (writeAt level f.2 ++ rest) = .ok (f.2, rest))
    (read : Fields) (hnodup : (read.keys ++ key :: fs.keys).Nodup) {n : Nat} (hn : fs.length < n) :
    fields item n read (writeText key ++ ':' :: ' ' :: (writeAt level v ++
        (writeFields level fs ++ (newLine outer ++ '\x7d' :: rest)))) =
      .ok (.table (read ++ (key, v) :: fs), rest) := by
  induction fs generalizing key v read n with
  | nil =>
    obtain ⟨n, rfl⟩ : ∃ k, n = k + 1 := ⟨n - 1, by omega⟩
    obtain ⟨cs, rfl⟩ := hkeys key (by simp)
    have hv := hitem _ List.mem_cons_self _ (ends_newLine outer ('\x7d' :: rest))
    have hnew : Text.ofChars cs ∉ read.keys := fun hmem =>
      (List.nodup_append.mp hnodup).2.2 _ hmem _ (by simp) rfl
    rw [writeFields, List.nil_append, fields_field (hfs _ List.mem_cons_self) level cs _ hv]
    simp only [skipSpace_newLine outer (show isSpace '\x7d' = false by decide), put_of_not_mem hnew]
  | cons f fs ih =>
    obtain ⟨k, u⟩ := f
    obtain ⟨n, rfl⟩ : ∃ k, n = k + 1 := ⟨n - 1, by omega⟩
    obtain ⟨cs, rfl⟩ := hkeys key (by simp)
    have hv := hitem _ List.mem_cons_self _
      (ends_writeFields level outer ((k, u) :: fs) ('\x7d' :: rest))
    have hnew : Text.ofChars cs ∉ read.keys := fun hmem =>
      (List.nodup_append.mp hnodup).2.2 _ hmem _ (by simp) rfl
    have hnodup' : (Fields.keys (read ++ [(Text.ofChars cs, v)]) ++ k :: Fields.keys fs).Nodup := by
      simpa [Fields.keys] using hnodup
    have hmore := ih (fun w hw => hkeys w (List.mem_cons_of_mem _ hw))
      (fun w hw => hfs w (List.mem_cons_of_mem _ hw))
      (fun w hw => hitem w (List.mem_cons_of_mem _ hw)) (read ++ [(Text.ofChars cs, v)]) hnodup'
      (n := n) (by simpa using hn)
    have hcomma : skipSpace (writeFields level ((k, u) :: fs) ++ (newLine outer ++ '\x7d' :: rest)) =
        ',' :: (newLine level ++ (writeText k ++ ':' :: ' ' :: (writeAt level u ++
          (writeFields level fs ++ (newLine outer ++ '\x7d' :: rest))))) := by
      simp only [writeFields, List.cons_append, List.append_assoc]
      exact skipSpace_cons (by decide)
    have hopen : ∀ more, skipSpace (newLine level ++ (writeText k ++ more)) = writeText k ++ more :=
      fun more => skipSpace_newLine level (show isSpace '"' = false by decide)
    rw [fields_field (hfs _ List.mem_cons_self) level cs _ hv]
    simp only [hcomma, hopen, put_of_not_mem hnew, hmore]
    simp

theorem length_writeItems (level : Nat) (vs : List Value) :
    vs.length ≤ (writeItems level vs).length ∧
      ∀ v ∈ vs, (writeAt level v).length ≤ (writeItems level vs).length := by
  induction vs with
  | nil => simp
  | cons v vs ih =>
    simp only [writeItems, List.length_cons, List.length_append, List.forall_mem_cons]
    refine ⟨by omega, by omega, fun u hu => ?_⟩
    have := ih.2 u hu
    omega

theorem length_writeFields (level : Nat) (fs : Fields) :
    fs.length ≤ (writeFields level fs).length ∧
      ∀ f ∈ fs, (writeAt level f.2).length ≤ (writeFields level fs).length := by
  induction fs with
  | nil => simp
  | cons f fs ih =>
    simp only [writeFields, List.length_cons, List.length_append, List.forall_mem_cons]
    refine ⟨by omega, by omega, fun g hg => ?_⟩
    have := ih.2 g hg
    omega

/-- The width only has to be enough for the members of each container, which are no more than the
characters of its text. -/
theorem value_writeAt (h : Restorable depth v) (level : Nat) {width : Nat}
    (hwidth : (writeAt level v).length ≤ width) (hrest : Ends rest) :
    value width depth (writeAt level v ++ rest) = .ok (v, rest) := by
  induction h generalizing level rest with
  | null =>
    rw [writeAt, show "null".toList ++ rest = 'n' :: 'u' :: 'l' :: 'l' :: rest from rfl,
      value_eq_atom width _ (by decide)]
    rfl
  | bool b =>
    cases b with
    | true =>
      rw [writeAt, if_pos rfl, show "true".toList ++ rest = 't' :: 'r' :: 'u' :: 'e' :: rest from rfl,
        value_eq_atom width _ (by decide)]
      rfl
    | false =>
      rw [writeAt, if_neg nofun,
        show "false".toList ++ rest = 'f' :: 'a' :: 'l' :: 's' :: 'e' :: rest from rfl,
        value_eq_atom width _ (by decide)]
      rfl
  | int hn =>
    rw [writeAt]
    exact value_int width _ hn hrest
  | text cs =>
    rw [writeAt, writeText_ofChars, value, string_writeText]
    rfl
  | @list depth vs hvs ih =>
    cases vs with
    | nil => rfl
    | cons v vs =>
      simp only [writeAt, List.length_cons, List.length_append] at hwidth
      have hlen := length_writeItems (level + 1) vs
      have hitem : ∀ u ∈ v :: vs, ∀ rest, Ends rest →
          value width depth (writeAt (level + 1) u ++ rest) = .ok (u, rest) := by
        intro u hu rest hrest
        refine ih u hu (level + 1) ?_ hrest
        rcases List.mem_cons.mp hu with rfl | hu
        · omega
        · have := hlen.2 u hu
          omega
      have hitems : items (value width depth) width [] (writeAt (level + 1) v ++
          (writeItems (level + 1) vs ++ (newLine level ++ ']' :: rest))) = .ok (.list (v :: vs), rest) :=
        items_writeItems (level + 1) level hvs hitem [] (by omega)
      obtain ⟨c, body, hbody, hspace, hclose⟩ := writeAt_eq_cons (hvs v (by simp)) (level + 1)
      have hskip : ∀ more, skipSpace (newLine (level + 1) ++ (writeAt (level + 1) v ++ more)) =
          writeAt (level + 1) v ++ more := by
        intro more
        rw [hbody, List.cons_append]
        exact skipSpace_newLine (level + 1) hspace
      simp only [writeAt, List.cons_append, List.append_assoc, List.nil_append, value, hskip]
      split
      · rename_i heq
        rw [hbody, List.cons_append] at heq
        exact absurd (List.cons.inj heq).1 hclose
      · exact hitems
  | @table depth fs hkeys hnodup hfs ih =>
    cases fs with
    | nil => rfl
    | cons f fs =>
      obtain ⟨key, v⟩ := f
      simp only [writeAt, List.length_cons, List.length_append] at hwidth
      have hlen := length_writeFields (level + 1) fs
      have hitem : ∀ g ∈ (key, v) :: fs, ∀ rest, Ends rest →
          value width depth (writeAt (level + 1) g.2 ++ rest) = .ok (g.2, rest) := by
        intro g hg rest hrest
        refine ih g hg (level + 1) ?_ hrest
        rcases List.mem_cons.mp hg with rfl | hg
        · simp only
          omega
        · have := hlen.2 g hg
          omega
      have hfields : fields (value width depth) width [] (writeText key ++ ':' :: ' ' ::
          (writeAt (level + 1) v ++ (writeFields (level + 1) fs ++ (newLine level ++ '\x7d' :: rest)))) =
          .ok (.table ((key, v) :: fs), rest) :=
        fields_writeFields (level + 1) level hkeys hfs hitem []
          (by simpa [Fields.keys] using hnodup) (by omega)
      have hskip : ∀ more, skipSpace (newLine (level + 1) ++ (writeText key ++ more)) =
          writeText key ++ more :=
        fun more => skipSpace_newLine (level + 1) (show isSpace '"' = false by decide)
      simp only [writeAt, List.cons_append, List.append_assoc, List.nil_append, value, hskip]
      exact hfields

theorem isAscii_of_isDigit {ds : List Char} (h : ∀ d ∈ ds, d.isDigit) : IsAscii ds := by
  intro d hd
  have hle := toNat_of_isDigit (h d hd)
  omega

@[simp] theorem isAscii_newLine (level : Nat) : IsAscii (newLine level) := by
  have hspaces : IsAscii (List.replicate (2 * level) ' ') := by
    intro d hd
    rw [List.eq_of_mem_replicate hd]
    decide
  simp [newLine, hspaces]

theorem isAscii_writeItems {level : Nat} {vs : List Value} (h : ∀ v ∈ vs, IsAscii (writeAt level v)) :
    IsAscii (writeItems level vs) := by
  induction vs with
  | nil => simp [writeItems]
  | cons v vs ih =>
    have hmore := ih fun u hu => h u (List.mem_cons_of_mem _ hu)
    simp [writeItems, h v, hmore]

theorem isAscii_writeFields {level : Nat} {fs : Fields} (h : ∀ f ∈ fs, IsAscii (writeAt level f.2)) :
    IsAscii (writeFields level fs) := by
  induction fs with
  | nil => simp [writeFields]
  | cons f fs ih =>
    have hmore := ih fun g hg => h g (List.mem_cons_of_mem _ hg)
    have hvalue := h f List.mem_cons_self
    simp [writeFields, hvalue, hmore]

theorem isAscii_writeAt (h : Restorable depth v) (level : Nat) : IsAscii (writeAt level v) := by
  induction h generalizing level with
  | null => simp [writeAt]
  | bool b => cases b <;> simp [writeAt]
  | @int _ n _ =>
    have hdigits := isAscii_of_isDigit (isDigit_of_mem_digits (n := n.natAbs))
    rw [writeAt, toList_toString_int]
    split <;> simp [hdigits]
  | text cs => exact isAscii_writeText _
  | @list _ vs _ ih =>
    cases vs with
    | nil => simp [writeAt]
    | cons v vs =>
      have hitems := isAscii_writeItems fun u hu => ih u (List.mem_cons_of_mem _ hu) (level + 1)
      have hv := ih v List.mem_cons_self (level + 1)
      simp [writeAt, hv, hitems]
  | @table _ fs _ _ _ ih =>
    cases fs with
    | nil => simp [writeAt]
    | cons f fs =>
      have hfields := isAscii_writeFields fun g hg => ih g (List.mem_cons_of_mem _ hg) (level + 1)
      have hv := ih f List.mem_cons_self (level + 1)
      simp [writeAt, hv, hfields]

/-- The text of a value is ASCII, and it is read back as the value. -/
theorem read_write (h : Restorable deepest v) : IsAscii (write v) ∧ read (write v) = .ok v := by
  have hascii : IsAscii (write v) := isAscii_writeAt h 0
  obtain ⟨c, body, hbody, hspace, -⟩ := writeAt_eq_cons h 0
  have hwritten : write v = c :: body := hbody
  have hmark : c ≠ '\ufeff' := by
    rintro rfl
    have := hascii _ (by rw [hwritten]; exact List.mem_cons_self)
    exact absurd this (by decide)
  have hvalue : value ((write v).length + 1) deepest (write v) = .ok (v, []) := by
    have hwidth : (writeAt 0 v).length ≤ (write v).length + 1 := Nat.le_succ _
    have hread := value_writeAt h 0 hwidth (show Ends [] from nofun)
    rwa [List.append_nil] at hread
  refine ⟨hascii, ?_⟩
  rw [read, hwritten] at *
  unfold readWith
  split
  · rename_i heq
    exact absurd (List.cons.inj heq).1 hmark
  · rw [skipSpace_cons hspace, hvalue]
    rfl

end Containers

end ApiLint.Json
