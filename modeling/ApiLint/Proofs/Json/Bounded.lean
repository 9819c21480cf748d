import ApiLint.Issue.Batch
import ApiLint.Proofs.Faults
import ApiLint.Proofs.Json.WholeNumber
import Mathlib.Algebra.Group.Nat.Defs
import Mathlib.Data.List.Induction

/-! How long whole numbers get. The reader refuses one that is longer than it may write, and what a
schema makes a whole number of is no longer, so the numbers of an issue that was read can be written and
read again. -/

namespace ApiLint

/-- A whole number that has no more digits than the text of one may have. -/
def Short (n : Int) : Prop :=
  n.natAbs < 10 ^ longestInteger

theorem toNat_of_isDigit {d : Char} (h : d.isDigit) : 48 ≤ d.toNat ∧ d.toNat ≤ 57 := by
  simpa [Char.isDigit, UInt32.le_iff_toNat_le] using h

theorem ofDigits_append (cs : List Char) (d : Char) :
    ofDigits (cs ++ [d]) = 10 * ofDigits cs + (d.toNat - '0'.toNat) := by
  simp [ofDigits, List.foldl_append]

theorem ofDigits_lt {ds : List Char} (h : ∀ d ∈ ds, d.isDigit) : ofDigits ds < 10 ^ ds.length := by
  induction ds using List.reverseRecOn with
  | nil => decide
  | append_singleton ds d ih =>
    have hds := ih fun c hc => h c (List.mem_append_left _ hc)
    have hd : d.toNat - '0'.toNat < 10 := by
      have hle := toNat_of_isDigit (h d (by simp))
      simp only [show '0'.toNat = 48 from rfl]
      omega
    rw [ofDigits_append, List.length_append, List.length_singleton, Nat.pow_succ]
    omega

theorem short_ofDigits {ds : List Char} (hd : ∀ d ∈ ds, d.isDigit) (hlen : ds.length ≤ longestInteger)
    (negative : Bool) : Short (if negative then -(ofDigits ds : Int) else ofDigits ds) := by
  have hlt : ofDigits ds < 10 ^ longestInteger :=
    (ofDigits_lt hd).trans_le (Nat.pow_le_pow_right (by decide) hlen)
  cases negative <;> simpa [Short] using hlt

theorem short_of_lt {n : Int} (h : n.natAbs < 2 ^ 63) : Short n := by
  have hpow : 2 ^ 63 ≤ 10 ^ longestInteger :=
    (show 2 ^ 63 ≤ 10 ^ 19 by decide).trans (Nat.pow_le_pow_right (by decide) (by decide))
  exact h.trans_le hpow

inductive Value.ShortNumbers : Value → Prop where
  | null : ShortNumbers .null
  | bool (b : Bool) : ShortNumbers (.bool b)
  | int {n : Int} : Short n → ShortNumbers (.int n)
  | float (x : Float) : ShortNumbers (.float x)
  | text (t : Text) : ShortNumbers (.text t)
  | list {vs : List Value} : (∀ v ∈ vs, ShortNumbers v) → ShortNumbers (.list vs)
  | table {fields : Fields} : (∀ f ∈ fields, ShortNumbers f.2) → ShortNumbers (.table fields)

namespace Json

section

variable {cs rest : List Char} {v : Value} {item : List Char → ValueRead}

theorem shortNumbers_put {fields : Fields} (key : Text) (h : ∀ f ∈ fields, f.2.ShortNumbers)
    (hv : v.ShortNumbers) : ∀ f ∈ fields.put key v, f.2.ShortNumbers := by
  induction fields with
  | nil => simpa [Fields.put] using hv
  | cons f fields ih =>
    obtain ⟨k, u⟩ := f
    have hu : u.ShortNumbers := h (k, u) List.mem_cons_self
    have hfields : ∀ f ∈ fields, f.2.ShortNumbers := fun f hf => h f (List.mem_cons_of_mem _ hf)
    rw [Fields.put]
    split
    · exact List.forall_mem_cons.mpr ⟨hv, hfields⟩
    · exact List.forall_mem_cons.mpr ⟨hu, ih hfields⟩

theorem shortNumbers_finishNumber {negative : Bool} {whole : List Char} (hd : ∀ d ∈ whole, d.isDigit)
    (h : finishNumber negative whole cs = .ok (v, rest)) : v.ShortNumbers := by
  unfold finishNumber at h
  split at h
  · split at h
    · cases h
    · rename_i hlen
      cases h
      exact .int (short_ofDigits hd (Nat.not_lt.mp hlen) negative)
  all_goals
    cases h
    exact .float _

theorem shortNumbers_number (h : number cs = .ok (v, rest)) : v.ShortNumbers := by
  unfold number at h
  split at h
  rename_i negative body _
  split at h
  · exact shortNumbers_finishNumber (List.forall_mem_singleton.mpr rfl) h
  · rename_i c more _
    split at h
    · rename_i hc
      refine shortNumbers_finishNumber (fun d hd => ?_) h
      rcases List.mem_cons.mp hd with rfl | hd
      · exact hc
      · exact List.mem_takeWhile_imp hd
    · cases h
  · cases h

/-- A value that is neither a string nor a container is a number or one of six words. -/
theorem number_or_word_of_atom (h : atom cs = .ok (v, rest)) :
    number cs = .ok (v, rest) ∨
      v.ShortNumbers ∧ ∃ c ∈ ['n', 't', 'f', 'N', 'I', '-'], ∃ tail, cs = c :: tail := by
  unfold atom at h
  split at h
  · cases h; exact Or.inr ⟨.null, 'n', by decide, _, rfl⟩
  · cases h; exact Or.inr ⟨.bool true, 't', by decide, _, rfl⟩
  · cases h; exact Or.inr ⟨.bool false, 'f', by decide, _, rfl⟩
  · cases h; exact Or.inr ⟨.float _, 'N', by decide, _, rfl⟩
  · cases h; exact Or.inr ⟨.float _, 'I', by decide, _, rfl⟩
  · cases h; exact Or.inr ⟨.float _, '-', by decide, _, rfl⟩
  · exact Or.inl h

theorem shortNumbers_atom (h : atom cs = .ok (v, rest)) : v.ShortNumbers := by
  rcases number_or_word_of_atom h with hnumber | ⟨hshort, -⟩
  · exact shortNumbers_number hnumber
  · exact hshort

theorem shortNumbers_items (hitem : ∀ cs v rest, item cs = .ok (v, rest) → v.ShortNumbers) {n : Nat}
    {read : List Value} (hread : ∀ u ∈ read, u.ShortNumbers)
    (h : items item n read cs = .ok (v, rest)) : v.ShortNumbers := by
  induction n generalizing read cs with
  | zero => cases h
  | succ n ih =>
    obtain ⟨⟨u, more⟩, hu, h⟩ := bind_eq_ok_iff.mp h
    have hread' : ∀ w ∈ u :: read, w.ShortNumbers :=
      List.forall_mem_cons.mpr ⟨hitem _ _ _ hu, hread⟩
    simp only at h
    split at h
    · cases h
      exact .list fun w hw => hread' w (List.mem_reverse.mp hw)
    · exact ih hread' h
    · cases h

theorem shortNumbers_fields (hitem : ∀ cs v rest, item cs = .ok (v, rest) → v.ShortNumbers) {n : Nat}
    {read : Fields} (hread : ∀ f ∈ read, f.2.ShortNumbers)
    (h : fields item n read cs = .ok (v, rest)) : v.ShortNumbers := by
  induction n generalizing read cs with
  | zero => cases h
  | succ n ih =>
    unfold fields at h
    split at h
    · obtain ⟨⟨key, behind⟩, -, h⟩ := bind_eq_ok_iff.mp h
      simp only at h
      split at h
      · obtain ⟨⟨u, more⟩, hu, h⟩ := bind_eq_ok_iff.mp h
        have hread' := shortNumbers_put key hread (hitem _ _ _ hu)
        simp only at h
        split at h
        · cases h
          exact .table hread'
        · exact ih hread' h
        · cases h
      · cases h
    · cases h

theorem shortNumbers_value {width depth : Nat} (h : value width depth cs = .ok (v, rest)) :
    v.ShortNumbers := by
  induction depth using Nat.strongRecOn generalizing cs v rest with
  | ind depth ih =>
    revert h
    fun_cases value width depth cs with
    | case1 _ opened =>
      intro h
      obtain ⟨⟨t, more⟩, -, h⟩ := bind_eq_ok_iff.mp h
      cases h
      exact .text t
    | case2 | case3 =>
      intro h
      cases h
    | case4 =>
      intro h
      cases h
      exact .list (List.forall_mem_nil _)
    | case5 depth =>
      exact shortNumbers_items (fun _ _ _ => ih depth (Nat.lt_succ_self depth)) (List.forall_mem_nil _)
    | case6 =>
      intro h
      cases h
      exact .table (List.forall_mem_nil _)
    | case7 depth =>
      exact shortNumbers_fields (fun _ _ _ => ih depth (Nat.lt_succ_self depth)) (List.forall_mem_nil _)
    | case8 => exact shortNumbers_atom

/-- A document is a value between blanks. -/
theorem exists_value_of_read (h : read cs = .ok v) :
    ∃ width rest, value width deepest (skipSpace cs) = .ok (v, rest) := by
  have hread : readWith deepest cs = .ok v := by
    rw [read] at h
    cases hw : readWith deepest cs with
    | ok u =>
      rw [hw] at h
      cases h
      rfl
    | error stop =>
      rw [hw] at h
      cases h
  unfold readWith at hread
  split at hread
  · cases hread
  · obtain ⟨⟨u, more⟩, hu, hread⟩ := bind_eq_ok_iff.mp hread
    simp only at hread
    split at hread
    · cases hread
      exact ⟨_, _, hu⟩
    · cases hread

theorem shortNumbers_of_read (h : read cs = .ok v) : v.ShortNumbers := by
  obtain ⟨_, _, hvalue⟩ := exists_value_of_read h
  exact shortNumbers_value hvalue

end

end Json

namespace Schema

theorem short_wholeOfPlain {cs : List Char} {n : Int} (h : wholeOfPlain cs = .ok n) : Short n := by
  unfold wholeOfPlain at h
  simp only at h
  split at h
  · cases h
  · split at h
    · cases h
    · rename_i hlen
      split at h
      · cases h
      · rename_i hend
        cases h
        have hdigits : ∀ d ∈ (splitSign cs).2.takeWhile Char.isDigit, d.isDigit :=
          fun d hd => List.mem_takeWhile_imp hd
        have hbody : (splitSign cs).2.length ≤ cs.length := by
          unfold splitSign
          split <;> simp
        have hle := (List.takeWhile_prefix (p := Char.isDigit) (l := (splitSign cs).2)).length_le
        have hbehind : ((splitSign cs).2.dropWhile Char.isDigit).length = 0 := by simpa using hend
        exact short_ofDigits hdigits (by omega) _

theorem short_whole {v : Value} {n : Int} (hv : v.ShortNumbers) (h : whole v = .ok n) :
    Short n := by
  cases hv with
  | int hn =>
    cases h
    exact hn
  | bool b =>
    cases h
    cases b <;> exact short_of_lt (by decide)
  | float x =>
    simp only [whole, wholeOfFloat] at h
    split at h
    · cases h
    · split at h
      · cases h
      · split at h
        · rename_i hbound
          cases h
          refine short_of_lt ?_
          have hpow : doubleBound = 2 ^ 63 := rfl
          omega
        · cases h
  | text t =>
    simp only [whole, wholeOfChars] at h
    split at h
    · split at h
      · exact short_wholeOfPlain h
      · cases h
    · cases h
  | null | list _ | table _ => cases h

end Schema

end ApiLint
