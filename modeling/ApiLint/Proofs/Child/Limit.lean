import ApiLint.Proofs.Child.Rounds
import Mathlib.Algebra.Order.Floor.Semiring
import Mathlib.Algebra.Order.Field.Basic
import Mathlib.Data.Rat.Floor
import Mathlib.Tactic.Linarith
import Mathlib.Tactic.NormNum

/-! How long a wait can go on. When every slice that runs out takes its time by the clock, all slices but
the last one are as long as the interval, so that there are no more of them than intervals in the
timeout. -/

namespace ApiLint.Child

variable {τ ε ω : Type} [Field τ] [LinearOrder τ] [IsStrictOrderedRing τ] {s : Surroundings τ ε ω}
  {interval timeout start now : τ} {slices : List τ}

namespace Surroundings

/-- The clock of a wait does not go back at its start, and every slice that runs out takes its time. -/
structure KeepsTime (s : Surroundings τ ε ω) (interval timeout start : τ) : Prop where
  first : ∀ now, s.clock [] = .ok now → start ≤ now
  expired : ∀ earlier next now later, s.Outlasts interval (start + timeout) (next :: earlier) →
    s.clock earlier = .ok now → s.clock (next :: earlier) = .ok later → now + next ≤ later

/-- Before the deadline every slice had the whole interval. -/
theorem KeepsTime.le_of_early (hkeeps : s.KeepsTime interval timeout start)
    (h : s.Outlasts interval (start + timeout) slices) (hclock : s.clock slices = .ok now)
    (hearly : now < start + timeout) : start + slices.length * interval ≤ now := by
  induction slices generalizing now with
  | nil => simpa using hkeeps.first now hclock
  | cons next earlier ih =>
    obtain ⟨hearlier, hpasses⟩ := outlasts_cons_iff.mp h
    obtain ⟨before, hbefore, hahead, hnext⟩ := hpasses.early
    have hpast := ih hearlier hbefore hahead
    have hlater := hkeeps.expired earlier next before now h hbefore hclock
    have hwhole : next = interval := by
      rcases min_choice interval (start + timeout - before) with hmin | hmin
      · rw [hnext, hmin]
      -- a shortened slice would have brought the clock to the deadline
      · rw [hnext, hmin] at hlater
        linarith
    rw [hwhole] at hlater
    push_cast [List.length_cons]
    linarith

variable [FloorSemiring τ]

theorem KeepsTime.length_lt (hkeeps : s.KeepsTime interval timeout start) (hinterval : 0 < interval)
    (h : s.Outlasts interval (start + timeout) slices) (hclock : s.clock slices = .ok now)
    (hearly : now < start + timeout) : slices.length < ⌈timeout / interval⌉₊ := by
  have hpast := hkeeps.le_of_early h hclock hearly
  rw [Nat.lt_ceil, lt_div_iff₀ hinterval]
  linarith

theorem KeepsTime.length_le (hkeeps : s.KeepsTime interval timeout start) (hinterval : 0 < interval)
    (h : s.Outlasts interval (start + timeout) slices) : slices.length ≤ ⌈timeout / interval⌉₊ := by
  cases slices with
  | nil => exact Nat.zero_le _
  | cons next earlier =>
    obtain ⟨hearlier, hpasses⟩ := outlasts_cons_iff.mp h
    obtain ⟨before, hbefore, hahead, -⟩ := hpasses.early
    exact hkeeps.length_lt hinterval hearlier hbefore hahead

theorem KeepsTime.length_le_of_stops {ending : Ending ε ω} {last : List τ}
    (hkeeps : s.KeepsTime interval timeout start) (hinterval : 0 < interval)
    (h : s.Outlasts interval (start + timeout) slices)
    (hstops : s.Stops interval (start + timeout) slices ending last) :
    last.length ≤ ⌈timeout / interval⌉₊ := by
  cases hstops with
  | cancelled => exact hkeeps.length_le hinterval h
  | timedOut => exact hkeeps.length_le hinterval h
  | unasked => exact hkeeps.length_le hinterval h
  | unread => exact hkeeps.length_le hinterval h
  | finished _ hclock hearly _ => exact hkeeps.length_lt hinterval h hclock hearly

/-- A wait whose slices take their time has ended after one round more than intervals begin in the
timeout. -/
theorem KeepsTime.exists_rounds (hkeeps : s.KeepsTime interval timeout start) (hinterval : 0 < interval) :
    ∃ w, rounds s interval (start + timeout) (⌈timeout / interval⌉₊ + 1) [] = some w ∧
      w.slices.length ≤ ⌈timeout / interval⌉₊ := by
  have hsub : ∀ a b : τ, a - b ≤ 0 ↔ a ≤ b := fun _ _ => sub_nonpos
  rcases rounds_or_outlasts hsub (⌈timeout / interval⌉₊ + 1) with ⟨w, hw⟩ | ⟨slices, h, hlength⟩
  · obtain ⟨earlier, h, hstops⟩ := exists_stops_of_rounds hsub outlasts_nil hw
    exact ⟨w, hw, hkeeps.length_le_of_stops hinterval h hstops⟩
  · have hle := hkeeps.length_le hinterval h
    omega

end Surroundings

open Surroundings

variable [FloorSemiring τ]

/-- Every wait for a child comes to an end when the slices take their time. -/
theorem exists_wait (hinterval : 0 < interval)
    (hkeeps : ∀ start, s.start = .ok start → s.KeepsTime interval timeout start) :
    ∃ w, wait s interval timeout (⌈timeout / interval⌉₊ + 1) = some w ∧
      w.slices.length ≤ ⌈timeout / interval⌉₊ := by
  unfold wait
  cases hstart : s.start with
  | error fault => exact ⟨_, rfl, Nat.zero_le _⟩
  | ok start => exact (hkeeps start hstart).exists_rounds hinterval

/-- A wait whose slices take their time ends, and it asks the child for no more slices than intervals
begin in the timeout, for none when there is no time at all. -/
theorem wait_ends_within_timeout (hinterval : 0 < interval) (s : Surroundings τ ε ω) (timeout : τ)
    (hkeeps : ∀ start, s.start = .ok start → s.KeepsTime interval timeout start) :
    ∃ w, (∀ most, ⌈timeout / interval⌉₊ < most → wait s interval timeout most = some w) ∧
      w.slices.length ≤ ⌈timeout / interval⌉₊ ∧ (timeout ≤ 0 → w.slices = []) := by
  obtain ⟨w, hw, hlength⟩ := exists_wait hinterval hkeeps
  refine ⟨w, fun most hmost => wait_of_le hmost hw, hlength, fun htimeout => ?_⟩
  rw [Nat.ceil_eq_zero.mpr (div_nonpos_of_nonpos_of_nonneg htimeout hinterval.le)] at hlength
  exact List.length_eq_zero_iff.mp (Nat.le_zero.mp hlength)

/-- Two whole slices and a shortened one, by a clock that goes on with the slices. -/
theorem wait_ends_within_quarter :
    let s : Surroundings ℚ Empty Unit :=
      ⟨.ok 0, fun slices => .ok slices.sum, none, fun _ _ => none, fun _ => true, fun _ => false⟩
    (0 : ℚ) < 1 / 10 ∧ (∀ start, s.start = .ok start → s.KeepsTime (1 / 10) (1 / 4) start) ∧
      ⌈(1 / 4 : ℚ) / (1 / 10)⌉₊ = 3 ∧
      ∃ w, wait s (1 / 10) (1 / 4) 4 = some w ∧ w.slices.length ≤ 3 := by
  intro s
  have hinterval : (0 : ℚ) < 1 / 10 := by norm_num
  have hkeeps : ∀ start, s.start = .ok start → s.KeepsTime (1 / 10) (1 / 4) start := by
    rintro start ⟨⟩
    refine ⟨?_, ?_⟩
    · rintro now ⟨⟩
      exact le_refl _
    · rintro earlier next now later - ⟨⟩ ⟨⟩
      rw [List.sum_cons, add_comm]
  have hceil : ⌈(1 / 4 : ℚ) / (1 / 10)⌉₊ = 3 := by
    rw [Nat.ceil_eq_iff (by decide)]
    norm_num
  obtain ⟨w, hw, hlength, -⟩ := wait_ends_within_timeout hinterval s (1 / 4) hkeeps
  rw [hceil] at hw hlength
  exact ⟨hinterval, hkeeps, hceil, w, hw 4 (by decide), hlength⟩

end ApiLint.Child
