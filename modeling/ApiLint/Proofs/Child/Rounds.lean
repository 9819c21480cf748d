import ApiLint.Child.Wait
import Mathlib.Algebra.Order.Ring.Int
import Mathlib.Order.Lattice

/-! Where a wait comes to its end. It outlasts its checks and slices as long as the signal is not set, the
deadline lies ahead and the child does not finish; the first thing that goes otherwise ends it, and the
child is left behind by no end. Times may be rounded, as long as a difference tells which of two times is
the later one. -/

namespace ApiLint.Child

variable {τ ε ω : Type} {s : Surroundings τ ε ω} {ending : Ending ε ω} {slices earlier last : List τ}
  {next : τ}

theorem reaped_terminate (h : Handle) (running : Bool) : (h.terminate running).reaped = true := by
  unfold Handle.terminate
  simp only
  split
  · assumption
  · rfl

/-- Only a child that the last look finds running is killed. -/
theorem killed_terminate_started (running : Bool) :
    (Handle.started.terminate running).killed = running := by
  cases running <;> rfl

theorem leavesRunning_iff {w : Waited τ ε ω} :
    w.leavesRunning s = true ↔
      (∀ output, w.ending ≠ .finished output) ∧ s.running w.slices = true := by
  unfold Waited.leavesRunning
  cases w.ending <;> simp

section

variable [Sub τ] [LT τ] [LE τ] [OfNat τ 0] [DecidableLT τ] [DecidableLE τ]
  {interval timeout deadline : τ} {w w' : Waited τ ε ω} {e e' : Execution τ ε ω} {most more : Nat}

/-- More rounds than it takes change nothing. -/
theorem rounds_of_le (hle : most ≤ more) (hw : rounds s interval deadline most slices = some w) :
    rounds s interval deadline more slices = some w := by
  induction most generalizing slices more with
  | zero => cases hw
  | succ most ih =>
    cases more with
    | zero => cases hle
    | succ more =>
      have hle := Nat.le_of_succ_le_succ hle
      rw [rounds] at hw ⊢
      cases hset : s.isCancelled slices with
      | error fault => simpa only [hset] using hw
      | ok cancelled =>
        cases cancelled with
        | true => simpa only [hset] using hw
        | false =>
          cases hclock : s.clock slices with
          | error fault => simpa only [hset, hclock] using hw
          | ok now =>
            simp only [hset, hclock] at hw ⊢
            split
            · rename_i hlate
              rwa [if_pos hlate] at hw
            · rename_i hearly
              rw [if_neg hearly] at hw
              split
              · rename_i hchild
                rwa [hchild] at hw
              · rename_i hchild
                rw [hchild] at hw
                exact ih hle hw

variable [Add τ]

theorem wait_of_le (hle : most ≤ more) (hw : wait s interval timeout most = some w) :
    wait s interval timeout more = some w := by
  unfold wait at hw ⊢
  cases hstart : s.start with
  | error fault => rwa [hstart] at hw
  | ok start =>
    rw [hstart] at hw
    exact rounds_of_le hle hw

theorem wait_unique (hw : wait s interval timeout most = some w)
    (hw' : wait s interval timeout more = some w') : w = w' := by
  rcases Nat.le_total most more with hle | hle
  · exact Option.some.inj ((wait_of_le hle hw).symm.trans hw')
  · exact Option.some.inj (hw.symm.trans (wait_of_le hle hw'))

theorem execute_unique (he : execute s interval timeout most = some e)
    (he' : execute s interval timeout more = some e') : e = e' := by
  obtain ⟨w, hw, rfl⟩ := Option.map_eq_some_iff.mp he
  obtain ⟨w', hw', rfl⟩ := Option.map_eq_some_iff.mp he'
  rw [wait_unique hw hw']

end

variable [LinearOrder τ]

theorem slice_eq_min (interval remaining : τ) : slice interval remaining = min interval remaining := by
  unfold slice
  split
  · rename_i h
    exact (min_eq_right h.le).symm
  · rename_i h
    exact (min_eq_left (not_lt.mp h)).symm

namespace Surroundings

section

variable [Sub τ] {interval deadline : τ}

/-- Nothing ends a wait at the check behind some slices, nor in the slice after it, which runs out. -/
structure Passes (s : Surroundings τ ε ω) (interval deadline : τ) (earlier : List τ) (next : τ) :
    Prop where
  unset : s.isCancelled earlier = .ok false
  early : ∃ now, s.clock earlier = .ok now ∧ now < deadline ∧ next = min interval (deadline - now)
  expired : s.communicate earlier next = none

/-- No check and no slice up to now has ended a wait, whose last slice comes first. -/
def Outlasts (s : Surroundings τ ε ω) (interval deadline : τ) (slices : List τ) : Prop :=
  ∀ next earlier, next :: earlier <:+ slices → s.Passes interval deadline earlier next

/-- What ends a wait at the check behind some slices or in the slice after it, and the slices that it has
waited by then. -/
inductive Stops (s : Surroundings τ ε ω) (interval deadline : τ) (slices : List τ) :
    Ending ε ω → List τ → Prop where
  | cancelled : s.isCancelled slices = .ok true → Stops s interval deadline slices .cancelled slices
  | timedOut {now : τ} : s.isCancelled slices = .ok false → s.clock slices = .ok now → deadline ≤ now →
      Stops s interval deadline slices .timedOut slices
  | finished {now : τ} {output : ω} : s.isCancelled slices = .ok false → s.clock slices = .ok now →
      now < deadline → s.communicate slices (min interval (deadline - now)) = some output →
      Stops s interval deadline slices (.finished output) (min interval (deadline - now) :: slices)
  | unasked {fault : ε} : s.isCancelled slices = .error fault →
      Stops s interval deadline slices (.failed fault) slices
  | unread {fault : ε} : s.isCancelled slices = .ok false → s.clock slices = .error fault →
      Stops s interval deadline slices (.failed fault) slices

theorem outlasts_nil : s.Outlasts interval deadline [] := by
  intro next earlier h
  cases List.suffix_nil.mp h

theorem outlasts_cons_iff :
    s.Outlasts interval deadline (next :: earlier) ↔
      s.Outlasts interval deadline earlier ∧ s.Passes interval deadline earlier next := by
  constructor
  · intro h
    exact ⟨fun n e he => h n e (he.trans (List.suffix_cons _ _)), h _ _ List.suffix_rfl⟩
  · rintro ⟨h, hpasses⟩ n e he
    rcases List.suffix_cons_iff.mp he with heq | hsuffix
    · obtain ⟨rfl, rfl⟩ := List.cons.inj heq
      exact hpasses
    · exact h n e hsuffix

theorem stops_or_passes (s : Surroundings τ ε ω) (interval deadline : τ) (slices : List τ) :
    (∃ ending last, s.Stops interval deadline slices ending last) ∨
      ∃ next, s.Passes interval deadline slices next := by
  cases hset : s.isCancelled slices with
  | error fault => exact Or.inl ⟨_, _, .unasked hset⟩
  | ok cancelled =>
    cases cancelled with
    | true => exact Or.inl ⟨_, _, .cancelled hset⟩
    | false =>
      cases hclock : s.clock slices with
      | error fault => exact Or.inl ⟨_, _, .unread hset hclock⟩
      | ok now =>
        rcases le_or_gt deadline now with hlate | hearly
        · exact Or.inl ⟨_, _, .timedOut hset hclock hlate⟩
        · cases hchild : s.communicate slices (min interval (deadline - now)) with
          | some output => exact Or.inl ⟨_, _, .finished hset hclock hearly hchild⟩
          | none => exact Or.inr ⟨_, hset, ⟨now, hclock, hearly, rfl⟩, hchild⟩

/-- Every slice of a wait goes back to a reading of the clock before the deadline. -/
theorem Stops.exists_reading (h : s.Outlasts interval deadline earlier)
    (hstops : s.Stops interval deadline earlier ending last) {front : List τ}
    (hfront : next :: front <:+ last) :
    ∃ now, s.clock front = .ok now ∧ now < deadline ∧ next = min interval (deadline - now) := by
  cases hstops with
  | cancelled => exact (h _ _ hfront).early
  | timedOut => exact (h _ _ hfront).early
  | unasked => exact (h _ _ hfront).early
  | unread => exact (h _ _ hfront).early
  | finished _ hclock hearly _ =>
    rcases List.suffix_cons_iff.mp hfront with heq | hsuffix
    · obtain ⟨rfl, rfl⟩ := List.cons.inj heq
      exact ⟨_, hclock, hearly, rfl⟩
    · exact (h _ _ hsuffix).early

end

/-- A wait, in as many rounds as it takes, ends like this behind these slices. -/
def Ends [Add τ] [Sub τ] [Zero τ] (s : Surroundings τ ε ω) (interval timeout : τ) (ending : Ending ε ω)
    (slices : List τ) : Prop :=
  ∃ most w, wait s interval timeout most = some w ∧ w.ending = ending ∧ w.slices = slices

end Surroundings

open Surroundings

section

variable [Sub τ] [Zero τ] {interval timeout deadline start : τ} {w : Waited τ ε ω} {most more : Nat}
  (hsub : ∀ a b : τ, a - b ≤ 0 ↔ a ≤ b)

include hsub

theorem rounds_of_passes (h : s.Passes interval deadline slices next) (more : Nat) :
    rounds s interval deadline (more + 1) slices = rounds s interval deadline more (next :: slices) := by
  obtain ⟨hset, ⟨now, hclock, hearly, rfl⟩, hchild⟩ := h
  have hremains : ¬ deadline - now ≤ 0 := (hsub deadline now).not.mpr hearly.not_ge
  simp only [rounds, hset, hclock, if_neg hremains, slice_eq_min, hchild]

theorem rounds_of_stops (h : s.Stops interval deadline slices ending last) :
    ∃ w, w.ending = ending ∧ w.slices = last ∧
      ∀ more, rounds s interval deadline (more + 1) slices = some w := by
  let past := slices.length
  cases h with
  | cancelled hset =>
    exact ⟨⟨.cancelled, slices, past + 1, s.asked (past + 1)⟩, rfl, rfl, fun more => by
      simp only [rounds, hset, past]⟩
  | timedOut hset hclock hlate =>
    have hnothing := (hsub _ _).mpr hlate
    exact ⟨⟨.timedOut, slices, past + 2, s.asked (past + 1)⟩, rfl, rfl, fun more => by
      simp only [rounds, hset, hclock, if_pos hnothing, past]⟩
  | @finished now output hset hclock hearly hchild =>
    have hremains : ¬ deadline - now ≤ 0 := (hsub deadline now).not.mpr hearly.not_ge
    exact ⟨⟨.finished output, min interval (deadline - now) :: slices, past + 2, s.asked (past + 1)⟩,
      rfl, rfl, fun more => by
        simp only [rounds, hset, hclock, if_neg hremains, slice_eq_min, hchild, past]⟩
  | @unasked fault hset =>
    exact ⟨⟨.failed fault, slices, past + 1, s.asked (past + 1)⟩, rfl, rfl, fun more => by
      simp only [rounds, hset, past]⟩
  | @unread fault hset hclock =>
    exact ⟨⟨.failed fault, slices, past + 2, s.asked (past + 1)⟩, rfl, rfl, fun more => by
      simp only [rounds, hset, hclock, past]⟩

/-- The rounds behind slices that a wait outlasts are rounds of the whole wait. -/
theorem rounds_of_outlasts (h : s.Outlasts interval deadline slices) (more : Nat) :
    rounds s interval deadline (slices.length + more) [] = rounds s interval deadline more slices := by
  induction slices generalizing more with
  | nil => rw [List.length_nil, Nat.zero_add]
  | cons next earlier ih =>
    obtain ⟨hearlier, hpasses⟩ := outlasts_cons_iff.mp h
    rw [List.length_cons, Nat.add_assoc, Nat.add_comm 1 more, ih hearlier, rounds_of_passes hsub hpasses]

/-- What rounds end with, they end with at a check that the wait comes to. -/
theorem exists_stops_of_rounds (h : s.Outlasts interval deadline slices)
    (hw : rounds s interval deadline most slices = some w) :
    ∃ earlier, s.Outlasts interval deadline earlier ∧
      s.Stops interval deadline earlier w.ending w.slices := by
  induction most generalizing slices with
  | zero => cases hw
  | succ most ih =>
    rcases stops_or_passes s interval deadline slices with ⟨ending, last, hstops⟩ | ⟨next, hpasses⟩
    · obtain ⟨v, rfl, rfl, hv⟩ := rounds_of_stops hsub hstops
      obtain rfl := Option.some.inj (hw.symm.trans (hv most))
      exact ⟨slices, h, hstops⟩
    · rw [rounds_of_passes hsub hpasses] at hw
      exact ih (outlasts_cons_iff.mpr ⟨h, hpasses⟩) hw

/-- A wait that has not ended in so many rounds has waited so many slices. -/
theorem rounds_or_outlasts (n : Nat) :
    (∃ w, rounds s interval deadline n [] = some w) ∨
      ∃ slices, s.Outlasts interval deadline slices ∧ slices.length = n := by
  induction n with
  | zero => exact Or.inr ⟨[], outlasts_nil, rfl⟩
  | succ n ih =>
    rcases ih with ⟨w, hw⟩ | ⟨slices, h, rfl⟩
    · exact Or.inl ⟨w, rounds_of_le (Nat.le_succ n) hw⟩
    · rcases stops_or_passes s interval deadline slices with ⟨ending, last, hstops⟩ | ⟨next, hpasses⟩
      · obtain ⟨w, -, -, hw⟩ := rounds_of_stops hsub hstops
        exact Or.inl ⟨w, (rounds_of_outlasts hsub h 1).trans (hw 0)⟩
      · exact Or.inr ⟨next :: slices, outlasts_cons_iff.mpr ⟨h, hpasses⟩, rfl⟩

variable [Add τ]

/-- A wait whose clock can be read at its start ends with what stops it at a check that it comes to. -/
theorem ends_iff (hstart : s.start = .ok start) :
    s.Ends interval timeout ending slices ↔
      ∃ earlier, s.Outlasts interval (start + timeout) earlier ∧
        s.Stops interval (start + timeout) earlier ending slices := by
  unfold Ends wait
  simp only [hstart]
  constructor
  · rintro ⟨most, w, hw, rfl, rfl⟩
    exact exists_stops_of_rounds hsub outlasts_nil hw
  · rintro ⟨earlier, h, hstops⟩
    obtain ⟨w, hending, hslices, hw⟩ := rounds_of_stops hsub hstops
    exact ⟨earlier.length + 1, w, (rounds_of_outlasts hsub h 1).trans (hw 0), hending, hslices⟩

theorem ends_cancelled_iff (hstart : s.start = .ok start) :
    s.Ends interval timeout .cancelled slices ↔
      s.Outlasts interval (start + timeout) slices ∧ s.isCancelled slices = .ok true := by
  rw [ends_iff hsub hstart]
  constructor
  · rintro ⟨_, h, hstops⟩
    cases hstops with
    | cancelled hset => exact ⟨h, hset⟩
  · rintro ⟨h, hset⟩
    exact ⟨slices, h, .cancelled hset⟩

theorem ends_timedOut_iff (hstart : s.start = .ok start) :
    s.Ends interval timeout .timedOut slices ↔
      s.Outlasts interval (start + timeout) slices ∧ s.isCancelled slices = .ok false ∧
        ∃ now, s.clock slices = .ok now ∧ start + timeout ≤ now := by
  rw [ends_iff hsub hstart]
  constructor
  · rintro ⟨_, h, hstops⟩
    cases hstops with
    | timedOut hset hclock hlate => exact ⟨h, hset, _, hclock, hlate⟩
  · rintro ⟨h, hset, now, hclock, hlate⟩
    exact ⟨slices, h, .timedOut hset hclock hlate⟩

theorem ends_finished_iff {output : ω} (hstart : s.start = .ok start) :
    s.Ends interval timeout (.finished output) slices ↔
      ∃ earlier now, s.Outlasts interval (start + timeout) earlier ∧ s.isCancelled earlier = .ok false ∧
        s.clock earlier = .ok now ∧ now < start + timeout ∧
        s.communicate earlier (min interval (start + timeout - now)) = some output ∧
        slices = min interval (start + timeout - now) :: earlier := by
  rw [ends_iff hsub hstart]
  constructor
  · rintro ⟨earlier, h, hstops⟩
    cases hstops with
    | finished hset hclock hearly hchild => exact ⟨earlier, _, h, hset, hclock, hearly, hchild, rfl⟩
  · rintro ⟨earlier, now, h, hset, hclock, hearly, hchild, rfl⟩
    exact ⟨earlier, h, .finished hset hclock hearly hchild⟩

theorem ends_failed_iff {fault : ε} (hstart : s.start = .ok start) :
    s.Ends interval timeout (.failed fault) slices ↔
      s.Outlasts interval (start + timeout) slices ∧ (s.isCancelled slices = .error fault ∨
        s.isCancelled slices = .ok false ∧ s.clock slices = .error fault) := by
  rw [ends_iff hsub hstart]
  constructor
  · rintro ⟨_, h, hstops⟩
    cases hstops with
    | unasked hset => exact ⟨h, Or.inl hset⟩
    | unread hset hclock => exact ⟨h, Or.inr ⟨hset, hclock⟩⟩
  · rintro ⟨h, hset | ⟨hset, hclock⟩⟩
    · exact ⟨slices, h, .unasked hset⟩
    · exact ⟨slices, h, .unread hset hclock⟩

theorem bounds_of_slice (hinterval : 0 < interval) (hstart : s.start = .ok start)
    (h : s.Ends interval timeout ending slices) (hfront : next :: earlier <:+ slices) :
    ∃ now, s.clock earlier = .ok now ∧ 0 < next ∧ next ≤ interval ∧
      next ≤ start + timeout - now := by
  obtain ⟨front, houtlasts, hstops⟩ := (ends_iff hsub hstart).mp h
  obtain ⟨now, hclock, hearly, rfl⟩ := hstops.exists_reading houtlasts hfront
  have hremains : 0 < start + timeout - now := by
    rw [← not_le, hsub]
    exact hearly.not_ge
  exact ⟨now, hclock, lt_min hinterval hremains, min_le_left _ _, min_le_right _ _⟩

omit hsub

theorem ends_unique {ending' : Ending ε ω} {slices' : List τ} (h : s.Ends interval timeout ending slices)
    (h' : s.Ends interval timeout ending' slices') : ending = ending' ∧ slices = slices' := by
  obtain ⟨most, w, hw, rfl, rfl⟩ := h
  obtain ⟨more, v, hv, rfl, rfl⟩ := h'
  obtain rfl := wait_unique hw hv
  exact ⟨rfl, rfl⟩

theorem ends_of_no_start {fault : ε} (hstart : s.start = .error fault) :
    s.Ends interval timeout ending slices ↔ ending = .failed fault ∧ slices = [] := by
  unfold Ends wait
  simp only [hstart, Option.some.injEq]
  constructor
  · rintro ⟨_, w, rfl, rfl, rfl⟩
    exact ⟨rfl, rfl⟩
  · rintro ⟨rfl, rfl⟩
    exact ⟨0, _, rfl, rfl, rfl⟩

theorem execute_eq_some_iff {e : Execution τ ε ω} :
    execute s interval timeout most = some e ↔
      wait s interval timeout most = some e.waited ∧
        e.child = Handle.started.terminate (e.waited.leavesRunning s) := by
  unfold execute
  rw [Option.map_eq_some_iff]
  constructor
  · rintro ⟨w, hw, rfl⟩
    exact ⟨hw, rfl⟩
  · rintro ⟨hw, hchild⟩
    exact ⟨e.waited, hw, by rw [← hchild]⟩

theorem ends_iff_execute :
    s.Ends interval timeout ending slices ↔
      ∃ most e, execute s interval timeout most = some e ∧ e.waited.ending = ending ∧
        e.waited.slices = slices := by
  simp only [execute_eq_some_iff]
  constructor
  · rintro ⟨most, w, hw, hending, hslices⟩
    exact ⟨most, ⟨w, Handle.started.terminate (w.leavesRunning s)⟩, ⟨hw, rfl⟩, hending, hslices⟩
  · rintro ⟨most, e, ⟨hw, -⟩, hending, hslices⟩
    exact ⟨most, e.waited, hw, hending, hslices⟩

end

/-- How a wait ends: cancelled at a check that it comes to and that finds the signal set, even past the
deadline; else timed out at the first check at or past the deadline; else with what the child wrote in the
first slice in which it finished; or with a fault of the clock or of the signal. Every slice is positive
and no longer than the interval and the time that remains. Whatever the end, the child is reaped, and
killed before that just when the last look finds it running. -/
theorem wait_ends_with_first_event [Add τ] [Sub τ] [Zero τ] (hsub : ∀ a b : τ, a - b ≤ 0 ↔ a ≤ b)
    {interval : τ} (hinterval : 0 < interval) (s : Surroundings τ ε ω) (timeout : τ) :
    (∀ start, s.start = .ok start →
      let deadline := start + timeout
      (∀ slices, s.Ends interval timeout .cancelled slices ↔
        s.Outlasts interval deadline slices ∧ s.isCancelled slices = .ok true) ∧
      (∀ slices, s.Ends interval timeout .timedOut slices ↔
        s.Outlasts interval deadline slices ∧ s.isCancelled slices = .ok false ∧
          ∃ now, s.clock slices = .ok now ∧ deadline ≤ now) ∧
      (∀ output slices, s.Ends interval timeout (.finished output) slices ↔
        ∃ earlier now, s.Outlasts interval deadline earlier ∧ s.isCancelled earlier = .ok false ∧
          s.clock earlier = .ok now ∧ now < deadline ∧
          s.communicate earlier (min interval (deadline - now)) = some output ∧
          slices = min interval (deadline - now) :: earlier) ∧
      (∀ fault slices, s.Ends interval timeout (.failed fault) slices ↔
        s.Outlasts interval deadline slices ∧ (s.isCancelled slices = .error fault ∨
          s.isCancelled slices = .ok false ∧ s.clock slices = .error fault)) ∧
      (∀ ending slices, s.Ends interval timeout ending slices →
        ∀ next earlier, next :: earlier <:+ slices →
          ∃ now, s.clock earlier = .ok now ∧ 0 < next ∧ next ≤ interval ∧ next ≤ deadline - now)) ∧
    (∀ fault, s.start = .error fault → ∀ ending slices,
      s.Ends interval timeout ending slices ↔ ending = .failed fault ∧ slices = []) ∧
    (∀ ending ending' slices slices', s.Ends interval timeout ending slices →
      s.Ends interval timeout ending' slices' → ending = ending' ∧ slices = slices') ∧
    (∀ ending slices, s.Ends interval timeout ending slices ↔
      ∃ most e, execute s interval timeout most = some e ∧ e.waited.ending = ending ∧
        e.waited.slices = slices) ∧
    (∀ most e, execute s interval timeout most = some e →
      e.child.reaped = true ∧
        (e.child.killed = true ↔ (∀ output, e.waited.ending ≠ .finished output) ∧
          s.running e.waited.slices = true)) := by
  refine ⟨fun start hstart => ⟨fun _ => ends_cancelled_iff hsub hstart,
    fun _ => ends_timedOut_iff hsub hstart, fun _ _ => ends_finished_iff hsub hstart,
    fun _ _ => ends_failed_iff hsub hstart, fun _ _ h _ _ => bounds_of_slice hsub hinterval hstart h⟩,
    fun fault hstart _ _ => ends_of_no_start hstart, fun _ _ _ _ => ends_unique,
    fun _ _ => ends_iff_execute, fun most e he => ?_⟩
  obtain ⟨-, hchild⟩ := execute_eq_some_iff.mp he
  rw [hchild, killed_terminate_started]
  exact ⟨reaped_terminate _ _, leavesRunning_iff⟩

/-- A signal that is set just when the deadline is reached counts before it, and the child is killed. -/
theorem cancelled_at_deadline :
    let s : Surroundings Int Empty Unit :=
      ⟨.ok 0, fun slices => .ok slices.sum, some fun slices => .ok (slices.length = 3 : Bool),
        fun _ _ => none, fun _ => true, fun _ => false⟩
    (∀ a b : Int, a - b ≤ 0 ↔ a ≤ b) ∧ (0 : Int) < 2 ∧ s.clock [1, 2, 2] = .ok (0 + 5) ∧
      s.Ends 2 5 .cancelled [1, 2, 2] ∧
      ∃ most e, execute s 2 5 most = some e ∧ e.waited.slices = [1, 2, 2] ∧ e.child = ⟨true, true⟩ := by
  intro s
  have hsub : ∀ a b : Int, a - b ≤ 0 ↔ a ≤ b := fun a b => by omega
  obtain ⟨hstarted, -, -, hexecute, hchild⟩ := wait_ends_with_first_event hsub (show (0 : Int) < 2 by decide) s 5
  have houtlasts : s.Outlasts 2 (0 + 5) [1, 2, 2] := by
    have hfirst : s.Passes 2 (0 + 5) [] 2 := ⟨rfl, ⟨0, rfl, by decide, by decide⟩, rfl⟩
    have hsecond : s.Passes 2 (0 + 5) [2] 2 := ⟨rfl, ⟨2, rfl, by decide, by decide⟩, rfl⟩
    have hthird : s.Passes 2 (0 + 5) [2, 2] 1 := ⟨rfl, ⟨4, rfl, by decide, by decide⟩, rfl⟩
    exact outlasts_cons_iff.mpr ⟨outlasts_cons_iff.mpr ⟨outlasts_cons_iff.mpr
      ⟨outlasts_nil, hfirst⟩, hsecond⟩, hthird⟩
  have hends : s.Ends 2 5 .cancelled [1, 2, 2] := ((hstarted 0 rfl).1 _).mpr ⟨houtlasts, rfl⟩
  obtain ⟨most, e, he, hending, hslices⟩ := (hexecute _ _).mp hends
  obtain ⟨hreaped, hkilled⟩ := hchild most e he
  have hkilled := hkilled.mpr ⟨fun output => by simp [hending], rfl⟩
  refine ⟨hsub, by decide, rfl, hends, most, e, he, hslices, ?_⟩
  cases hhandle : e.child with
  | mk killed reaped =>
    rw [hhandle] at hreaped hkilled
    rw [Handle.mk.injEq]
    exact ⟨hkilled, hreaped⟩

end ApiLint.Child
