import ApiLint.Proofs.Run.Collaborators
import ApiLint.Proofs.Text.Utf8
import Mathlib.Logic.Function.Basic

/-! Runs that share a directory. Each advances by its own steps, any of which may fail, and the steps of
different runs may come in any order. A number may be given again once its file is gone, so that what a
run removes has to be its own file and no other. -/

namespace ApiLint.Interleaving

/-- How far a run has come, with the number of its file. -/
inductive Phase where
  | waiting
  | created (serial : Nat)
  | filled (serial : Nat)
  | running (serial : Nat)
  | closing (serial : Nat)
  /-- The file is left when it could not be removed. -/
  | ended (left : Option Nat)
  deriving DecidableEq, Repr

namespace Phase

def file? : Phase → Option Nat
  | waiting => none
  | created serial => some serial
  | filled serial => some serial
  | running serial => some serial
  | closing serial => some serial
  | ended left => left

def written? : Phase → Option Nat
  | filled serial => some serial
  | running serial => some serial
  | _ => none

theorem file?_of_written? {p : Phase} {n : Nat} (h : p.written? = some n) : p.file? = some n := by
  cases p <;> first | exact h | cases h

end Phase

/-- The steps of a run by itself. While it writes, and when that fails, anything may be in its file. -/
inductive Advance (text : Text) : Phase → TempDirectory → Phase → TempDirectory → Prop where
  | create {d : TempDirectory} {serial : Nat} : serial ∉ d.serials →
      Advance text .waiting d (.created serial) (d.opened serial)
  | createFails {d : TempDirectory} : Advance text .waiting d (.ended none) d
  | writePart {d : TempDirectory} {serial : Nat} (part : List UInt8) :
      Advance text (.created serial) d (.created serial) (d.filled serial part)
  | write {d : TempDirectory} {serial : Nat} {bytes : List UInt8} : Text.encode .utf8 text = .ok bytes →
      Advance text (.created serial) d (.filled serial) (d.filled serial bytes)
  | writeFails {d : TempDirectory} {serial : Nat} (left : List UInt8) :
      Advance text (.created serial) d (.closing serial) (d.filled serial left)
  | start {d : TempDirectory} {serial : Nat} : Advance text (.filled serial) d (.running serial) d
  | startFails {d : TempDirectory} {serial : Nat} : Advance text (.filled serial) d (.closing serial) d
  | finish {d : TempDirectory} {serial : Nat} : Advance text (.running serial) d (.closing serial) d
  | discard {d : TempDirectory} {serial : Nat} :
      Advance text (.closing serial) d (.ended none) (d.discard serial)
  | discardFails {d : TempDirectory} {serial : Nat} :
      Advance text (.closing serial) d (.ended (some serial)) d

structure Shared (ι : Type) where
  directory : TempDirectory
  phase : ι → Phase

inductive Action (ι : Type) where
  /-- A step of a run. -/
  | own (i : ι)
  /-- Someone else does something to a file. -/
  | outside (serial : Nat)
  deriving DecidableEq

section

variable {ι : Type} [DecidableEq ι]

def Shared.put (s : Shared ι) (i : ι) (p : Phase) (d : TempDirectory) : Shared ι :=
  ⟨d, Function.update s.phase i p⟩

@[simp] theorem Shared.directory_put {s : Shared ι} {i : ι} {p : Phase} {d : TempDirectory} :
    (s.put i p d).directory = d := rfl

@[simp] theorem Shared.phase_put_self {s : Shared ι} {i : ι} {p : Phase} {d : TempDirectory} :
    (s.put i p d).phase i = p :=
  Function.update_self ..

theorem Shared.phase_put_of_ne {s : Shared ι} {i j : ι} {p : Phase} {d : TempDirectory} (h : j ≠ i) :
    (s.put i p d).phase j = s.phase j :=
  Function.update_of_ne h ..

theorem Shared.put_put {s : Shared ι} {i : ι} {p p' : Phase} {d d' : TempDirectory} :
    (s.put i p d).put i p' d' = s.put i p' d' := by
  simp only [Shared.put, Function.update_idem]

theorem Shared.put_self {s : Shared ι} {i : ι} {p : Phase} (h : s.phase i = p) :
    s.put i p s.directory = s := by
  rw [Shared.put, ← h, Function.update_eq_self]

/-- One step of all together. Others keep their hands off the files of the runs. -/
inductive Step (content : ι → Text) : Shared ι → Action ι → Shared ι → Prop where
  | own {s : Shared ι} {i : ι} {p : Phase} {d : TempDirectory} :
      Advance (content i) (s.phase i) s.directory p d →
      Step content s (.own i) (s.put i p d)
  | outside {s : Shared ι} {serial : Nat} {d : TempDirectory} :
      (∀ i, (s.phase i).file? ≠ some serial) → d.path = s.directory.path →
      (∀ n, n ≠ serial → d.read? n = s.directory.read? n) →
      Step content s (.outside serial) ⟨d, s.phase⟩

/-- What can be reached, and by which steps, the latest first. -/
inductive Reaches (content : ι → Text) (start : Shared ι) : List (Action ι) → Shared ι → Prop where
  | here : Reaches content start [] start
  | step {s t : Shared ι} {action : Action ι} {actions : List (Action ι)} :
      Reaches content start actions s → Step content s action t →
      Reaches content start (action :: actions) t

end

namespace Advance

variable {text : Text} {p p' : Phase} {d d' : TempDirectory} {n : Nat}

theorem path_eq (h : Advance text p d p' d') : d'.path = d.path := by
  cases h <;> rfl

/-- A run leaves all files alone but the one it has or takes. -/
theorem read?_eq (h : Advance text p d p' d') (hp : p.file? ≠ some n) (hp' : p'.file? ≠ some n) :
    d'.read? n = d.read? n := by
  have hne : ∀ {serial}, some serial ≠ some n → n ≠ serial := fun h hn => h (congrArg some hn.symm)
  cases h with
  | create => rw [TempDirectory.read?_opened, if_neg (hne hp')]
  | write => rw [TempDirectory.read?_filled, if_neg (hne hp)]
  | writePart => rw [TempDirectory.read?_filled, if_neg (hne hp)]
  | writeFails => rw [TempDirectory.read?_filled, if_neg (hne hp)]
  | discard => rw [TempDirectory.read?_discard, if_neg (hne hp)]
  | _ => rfl

/-- Only a number that is free is taken. -/
theorem read?_of_taken (h : Advance text p d p' d') (hp : p.file? ≠ some n)
    (hp' : p'.file? = some n) : d.read? n = none := by
  cases h with
  | create hfree =>
    cases hp'
    exact TempDirectory.read?_eq_none_iff.mpr hfree
  | createFails => cases hp'
  | discard => cases hp'
  | _ => exact absurd hp' hp

/-- A file that a run gives up is gone. -/
theorem read?_of_left (h : Advance text p d p' d') (hp : p.file? = some n)
    (hp' : p'.file? ≠ some n) : d'.read? n = none := by
  cases h with
  | create => cases hp
  | createFails => cases hp
  | discard =>
    cases hp
    rw [TempDirectory.read?_discard, if_pos rfl]
  | _ => exact absurd hp hp'

/-- The file of a run is there. -/
theorem mem_serials (h : Advance text p d p' d') (hp : p.file? = some n → n ∈ d.serials)
    (hp' : p'.file? = some n) : n ∈ d'.serials := by
  simp only [← TempDirectory.isSome_read?_iff] at hp ⊢
  have hfilled : ∀ bytes, (d.read? n).isSome → ((d.filled n bytes).read? n).isSome := by
    intro bytes hn
    rwa [TempDirectory.read?_filled, if_pos rfl, Option.isSome_map]
  cases h with
  | create =>
    cases hp'
    rw [TempDirectory.read?_opened, if_pos rfl]
    rfl
  | createFails => cases hp'
  | writePart part =>
    cases hp'
    exact hfilled part (hp rfl)
  | write =>
    cases hp'
    exact hfilled _ (hp rfl)
  | writeFails left =>
    cases hp'
    exact hfilled left (hp rfl)
  | discard => cases hp'
  | _ => exact hp hp'

/-- What a run has written stays until it is done with it. -/
theorem read?_of_written (h : Advance text p d p' d') (hfile : p.file? = some n → n ∈ d.serials)
    (hp : p.written? = some n → ∃ bytes, Text.encode .utf8 text = .ok bytes ∧ d.read? n = some bytes)
    (hp' : p'.written? = some n) :
    ∃ bytes, Text.encode .utf8 text = .ok bytes ∧ d'.read? n = some bytes := by
  cases h with
  | write hbytes =>
    cases hp'
    obtain ⟨old, hold⟩ := Option.isSome_iff_exists.mp (TempDirectory.isSome_read?_iff.mpr (hfile rfl))
    exact ⟨_, hbytes, by rw [TempDirectory.read?_filled, if_pos rfl, hold, Option.map_some]⟩
  | start => exact hp hp'
  | _ => cases hp'

end Advance

/-- Every file of a run is its own and is there, and what was written into it is the content of the
run. -/
structure Shared.Sound {ι : Type} (content : ι → Text) (s : Shared ι) : Prop where
  apart : ∀ {i j n}, (s.phase i).file? = some n → (s.phase j).file? = some n → i = j
  present : ∀ {i n}, (s.phase i).file? = some n → n ∈ s.directory.serials
  written : ∀ {i n}, (s.phase i).written? = some n →
    ∃ bytes, Text.encode .utf8 (content i) = .ok bytes ∧ s.directory.read? n = some bytes

/-- A number is as it was in an earlier directory, unless it is that of a run; then it was free. -/
structure Shared.Restores {ι : Type} (before : TempDirectory) (n : Nat) (s : Shared ι) : Prop where
  unheld : (∀ i, (s.phase i).file? ≠ some n) → s.directory.read? n = before.read? n
  held : ∀ {i}, (s.phase i).file? = some n → before.read? n = none

namespace Shared

variable {ι : Type} {content : ι → Text} {s : Shared ι} {before d : TempDirectory}
variable {i j : ι} {p : Phase} {n serial : Nat}

/-- The file of one run is not taken and not changed by another. -/
theorem Sound.other (hs : s.Sound content) (h : Advance (content i) (s.phase i) s.directory p d)
    (hj : j ≠ i) (hn : (s.phase j).file? = some n) :
    p.file? ≠ some n ∧ d.read? n = s.directory.read? n := by
  have hi : (s.phase i).file? ≠ some n := fun hi => hj (hs.apart hn hi)
  have hp : p.file? ≠ some n := fun hp =>
    TempDirectory.read?_eq_none_iff.mp (h.read?_of_taken hi hp) (hs.present hn)
  exact ⟨hp, h.read?_eq hi hp⟩

theorem Sound.outside (hs : s.Sound content) (hguard : ∀ i, (s.phase i).file? ≠ some serial)
    (hread : ∀ n, n ≠ serial → d.read? n = s.directory.read? n) : Sound content ⟨d, s.phase⟩ := by
  have hkept : ∀ {i n}, (s.phase i).file? = some n → d.read? n = s.directory.read? n :=
    fun {i n} hi => hread n fun hn => hguard i (hn ▸ hi)
  refine ⟨hs.apart, fun {i n} hi => ?_, fun {i n} hi => ?_⟩
  · exact (TempDirectory.mem_serials_iff_of_read?_eq (hkept hi)).mpr (hs.present hi)
  · obtain ⟨bytes, hbytes, hold⟩ := hs.written hi
    exact ⟨bytes, hbytes, (hkept (Phase.file?_of_written? hi)).trans hold⟩

variable [DecidableEq ι]

theorem Sound.put (hs : s.Sound content) (h : Advance (content i) (s.phase i) s.directory p d) :
    (s.put i p d).Sound content where
  apart {j k n} hj hk := by
    rcases eq_or_ne j i with rfl | hji
    · rcases eq_or_ne k j with rfl | hkj
      · rfl
      · rw [phase_put_self] at hj
        rw [phase_put_of_ne hkj] at hk
        exact absurd hj (hs.other h hkj hk).1
    · rw [phase_put_of_ne hji] at hj
      rcases eq_or_ne k i with rfl | hki
      · rw [phase_put_self] at hk
        exact absurd hk (hs.other h hji hj).1
      · rw [phase_put_of_ne hki] at hk
        exact hs.apart hj hk
  present {j n} hj := by
    rcases eq_or_ne j i with rfl | hji
    · rw [phase_put_self] at hj
      exact h.mem_serials hs.present hj
    · rw [phase_put_of_ne hji] at hj
      exact (TempDirectory.mem_serials_iff_of_read?_eq (hs.other h hji hj).2).mpr (hs.present hj)
  written {j n} hj := by
    rcases eq_or_ne j i with rfl | hji
    · rw [phase_put_self] at hj
      exact h.read?_of_written hs.present hs.written hj
    · rw [phase_put_of_ne hji] at hj
      obtain ⟨bytes, hbytes, hread⟩ := hs.written hj
      exact ⟨bytes, hbytes, (hs.other h hji (Phase.file?_of_written? hj)).2.trans hread⟩

theorem Sound.step {t : Shared ι} {action : Action ι} (hs : s.Sound content)
    (h : Step content s action t) : t.Sound content := by
  cases h with
  | own hadvance => exact hs.put hadvance
  | outside hguard _ hread => exact hs.outside hguard hread

theorem Restores.put (hs : s.Restores before n)
    (h : Advance (content i) (s.phase i) s.directory p d) : (s.put i p d).Restores before n where
  unheld hnone := by
    have hp : p.file? ≠ some n := by simpa using hnone i
    by_cases hi : (s.phase i).file? = some n
    · exact (h.read?_of_left hi hp).trans (hs.held hi).symm
    · refine (h.read?_eq hi hp).trans (hs.unheld fun j => ?_)
      rcases eq_or_ne j i with rfl | hji
      · exact hi
      · simpa only [phase_put_of_ne hji] using hnone j
  held {j} hj := by
    -- if some run had the number already, it was free before; else it is free now, and thus was
    by_cases hheld : ∃ k, (s.phase k).file? = some n
    · obtain ⟨k, hk⟩ := hheld
      exact hs.held hk
    · have hnone : ∀ k, (s.phase k).file? ≠ some n := fun k hk => hheld ⟨k, hk⟩
      rcases eq_or_ne j i with rfl | hji
      · rw [phase_put_self] at hj
        exact (hs.unheld hnone).symm.trans (h.read?_of_taken (hnone j) hj)
      · rw [phase_put_of_ne hji] at hj
        exact absurd hj (hnone j)

theorem Restores.step {t : Shared ι} {action : Action ι} (hs : s.Restores before n)
    (h : Step content s action t) (hn : action ≠ .outside n) : t.Restores before n := by
  cases h with
  | own hadvance => exact hs.put hadvance
  | outside _ _ hread =>
    have hne : n ≠ _ := fun h => hn (congrArg Action.outside h.symm)
    exact ⟨fun hnone => (hread n hne).trans (hs.unheld hnone), hs.held⟩

end Shared

namespace Reaches

variable {ι : Type} [DecidableEq ι] {content : ι → Text} {start s : Shared ι}
variable {actions : List (Action ι)} {i : ι} {p p' : Phase} {d d' : TempDirectory}

theorem own (h : Reaches content start actions (s.put i p d)) (hadvance : Advance (content i) p d p' d') :
    Reaches content start (.own i :: actions) (s.put i p' d') := by
  have hstep : Step content (s.put i p d) (.own i) ((s.put i p d).put i p' d') :=
    .own (by rwa [Shared.phase_put_self, Shared.directory_put])
  rw [Shared.put_put] at hstep
  exact h.step hstep

theorem discarded {serial : Nat} (c : Collaborators)
    (h : Reaches content start actions (s.put i (.closing serial) d)) :
    ∃ left, (c.unlink = none → left = none) ∧
      Reaches content start (.own i :: actions) (s.put i (.ended left) (c.discard d serial)) := by
  unfold Collaborators.discard
  cases c.unlink with
  | none => exact ⟨none, fun _ => rfl, h.own .discard⟩
  | some fault => exact ⟨some serial, nofun, h.own .discardFails⟩

variable {c : Collaborators}

/-- The runner is called when the run has come so far. -/
theorem called {serial : Nat} (h : Reaches content start actions s) (hi : s.phase i = .waiting)
    (hmade : (c.materialize s.directory (content i)).result = .ok serial) :
    Reaches content start (.own i :: .own i :: .own i :: actions)
      (s.put i (.running serial) (c.materialize s.directory (content i)).directory) := by
  obtain ⟨hfree, bytes, hbytes, hdirectory⟩ := Collaborators.materialize_eq_ok hmade
  rw [hdirectory]
  rw [← Shared.put_self hi] at h
  exact ((h.own (.create hfree)).own (.write hbytes)).own .start

/-- Every run whose tool leaves the directory alone comes about by these steps, whatever its collaborators
do otherwise. -/
theorem run {plan : RunPlan} (h : Reaches content start actions s) (hi : s.phase i = .waiting)
    (htool : ∀ command timeout given, (c.execute command timeout given).directory = given) :
    ∃ count left, (c.unlink = none → left = none) ∧
      Reaches content start (List.replicate count (.own i) ++ actions)
        (s.put i (.ended left) (c.run plan s.directory (content i)).directory) := by
  cases hmade : (c.materialize s.directory (content i)).result with
  | ok serial =>
    obtain ⟨left, hleft, hreaches⟩ := ((h.called hi hmade).own .finish).discarded c
    refine ⟨5, left, hleft, ?_⟩
    rw [Collaborators.run_of_ok hmade]
    simp only [Collaborators.conclude, Collaborators.reply, htool]
    exact hreaches
  | error fault =>
    rw [Collaborators.run_of_error hmade]
    rw [← Shared.put_self hi] at h
    rcases Collaborators.materialize_eq_error hmade with hd | ⟨serial, written, hfree, hd⟩
    · refine ⟨1, none, fun _ => rfl, ?_⟩
      rw [hd]
      exact h.own .createFails
    · obtain ⟨left, hleft, hreaches⟩ := ((h.own (.create hfree)).own (.writeFails written)).discarded c
      refine ⟨3, left, hleft, ?_⟩
      rw [hd]
      exact hreaches

/-- The run in use comes about so, and it leaves no file. -/
theorem usual_run {runner : Runner} {plan : RunPlan} (h : Reaches content start actions s)
    (hi : s.phase i = .waiting)
    (htool : ∀ command timeout given, (runner command timeout given).directory = given) :
    ∃ count, Reaches content start (List.replicate count (.own i) ++ actions)
      (s.put i (.ended none) (ApiLint.run runner plan s.directory (content i)).directory) := by
  obtain ⟨count, left, hleft, hreaches⟩ := h.run (c := .usual runner) hi htool
  rw [hleft rfl, Collaborators.run_usual] at hreaches
  exact ⟨count, hreaches⟩

theorem path_eq (h : Reaches content start actions s) : s.directory.path = start.directory.path := by
  induction h with
  | here => rfl
  | step _ hstep ih =>
    cases hstep with
    | own hadvance => exact hadvance.path_eq.trans ih
    | outside _ hpath _ => exact hpath.trans ih

theorem sound (hstart : ∀ i, start.phase i = .waiting) (h : Reaches content start actions s) :
    s.Sound content := by
  induction h with
  | here =>
    refine ⟨fun {i j n} hi => ?_, fun {i n} hi => ?_, fun {i n} hi => ?_⟩ <;>
      (rw [hstart i] at hi; cases hi)
  | step _ hstep ih => exact ih.step hstep

theorem restores (hstart : ∀ i, start.phase i = .waiting) (h : Reaches content start actions s)
    {n : Nat} (hn : .outside n ∉ actions) : s.Restores start.directory n := by
  induction h with
  | here =>
    refine ⟨fun _ => rfl, fun {i} hi => ?_⟩
    rw [hstart i] at hi
    cases hi
  | step _ hstep ih =>
    rw [List.mem_cons, not_or] at hn
    exact (ih hn.2).step hstep (Ne.symm hn.1)

/-- However the steps of runs in one directory come, the files of different runs have different paths, a
run that has started its process has exactly its own content in its file, and when all are over and every
removal went well, each file that no one else did anything to is as it was. -/
theorem apart_and_restored (hstart : ∀ i, start.phase i = .waiting)
    (h : Reaches content start actions s) :
    s.directory.path = start.directory.path ∧
    (∀ i j m n, i ≠ j → (s.phase i).file? = some m → (s.phase j).file? = some n →
      s.directory.filePath m ≠ s.directory.filePath n) ∧
    (∀ i n, s.phase i = .running n →
      ∃ cs, content i = Text.ofChars cs ∧
        s.directory.read? n = some (cs.flatMap String.utf8EncodeChar)) ∧
    ((∀ i, s.phase i = .waiting ∨ s.phase i = .ended none) →
      ∀ n, .outside n ∉ actions → s.directory.read? n = start.directory.read? n) := by
  have hsound := sound hstart h
  refine ⟨h.path_eq, fun i j m n hij hi hj hpath => ?_, fun i n hi => ?_, fun hend n hn => ?_⟩
  · obtain rfl := s.directory.filePath_injective hpath
    exact hij (hsound.apart hi hj)
  · obtain ⟨bytes, hbytes, hread⟩ := hsound.written (i := i) (n := n) (by rw [hi]; rfl)
    obtain ⟨cs, hcs, rfl⟩ := Text.encode_utf8_iff.mp hbytes
    exact ⟨cs, hcs, hread⟩
  · refine (restores hstart h hn).unheld fun i hi => ?_
    rcases hend i with hw | he
    · rw [hw] at hi
      cases hi
    · rw [he] at hi
      cases hi

/-- A run takes the number of one that has failed, while a third has its file. -/
theorem apart_and_restored_with_reused_number :
    let content : Fin 3 → Text := fun i => if i = 0 then [.scalar 'a', .scalar 'é'] else [.half 5]
    let start : Shared (Fin 3) := ⟨⟨⟨.root, []⟩, none, [⟨7, [1]⟩]⟩, fun _ => .waiting⟩
    ∃ midway finished : Shared (Fin 3), ∃ first rest : List (Action (Fin 3)),
      Reaches content start first midway ∧
      (midway.phase 0 = .running 0 ∧ midway.phase 1 = .ended none ∧ midway.phase 2 = .created 1) ∧
      midway.directory.filePath 0 ≠ midway.directory.filePath 1 ∧
      (∃ cs, content 0 = Text.ofChars cs ∧
        midway.directory.read? 0 = some (cs.flatMap String.utf8EncodeChar)) ∧
      Reaches content start (rest ++ first) finished ∧
      (∀ i, finished.phase i = .ended none) ∧
      finished.directory.read? 7 = some [1] := by
  intro content start
  have hstart : ∀ i, start.phase i = .waiting := fun _ => rfl
  have hgone : Reaches content start _ _ :=
    (((Reaches.here.step (.own (i := 1) (@Advance.create _ _ 0 (by decide)))).step
      (.own (i := 2) (@Advance.create _ _ 1 (by decide)))).step
      (.own (i := 1) (.writeFails []))).step (.own (i := 1) .discard)
  have hmidway : Reaches content start _ _ :=
    ((hgone.step (.own (i := 0) (@Advance.create _ _ 0 (by decide)))).step
      (.own (i := 0) (.write rfl))).step (.own (i := 0) .start)
  have hfinished : Reaches content start _ _ :=
    (((hmidway.step (.own (i := 2) (.writeFails []))).step (.own (i := 2) .discard)).step
      (.own (i := 0) .finish)).step (.own (i := 0) .discard)
  have hnow := hmidway.apart_and_restored hstart
  have hthen := hfinished.apart_and_restored hstart
  exact ⟨_, _, _, [_, _, _, _], hmidway, ⟨rfl, rfl, rfl⟩, hnow.2.1 0 2 0 1 (by decide) rfl rfl,
    hnow.2.2.1 0 0 rfl, hfinished, by decide, hthen.2.2.2 (by decide) 7 (by decide)⟩

end Reaches

end ApiLint.Interleaving
