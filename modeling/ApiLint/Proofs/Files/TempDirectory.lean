import ApiLint.Files.TempDirectory
import ApiLint.Proofs.Text.Pieces

/-! What every operation on the directory does to the bytes of each file, and that files with different
numbers have different paths. -/

namespace ApiLint

theorem Path.child_of_plain {directory : Path} {name : String} {c : Char} {cs : List Char}
    (hname : name.toList = c :: cs) (hc : c ≠ '/') (hdot : c ≠ '.') (hcs : '/' ∉ cs) :
    directory.child name = ⟨directory.anchor, directory.parts ++ [c :: cs]⟩ := by
  have hanchor : anchorOf (c :: cs) = .relative := by
    rw [anchorOf, List.takeWhile_cons_of_neg (by simpa using hc)]
    rfl
  have hsplit : Text.splitAt '/' (c :: cs) = [c :: cs] :=
    Text.splitAt_of_not_mem (by simp [Ne.symm hc, hcs])
  have hstep : [c :: cs].filter isStep = [c :: cs] :=
    List.filter_cons_of_pos (by simp [isStep, hdot])
  rw [child, ofString, hname, ofChars, hanchor, hsplit, hstep]
  rfl

namespace TempDirectory

theorem toList_fileName (serial : Nat) :
    ("spectral-input-" ++ toString serial ++ ".tmp").toList =
      's' :: ("pectral-input-".toList ++ (toString serial).toList ++ ".tmp".toList) := by
  simp only [String.toList_append]
  rfl

theorem not_mem_fileName (serial : Nat) :
    '/' ∉ "pectral-input-".toList ++ (toString serial).toList ++ ".tmp".toList := by
  have hdigits : '/' ∉ (toString serial).toList := by
    rw [Nat.toString_eq_repr, Nat.toList_repr]
    exact fun h => absurd (Nat.isDigit_of_mem_toDigits (by decide) (by decide) h) (by decide)
  simp only [List.mem_append, not_or]
  exact ⟨⟨by decide, hdigits⟩, by decide⟩

/-- Files with different numbers have different paths. -/
theorem filePath_injective (d : TempDirectory) {m n : Nat} (h : d.filePath m = d.filePath n) : m = n := by
  have hpath : ∀ serial, d.filePath serial = _ := fun serial =>
    Path.child_of_plain (toList_fileName serial) (by decide) (by decide) (not_mem_fileName serial)
  simp only [hpath, Path.mk.injEq, true_and, List.append_cancel_left_eq, List.cons.injEq, and_true,
    List.append_cancel_right_eq, Nat.toString_eq_repr, Nat.toList_repr] at h
  rw [← Nat.ofDigitChars_toDigits (b := 10) (n := m) (by decide) (by decide), h,
    Nat.ofDigitChars_toDigits (by decide) (by decide)]

def opened (d : TempDirectory) (serial : Nat) : TempDirectory :=
  { d with files := ⟨serial, []⟩ :: d.files }

def filled (d : TempDirectory) (serial : Nat) (bytes : List UInt8) : TempDirectory :=
  { d with files := d.files.map fun f => if f.serial = serial then { f with bytes := bytes } else f }

section

variable {d : TempDirectory} {serial n : Nat} {bytes : List UInt8}

theorem opened_of_createAs {created : TempDirectory} (h : d.createAs serial = .ok created) :
    created = d.opened serial := by
  unfold createAs at h
  split at h <;> cases h
  rfl

theorem filled_of_write {written : TempDirectory} (h : d.write serial bytes = .ok written) :
    written = d.filled serial bytes := by
  unfold write at h
  split at h <;> cases h
  rfl

/-- A new file is empty until something is written into it. -/
theorem filled_opened_nil (h : serial ∉ d.serials) :
    (d.opened serial).filled serial [] = d.opened serial := by
  have hkept : ∀ f ∈ d.files, (if f.serial = serial then { f with bytes := [] } else f) = f :=
    fun f hf => if_neg fun hs => h (List.mem_map.mpr ⟨f, hf, hs⟩)
  rw [filled, opened, List.map_cons, if_pos rfl, List.map_congr_left hkept, List.map_id']

/-- What is made and discarded again leaves the directory as it was. -/
theorem discard_opened (h : serial ∉ d.serials) : (d.opened serial).discard serial = d := by
  have hkept : d.files.filter (fun f => f.serial != serial) = d.files :=
    List.filter_eq_self.mpr fun f hf => bne_iff_ne.mpr fun hs => h (List.mem_map.mpr ⟨f, hf, hs⟩)
  simp [discard, opened, hkept]

/-- It makes no difference what was written into a file that is discarded. -/
theorem discard_filled : (d.filled serial bytes).discard serial = d.discard serial := by
  have hfiles : (d.files.map fun f => if f.serial = serial then { f with bytes := bytes } else f).filter
      (fun f => f.serial != serial) = d.files.filter fun f => f.serial != serial := by
    induction d.files with
    | nil => rfl
    | cons f files ih =>
      by_cases h : f.serial = serial
      · simp [h, ih]
      · simp [h, ih]
  simp only [discard, filled, hfiles]

theorem read?_eq_none_iff : d.read? n = none ↔ n ∉ d.serials := by
  simp [read?, serials]

theorem isSome_read?_iff : (d.read? n).isSome ↔ n ∈ d.serials := by
  simp [read?, serials]

theorem mem_serials_iff_of_read?_eq {e : TempDirectory} (h : d.read? n = e.read? n) :
    n ∈ d.serials ↔ n ∈ e.serials := by
  rw [← isSome_read?_iff, ← isSome_read?_iff, h]

theorem read?_opened : (d.opened serial).read? n = if n = serial then some [] else d.read? n := by
  by_cases h : n = serial
  · simp [read?, opened, h]
  · simp [read?, opened, h, Ne.symm h]

theorem read?_filled :
    (d.filled serial bytes).read? n =
      if n = serial then (d.read? n).map fun _ => bytes else d.read? n := by
  have hserial : ((fun f : TempFile => decide (f.serial = n)) ∘ fun f =>
      if f.serial = serial then { f with bytes := bytes } else f) = fun f => decide (f.serial = n) := by
    funext f
    simp only [Function.comp_apply]
    split <;> rfl
  simp only [read?, filled, List.find?_map, hserial]
  cases hf : d.files.find? fun f => decide (f.serial = n) with
  | none => simp
  | some f =>
    have hn : f.serial = n := by simpa using List.find?_some hf
    by_cases h : n = serial
    · simp [hn, h]
    · simp [hn, h]

theorem read?_discard : (d.discard serial).read? n = if n = serial then none else d.read? n := by
  simp only [read?, discard, List.find?_filter]
  split
  · rename_i h
    rw [List.find?_eq_none.mpr (by simp [h])]
    rfl
  · rename_i h
    congr 2
    funext f
    by_cases hf : f.serial = n
    · simp [hf, h]
    · simp [hf]

theorem materialize_of_free {encoding : Text.Encoding} {content : Text} (hfree : d.hindrance = none)
    (hbytes : Text.encode encoding content = .ok bytes) :
    (d.materialize encoding content).1 = .ok d.fresh := by
  obtain ⟨path, hindrance, files⟩ := d
  obtain rfl : hindrance = none := hfree
  simp only [materialize, createAs, write, hbytes]

end

end TempDirectory

end ApiLint
