import ApiLint.Proofs.Faults
import ApiLint.Proofs.Report.Markup
import ApiLint.Proofs.Text.Legible

/-! Texts that markup leaves as they are. Reading only takes characters away. It takes none from a literal
text, and from any other it takes a bracket or a backslash. -/

namespace ApiLint.Markup

/-- No bracket begins a tag, and none stands behind a backslash; `escaped` says whether a backslash stands
in front of the text. -/
def literalFrom (escaped : Bool) : List Char → Bool
  | [] => true
  | c :: rest =>
    (c ≠ '[' || (!escaped && (tagAfter? rest).isNone)) && literalFrom (c = '\\') rest

def isLiteral (cs : List Char) : Bool :=
  literalFrom false cs

def isMark (c : Char) : Bool :=
  c = '[' || c = '\\'

def marks (cs : List Char) : Nat :=
  cs.countP isMark

/-- No plain piece of a text holds an emoji code. -/
def FreeOf (emoji : List Char → List Char) (cs : List Char) : Prop :=
  ∀ piece ∈ pieces cs, ∀ ds, piece.chars? = some ds → emoji ds = ds

section

variable {emoji : List Char → List Char} {column : Nat} {opened : List Opened}
  {rest name behind cs : List Char} {position backslashes : Nat} {m : Marked}

theorem readFrom_of_free {ps : List Piece}
    (h : ∀ piece ∈ ps, ∀ ds, piece.chars? = some ds → emoji ds = ds) :
    readFrom emoji column opened ps = readFrom id column opened ps := by
  induction ps generalizing column opened with
  | nil => rfl
  | cons piece ps ih =>
    obtain ⟨hpiece, hps⟩ := List.forall_mem_cons.mp h
    cases piece with
    | plain ds => rw [readFrom, readFrom, hpiece ds rfl, id_eq, ih hps]
    | escaped ds => rw [readFrom, readFrom, hpiece ds rfl, id_eq, ih hps]
    | tag position tag =>
      rw [readFrom, readFrom]
      split
      · rw [ih hps]
      · rfl

theorem readFrom_gathered (ps : List Piece) :
    readFrom id column opened (gathered ps) = readFrom id column opened ps := by
  fun_induction gathered ps generalizing column opened with
  | case1 => rfl
  | case2 cs rest ds rest' hrest ih =>
    rw [readFrom, readFrom, ← ih, hrest, readFrom, id_eq, id_eq, id_eq, printed_append, List.length_append,
      ← Nat.add_assoc]
    cases readFrom id (column + (Console.printed cs).length + (Console.printed ds).length) opened rest' with
    | error fault => rfl
    | ok m => simp [Except.map]
  | case3 cs rest hrest ih => rw [readFrom, readFrom, ih]
  | case4 piece rest hpiece ih =>
    cases piece with
    | plain ds => exact absurd rfl (hpiece ds)
    | escaped ds => rw [readFrom, readFrom, ih]
    | tag position tag =>
      rw [readFrom, readFrom]
      split
      · rw [ih]
      · rfl

/-- Without emoji codes it makes no difference which characters stand together. -/
theorem read_of_free (h : FreeOf emoji cs) : read emoji cs = readFrom id 0 [] (piecesFrom 0 0 cs) := by
  rw [read, readFrom_of_free h, pieces, readFrom_gathered]

@[simp] theorem marks_nil : marks [] = 0 := rfl

@[simp] theorem marks_append (cs ds : List Char) : marks (cs ++ ds) = marks cs + marks ds :=
  List.countP_append

@[simp] theorem marks_bracket (cs : List Char) : marks ('[' :: cs) = marks cs + 1 :=
  List.countP_cons_of_pos rfl

@[simp] theorem marks_backslash (cs : List Char) : marks ('\\' :: cs) = marks cs + 1 :=
  List.countP_cons_of_pos rfl

theorem marks_cons_of_not {c : Char} (h : isMark c = false) (cs : List Char) : marks (c :: cs) = marks cs :=
  List.countP_cons_of_neg (Bool.eq_false_iff.mp h)

@[simp] theorem marks_backslashes (n : Nat) : marks (List.replicate n '\\') = n := by
  rw [marks, List.countP_replicate]
  exact if_pos rfl

theorem marks_le_of_sublist {ds : List Char} (h : cs.Sublist ds) : marks cs ≤ marks ds :=
  h.countP_le

theorem printed_sublist (cs : List Char) : (Console.printed cs).Sublist cs :=
  List.filter_sublist

theorem eq_of_tagAfter? (h : tagAfter? cs = some (name, behind)) : cs = name ++ ']' :: behind := by
  cases cs with
  | nil => cases h
  | cons c rest =>
    rw [tagAfter?] at h
    split at h
    · split at h
      · rename_i behind' hbehind
        cases h
        rw [List.cons_append, ← hbehind, List.takeWhile_append_dropWhile]
      · cases h
    · cases h

theorem readFrom_chars_eq_ok {piece : Piece} {ps : List Piece} (hpiece : piece.chars? = some cs)
    (h : readFrom id column opened (piece :: ps) = .ok m) :
    ∃ column' m', readFrom id column' opened ps = .ok m' ∧ m.text = Console.printed cs ++ m'.text := by
  cases piece with
  | plain ds =>
    obtain rfl : ds = cs := Option.some.inj hpiece
    obtain ⟨m', hm', rfl⟩ := map_eq_ok_iff.mp h
    exact ⟨_, m', hm', rfl⟩
  | escaped ds =>
    obtain rfl : ds = cs := Option.some.inj hpiece
    obtain ⟨m', hm', rfl⟩ := map_eq_ok_iff.mp h
    exact ⟨_, m', hm', rfl⟩
  | tag position tag => cases hpiece

theorem readFrom_tag_eq_ok {ps : List Piece} {tag : List Char}
    (h : readFrom id column opened (.tag position tag :: ps) = .ok m) :
    ∃ opened' m', readFrom id column opened' ps = .ok m' ∧ m.text = m'.text := by
  rw [readFrom] at h
  split at h
  · obtain ⟨m', hm', rfl⟩ := map_eq_ok_iff.mp h
    exact ⟨_, m', hm', rfl⟩
  · cases h

/-- A bracket or a backslash of every tag is taken away. -/
theorem readFrom_tagPieces_eq_ok {ps : List Piece}
    (h : readFrom id column opened (tagPieces position backslashes name ++ ps) = .ok m) :
    ∃ kept column' opened' m', readFrom id column' opened' ps = .ok m' ∧
      m.text = Console.printed kept ++ m'.text ∧
      kept.Sublist (List.replicate backslashes '\\' ++ ('[' :: name ++ [']'])) ∧
      marks kept < backslashes + marks ('[' :: name ++ [']']) := by
  have hhalf : (List.replicate (backslashes / 2) '\\').Sublist (List.replicate backslashes '\\') :=
    List.replicate_sublist_replicate _ |>.mpr (Nat.div_le_self ..)
  rw [tagPieces] at h
  split at h
  · rename_i hodd
    obtain ⟨column₁, m₁, h₁, htext₁⟩ := readFrom_chars_eq_ok rfl h
    obtain ⟨column₂, m₂, h₂, htext₂⟩ := readFrom_chars_eq_ok rfl h₁
    refine ⟨_, column₂, opened, m₂, h₂, ?_, hhalf.append (List.Sublist.refl _), ?_⟩
    · simp only [htext₁, htext₂, printed_append, List.append_assoc]
    · rw [marks_append, marks_backslashes]
      omega
  · obtain ⟨column₁, m₁, h₁, htext₁⟩ := readFrom_chars_eq_ok rfl h
    obtain ⟨opened', m₂, h₂, htext₂⟩ := readFrom_tag_eq_ok h₁
    refine ⟨_, column₁, opened', m₂, h₂, by rw [htext₁, htext₂], hhalf.trans (List.sublist_append_left ..), ?_⟩
    rw [marks_backslashes, List.cons_append, marks_bracket]
    omega

/-- Reading takes characters away, and from a text that is not literal a bracket or a backslash. -/
theorem readFrom_piecesFrom_sublist
    (h : readFrom id column opened (piecesFrom position backslashes cs) = .ok m) :
    m.text.Sublist (List.replicate backslashes '\\' ++ cs) ∧
      (marks m.text = backslashes + marks cs → literalFrom (0 < backslashes) cs = true) := by
  fun_induction piecesFrom position backslashes cs generalizing column opened m with
  | case1 position backslashes =>
    obtain ⟨_, m', hm', htext⟩ := readFrom_chars_eq_ok rfl h
    cases hm'
    exact ⟨by simpa [htext] using printed_sublist _, fun _ => rfl⟩
  | case2 position backslashes rest ih =>
    obtain ⟨hsub, hliteral⟩ := ih h
    rw [List.replicate_succ', List.append_assoc] at hsub
    refine ⟨hsub, fun hmarks => ?_⟩
    have hrest := hliteral (by rw [hmarks, marks_backslash]; omega)
    simpa [literalFrom] using hrest
  | case3 position backslashes rest name behind htag ih =>
    obtain ⟨kept, column', opened', m', hm', htext, hkept, hfewer⟩ := readFrom_tagPieces_eq_ok h
    obtain ⟨hsub, -⟩ := ih hm'
    have hrest := eq_of_tagAfter? htag
    have hcs : List.replicate backslashes '\\' ++ '[' :: rest =
        (List.replicate backslashes '\\' ++ ('[' :: name ++ [']'])) ++ behind := by
      simp [hrest]
    have hprinted := printed_sublist kept
    refine ⟨?_, fun hmarks => ?_⟩
    · rw [htext, hcs]
      exact (hprinted.trans hkept).append hsub
    -- A tag takes a mark away, so that the numbers cannot agree.
    · have hle := marks_le_of_sublist hprinted
      have hbehind := marks_le_of_sublist hsub
      have hall := congrArg marks hcs
      rw [List.replicate_zero, List.nil_append] at hbehind
      simp only [htext, marks_append, marks_backslashes] at hall hmarks hfewer
      omega
  | case4 position backslashes rest htag ih =>
    obtain ⟨column', m', hm', htext⟩ := readFrom_chars_eq_ok rfl h
    obtain ⟨hsub, hliteral⟩ := ih hm'
    have hprinted := printed_sublist (List.replicate (backslashes - 1) '\\' ++ ['['])
    have hkept : (List.replicate (backslashes - 1) '\\' ++ ['[']).Sublist
        (List.replicate backslashes '\\' ++ ['[']) :=
      ((List.replicate_sublist_replicate _).mpr (Nat.sub_le ..)).append (List.Sublist.refl _)
    refine ⟨by simpa [htext] using (hprinted.trans hkept).append hsub, fun hmarks => ?_⟩
    have hle := marks_le_of_sublist hprinted
    have hrest := marks_le_of_sublist hsub
    simp only [htext, marks_append, marks_backslashes, marks_bracket, marks_nil] at hmarks hle hrest
    -- The backslash in front of the bracket would be lost.
    have hzero : backslashes = 0 := by omega
    have hbehind := hliteral (by omega)
    simpa [literalFrom, hzero, htag] using hbehind
  | case5 position backslashes c rest hslash hbracket ih =>
    replace hslash : c ≠ '\\' := hslash
    replace hbracket : c ≠ '[' := hbracket
    obtain ⟨column', m', hm', htext⟩ := readFrom_chars_eq_ok rfl h
    obtain ⟨hsub, hliteral⟩ := ih hm'
    have hprinted := printed_sublist (List.replicate backslashes '\\' ++ [c])
    have hc : isMark c = false := by simp [isMark, hslash, hbracket]
    refine ⟨by simpa [htext] using hprinted.append hsub, fun hmarks => ?_⟩
    have hle := marks_le_of_sublist hprinted
    have hrest := marks_le_of_sublist hsub
    simp only [htext, marks_append, marks_backslashes, marks_cons_of_not hc, marks_nil] at hmarks hle hrest
    have hbehind := hliteral (by omega)
    simpa [literalFrom, hslash, hbracket] using hbehind

/-- A literal text comes out as it is. -/
theorem readFrom_piecesFrom_literal (hlegible : Text.Legible cs)
    (h : literalFrom (0 < backslashes) cs = true) :
    readFrom id column [] (piecesFrom position backslashes cs) =
      .ok (.plain (List.replicate backslashes '\\' ++ cs)) := by
  have hbackslashes : ∀ n, Text.Legible (List.replicate n '\\') := by
    intro n c hc
    rw [List.eq_of_mem_replicate hc]
    rfl
  fun_induction piecesFrom position backslashes cs generalizing column with
  | case1 position backslashes =>
    simp [readFrom, Except.map, Marked.plain, (hbackslashes _).printed]
  | case2 position backslashes rest ih =>
    have hrest : literalFrom (decide (0 < backslashes + 1)) rest = true := by simpa [literalFrom] using h
    rw [ih (hlegible.of_subset (List.subset_cons_self ..)) hrest]
    simp [List.replicate_succ']
  | case3 position backslashes rest name behind htag ih =>
    simp [literalFrom, htag] at h
  | case4 position backslashes rest htag ih =>
    obtain ⟨hzero, hrest⟩ : backslashes = 0 ∧ literalFrom false rest = true := by
      simpa [literalFrom, htag] using h
    have hplain : Text.Legible ['['] := by decide
    rw [readFrom, ih (hlegible.of_subset (List.subset_cons_self ..)) hrest]
    simp [hzero, Except.map, Marked.plain, hplain.printed]
  | case5 position backslashes c rest hslash hbracket ih =>
    replace hslash : c ≠ '\\' := hslash
    replace hbracket : c ≠ '[' := hbracket
    have hrest : literalFrom false rest = true := by simpa [literalFrom, hslash, hbracket] using h
    have hplain : Text.Legible (List.replicate backslashes '\\' ++ [c]) :=
      List.forall_mem_append.mpr
        ⟨hbackslashes _, List.forall_mem_singleton.mpr (hlegible c List.mem_cons_self)⟩
    rw [readFrom, ih (hlegible.of_subset (List.subset_cons_self ..)) hrest]
    simp [Except.map, Marked.plain, hplain.printed]

end

variable {emoji : List Char → List Char} {cs : List Char} {m : Marked}

theorem freeOf_of_not_mem (h : '[' ∉ cs) (hemoji : emoji cs = cs) : FreeOf emoji cs := by
  rw [FreeOf, pieces_of_not_mem h]
  refine List.forall_mem_singleton.mpr fun ds hds => ?_
  obtain rfl : cs = ds := Option.some.inj hds
  exact hemoji

theorem read_of_isLiteral (hfree : FreeOf emoji cs) (hlegible : Text.Legible cs) (h : isLiteral cs = true) :
    read emoji cs = .ok (.plain cs) := by
  rw [read_of_free hfree]
  exact readFrom_piecesFrom_literal hlegible h

theorem text_sublist_of_read (hfree : FreeOf emoji cs) (h : read emoji cs = .ok m) : m.text.Sublist cs := by
  rw [read_of_free hfree] at h
  exact (readFrom_piecesFrom_sublist h).1

theorem isLiteral_of_read (hfree : FreeOf emoji cs) (h : read emoji cs = .ok m)
    (hmarks : marks m.text = marks cs) : isLiteral cs = true := by
  rw [read_of_free hfree] at h
  exact (readFrom_piecesFrom_sublist h).2 (by rw [hmarks, Nat.zero_add])

end ApiLint.Markup
