import OpsFlow.Scripts.TrailingWhitespace

namespace OpsFlow.Scripts
open Erasing

variable {b : UInt8} {l content : List UInt8}

/-! ## One pass over the bytes of a file -/

/-- The end of the file, or LF or CRLF, or a CR that ends the file. -/
def LineEnding (rest : List UInt8) : Prop :=
  rest = [] ∨ rest = [cr] ∨ ∃ more, rest = lf :: more ∨ rest = cr :: lf :: more

/-- Only blanks stand between here and a line ending. -/
def BeforeLineEnding (after : List UInt8) : Prop :=
  ∃ blanks rest, after = blanks ++ rest ∧ (∀ c ∈ blanks, blank c = true) ∧ LineEnding rest

/-- Only blanks before a line ending are deleted, and all other bytes are kept in order. -/
structure Conservative (content result : List UInt8) : Prop where
  erases : Erases (fun b after => blank b = true ∧ BeforeLineEnding after) content result
  kept : (result.filter fun b => !blank b) = content.filter fun b => !blank b

theorem lineEnd_of_blank (hb : blank b = true) : lineEnd (b :: l) = false := by
  unfold blank at hb
  unfold lineEnd lf
  obtain rfl | rfl := of_decide_eq_true hb <;> rfl

theorem optionalCrLineEnd_of_blank (b : UInt8) (l : List UInt8) (hb : blank b = true) :
    optionalCrLineEnd (b :: l) = false := by
  have hcr : b ≠ cr := by
    rintro rfl
    exact absurd hb (by decide)
  rw [optionalCrLineEnd, lineEnd_of_blank hb]
  simp [hcr]

theorem removeTrailingWhitespace_eq (content : List UInt8) :
    removeTrailingWhitespace content = trimmed blank optionalCrLineEnd content :=
  erase_eq_trimmed optionalCrLineEnd_of_blank content 0

theorem lineEnd_iff : lineEnd l = true ↔ l = [] ∨ ∃ more, l = lf :: more := by
  cases l with
  | nil => simp [lineEnd]
  | cons b l => simp [lineEnd]

theorem optionalCrLineEnd_iff : optionalCrLineEnd l = true ↔ LineEnding l := by
  unfold LineEnding
  cases l with
  | nil => exact iff_of_true rfl (.inl rfl)
  | cons b l =>
    rw [optionalCrLineEnd, Bool.or_eq_true, Bool.and_eq_true, decide_eq_true_eq, lineEnd_iff,
      lineEnd_iff]
    simp only [List.cons.injEq, reduceCtorEq, false_or]
    constructor
    · rintro (⟨hb, hl | ⟨more, hl⟩⟩ | ⟨more, hb, hl⟩)
      · exact .inl ⟨hb, hl⟩
      · exact .inr ⟨more, .inr ⟨hb, hl⟩⟩
      · exact .inr ⟨more, .inl ⟨hb, hl⟩⟩
    · rintro (⟨hb, hl⟩ | ⟨more, ⟨hb, hl⟩ | ⟨hb, hl⟩⟩)
      · exact .inl ⟨hb, .inl hl⟩
      · exact .inr ⟨more, hb, hl⟩
      · exact .inl ⟨hb, .inr ⟨more, hl⟩⟩

theorem conservative_removeTrailingWhitespace (content : List UInt8) :
    Conservative content (removeTrailingWhitespace content) := by
  have herases := trimmed_erases blank optionalCrLineEnd content
  rw [removeTrailingWhitespace_eq]
  constructor
  · apply herases.mono
    rintro b after ⟨hb, hafter⟩
    exact ⟨hb, after.takeWhile blank, after.dropWhile blank, List.takeWhile_append_dropWhile.symm,
      fun c hc => List.mem_takeWhile_imp hc, optionalCrLineEnd_iff.mp hafter⟩
  · apply herases.filter_eq
    rintro b after ⟨hb, -⟩
    rw [hb]
    rfl

/-! ## Two passes -/

/-- A blank and a CR, and blanks between that CR and the LF or the end of the file: the first pass
moves the CR to the line ending that it has not been part of. -/
def SplitEnding (content : List UInt8) : Prop :=
  ∃ before b blanks after, content = before ++ b :: cr :: (blanks ++ after) ∧ blank b = true ∧
    blanks ≠ [] ∧ (∀ c ∈ blanks, blank c = true) ∧ (after = [] ∨ ∃ rest, after = lf :: rest)

theorem lineEnd_trimmed (l : List UInt8) :
    lineEnd (trimmed blank optionalCrLineEnd l) = lineEnd (l.dropWhile blank) := by
  induction l with
  | nil => rfl
  | cons b l ih =>
    rw [trimmed]
    by_cases hb : blank b = true
    · rw [List.dropWhile_cons_of_pos hb]
      split
      · exact ih
      · rename_i hkept
        rw [lineEnd_of_blank hb]
        symm
        rw [← Bool.not_eq_true]
        intro hend
        refine hkept ⟨hb, ?_⟩
        rw [optionalCrLineEnd_iff]
        obtain hnil | ⟨more, hmore⟩ := lineEnd_iff.mp hend
        · exact .inl hnil
        · exact .inr (.inr ⟨more, .inl hmore⟩)
    · rw [if_neg fun h => hb h.1, List.dropWhile_cons_of_neg hb]
      rfl

theorem lineEnd_dropWhile (h : lineEnd l = true) : lineEnd (l.dropWhile blank) = true := by
  obtain rfl | ⟨more, rfl⟩ := lineEnd_iff.mp h
  · rfl
  · exact h

/-- What has been no line ending becomes one only behind a CR. -/
theorem optionalCrLineEnd_trimmed (hb : blank b = false) :
    optionalCrLineEnd (trimmed blank optionalCrLineEnd (b :: l)) = true ↔
      optionalCrLineEnd (b :: l) = true ∨ b = cr ∧ lineEnd (l.dropWhile blank) = true := by
  have hkept : trimmed blank optionalCrLineEnd (b :: l) =
      b :: trimmed blank optionalCrLineEnd l := by
    rw [trimmed, hb]
    exact if_neg fun h => Bool.false_ne_true h.1
  rw [hkept, optionalCrLineEnd, optionalCrLineEnd, lineEnd_trimmed]
  simp only [Bool.or_eq_true, Bool.and_eq_true, decide_eq_true_eq]
  constructor
  · rintro (hcr | hlf)
    · exact .inr hcr
    · exact .inl (.inr hlf)
  · rintro ((⟨hcr, hend⟩ | hlf) | hcr)
    · exact .inl ⟨hcr, lineEnd_dropWhile hend⟩
    · exact .inr hlf
    · exact .inl hcr

/-- The blank next to the CR is the last one of a run. -/
theorem splitEnding_of_run {before run blanks after : List UInt8}
    (hcontent : content = before ++ (run ++ cr :: (blanks ++ after))) (hrun : run ≠ [])
    (hrunBlank : ∀ c ∈ run, blank c = true) (hne : blanks ≠ [])
    (hblanks : ∀ c ∈ blanks, blank c = true) (hafter : lineEnd after = true) :
    SplitEnding content := by
  obtain hnil | ⟨init, last, rfl⟩ := List.eq_nil_or_concat run
  · exact absurd hnil hrun
  · have hlast := hrunBlank last (by simp)
    refine ⟨before ++ init, last, blanks, after, ?_, hlast, hne, hblanks, lineEnd_iff.mp hafter⟩
    rw [hcontent]
    simp

theorem idempotent_iff (content : List UInt8) :
    removeTrailingWhitespace (removeTrailingWhitespace content) = removeTrailingWhitespace content ↔
      ¬ SplitEnding content := by
  rw [removeTrailingWhitespace_eq, removeTrailingWhitespace_eq, trimmed_trimmed_iff]
  have hcr : blank cr = false := by decide
  constructor
  · rintro h ⟨before, b, blanks, after, hcontent, hb, hne, hblanks, hafter⟩
    have hend : lineEnd ((blanks ++ after).dropWhile blank) = true := by
      rw [List.dropWhile_append_of_pos hblanks]
      exact lineEnd_dropWhile (lineEnd_iff.mpr hafter)
    have hfirst := h before b _ hcontent hb
    rw [List.dropWhile_cons_of_neg (by simp [hcr])] at hfirst
    have hfollowed := hfirst ((optionalCrLineEnd_trimmed hcr).mpr (.inr ⟨rfl, hend⟩))
    obtain ⟨c, blanks, rfl⟩ := List.exists_cons_of_ne_nil hne
    rw [List.cons_append, optionalCrLineEnd, lineEnd_of_blank (hblanks c List.mem_cons_self)]
      at hfollowed
    simp [lineEnd, cr, lf] at hfollowed
  · intro hsplit before b after hcontent hb htrimmed
    cases hrest : after.dropWhile blank with
    | nil => rfl
    | cons c rest =>
      have hc : blank c = false := by
        have hhead := List.head_dropWhile_not blank (l := after) (by simp [hrest])
        simpa [hrest] using hhead
      rw [hrest] at htrimmed
      obtain hfollowed | ⟨rfl, hend⟩ := (optionalCrLineEnd_trimmed hc).mp htrimmed
      · exact hfollowed
      · by_contra hnot
        apply hnot
        have hblanks : rest.takeWhile blank = [] := by
          by_contra hne
          apply hsplit
          apply splitEnding_of_run ?_ (List.cons_ne_nil b (after.takeWhile blank)) ?_ hne
            (fun d hd => List.mem_takeWhile_imp hd) hend
          · exact before
          · rw [List.takeWhile_append_dropWhile, ← hrest, List.cons_append,
              List.takeWhile_append_dropWhile]
            exact hcontent
          · rintro d hd
            obtain rfl | hd := List.mem_cons.mp hd
            · exact hb
            · exact List.mem_takeWhile_imp hd
        rw [← List.takeWhile_append_dropWhile (p := blank) (l := rest), hblanks, List.nil_append,
          optionalCrLineEnd, hend]
        rfl

/-! ## A check after a fix -/

variable {entry : Entry} {tree : Tree} {path : Path} {paths changed : List Path}
    {writeChanges : Bool}

def Entry.isText (entry : Entry) : Prop :=
  entry.isFile = true ∧ entry.isSymlink = false ∧ 0 ∉ entry.content

instance (entry : Entry) : Decidable entry.isText := inferInstanceAs (Decidable (_ ∧ _ ∧ _))

def Entry.cleaned (entry : Entry) : Entry :=
  if entry.isText then { entry with content := removeTrailingWhitespace entry.content } else entry

theorem zero_mem_removeTrailingWhitespace :
    0 ∈ removeTrailingWhitespace content ↔ 0 ∈ content := by
  have hzero (l : List UInt8) : 0 ∈ l ↔ 0 ∈ l.filter fun b => !blank b := by
    rw [List.mem_filter]
    exact (and_iff_left (by decide)).symm
  rw [hzero, (conservative_removeTrailingWhitespace content).kept, ← hzero]

theorem Entry.isText_cleaned : entry.cleaned.isText ↔ entry.isText := by
  unfold Entry.cleaned
  split
  · unfold Entry.isText
    rw [zero_mem_removeTrailingWhitespace]
  · rfl

theorem Entry.cleaned_cleaned_iff :
    entry.cleaned.cleaned = entry.cleaned ↔ entry.isText → ¬ SplitEnding entry.content := by
  by_cases htext : entry.isText
  · have hcleaned : entry.cleaned.cleaned = { entry with
        content := removeTrailingWhitespace (removeTrailingWhitespace entry.content) } := by
      rw [Entry.cleaned, if_pos (Entry.isText_cleaned.mpr htext), Entry.cleaned, if_pos htext]
    rw [hcleaned, Entry.cleaned, if_pos htext, ← idempotent_iff]
    simp [htext]
  · rw [Entry.cleaned, if_neg (Entry.isText_cleaned.not.mpr htext)]
    exact iff_of_true rfl fun h => absurd h htext

theorem cleaned_eq_iff (h : entry.isText) :
    entry.cleaned = entry ↔ removeTrailingWhitespace entry.content = entry.content := by
  rw [Entry.cleaned, if_pos h]
  constructor
  · intro hsame
    exact congrArg Entry.content hsame
  · intro hsame
    rw [hsame]

/-- A visit reports a path whose file it would change, and changes it if it may. -/
theorem visitPath_eq : visitPath writeChanges (changed, tree) path =
    (if (tree path).cleaned = tree path then changed else changed ++ [path],
      if writeChanges then Function.update tree path (tree path).cleaned else tree) := by
  have hstays (h : (tree path).cleaned = tree path) :
      (if writeChanges then Function.update tree path (tree path).cleaned else tree) = tree := by
    rw [h, Function.update_eq_self, ite_self]
  unfold visitPath
  dsimp only
  by_cases htext : (tree path).isText
  · rw [if_neg (by simp [htext.1, htext.2.1]), if_neg htext.2.2]
    by_cases hsame : (tree path).cleaned = tree path
    · rw [if_pos ((cleaned_eq_iff htext).mp hsame), if_pos hsame, hstays hsame]
    · rw [if_neg ((cleaned_eq_iff htext).not.mp hsame), if_neg hsame, Entry.cleaned, if_pos htext]
  · have hsame : (tree path).cleaned = tree path := if_neg htext
    rw [if_pos hsame, hstays hsame]
    split
    · rfl
    · rename_i hfile
      rw [if_pos]
      by_contra hzero
      apply htext
      simpa [Entry.isText, hzero] using hfile

theorem changedPaths_check (tree : Tree) (paths : List Path) : changedPaths tree paths false =
    (paths.filter fun path => (tree path).cleaned ≠ tree path, tree) := by
  have hfrom (changed : List Path) : paths.foldl (visitPath false) (changed, tree) =
      (changed ++ paths.filter fun path => (tree path).cleaned ≠ tree path, tree) := by
    induction paths generalizing changed with
    | nil => simp
    | cons path paths ih =>
      rw [List.foldl_cons, visitPath_eq, if_neg Bool.false_ne_true]
      by_cases hsame : (tree path).cleaned = tree path
      · rw [if_pos hsame, List.filter_cons_of_neg (by simp [hsame])]
        exact ih changed
      · rw [if_neg hsame, List.filter_cons_of_pos (by simp [hsame]), ih, List.append_assoc,
          List.singleton_append]
  exact hfrom []

/-- Every path is visited once, so that no file is cleaned twice. -/
theorem changedPaths_fix (tree : Tree) (hpaths : paths.Nodup) :
    (changedPaths tree paths true).2 = fun path =>
      if path ∈ paths then (tree path).cleaned else tree path := by
  have hfrom (changed : List Path) : (paths.foldl (visitPath true) (changed, tree)).2 = fun path =>
      if path ∈ paths then (tree path).cleaned else tree path := by
    induction paths generalizing changed tree with
    | nil =>
      funext path
      exact (if_neg List.not_mem_nil).symm
    | cons first paths ih =>
      rw [List.nodup_cons] at hpaths
      rw [List.foldl_cons, visitPath_eq, if_pos rfl, ih _ hpaths.2]
      funext path
      by_cases hfirst : path = first
      · subst hfirst
        rw [if_neg hpaths.1, Function.update_self, if_pos List.mem_cons_self]
      · rw [Function.update_of_ne hfirst]
        simp only [List.mem_cons, hfirst, false_or]
  exact hfrom []

theorem nodup_candidatePaths (lower : String → String) (mode : Mode) (git : GitPaths) :
    (candidatePaths lower mode git).Nodup := by
  unfold candidatePaths
  rw [(List.perm_insertionSort _ _).nodup_iff]
  apply List.Nodup.filter
  exact List.nodup_dedup _

/-- A check reports nothing exactly if every file that it looks at settles in one pass. -/
theorem check_after_fixAll_iff (lower : String → String) (git : GitPaths) (tree : Tree) :
    (main lower .check git (main lower .fixAll git tree).tree).changed = [] ↔
      ∀ path ∈ candidatePaths lower .fixAll git, (tree path).isText →
        ¬ SplitEnding (tree path).content := by
  have hfixed : (main lower .fixAll git tree).tree = fun path =>
      if path ∈ candidatePaths lower .fixAll git then (tree path).cleaned else tree path :=
    changedPaths_fix tree (nodup_candidatePaths lower .fixAll git)
  have hcheck (tree' : Tree) : (main lower .check git tree').changed =
      (candidatePaths lower .fixAll git).filter fun path => (tree' path).cleaned ≠ tree' path :=
    congrArg Prod.fst (changedPaths_check tree' (candidatePaths lower .check git))
  rw [hcheck, List.filter_eq_nil_iff]
  apply forall₂_congr
  intro path hpath
  have hentry : (main lower .fixAll git tree).tree path = (tree path).cleaned := by
    rw [hfixed]
    exact if_pos hpath
  rw [decide_eq_true_eq, not_not, hentry]
  exact Entry.cleaned_cleaned_iff

/-- One pass is enough, for a file and for all files, exactly where no line ending is split. -/
theorem trailing_whitespace_removed_iff (lower : String → String) :
    (∀ content, removeTrailingWhitespace (removeTrailingWhitespace content) =
        removeTrailingWhitespace content ∧
          Conservative content (removeTrailingWhitespace content) ↔ ¬ SplitEnding content) ∧
    ∀ git tree, (main lower .check git (main lower .fixAll git tree).tree).changed = [] ↔
      ∀ path ∈ candidatePaths lower .fixAll git, (tree path).isText →
        ¬ SplitEnding (tree path).content := by
  constructor
  · intro content
    rw [← idempotent_iff]
    exact and_iff_left (conservative_removeTrailingWhitespace content)
  · intro git tree
    exact check_after_fixAll_iff lower git tree

/-- A blank, a CR, a blank and an LF: the first pass joins CR and LF behind the first blank. -/
def splitLine : List UInt8 := [0x20, cr, 0x20, lf]

def readme : Path := ⟨["README.md"]⟩

theorem splitLine_removed_twice :
    removeTrailingWhitespace (removeTrailingWhitespace splitLine) ≠
      removeTrailingWhitespace splitLine ∧
    (main id .check ⟨[readme], [], []⟩ (main id .fixAll ⟨[readme], [], []⟩ fun _ =>
      ⟨true, false, splitLine⟩).tree).changed ≠ [] := by
  decide +kernel

end OpsFlow.Scripts
