import Mathlib.Data.List.DropRight
import Mathlib.Tactic.Common

/-! Erasing every match of a pattern from a list, from left to right. -/

namespace Erasing

variable {α : Type*} {p : α → Bool} {follow : List α → Bool} {a : α} {l l' : List α}

/-- A pattern finds the length of its match at the head of a list. The first `skip` elements belong
to the match that has been found last. -/
def erase (pattern : List α → Option ℕ) : ℕ → List α → List α
  | _, [] => []
  | skip + 1, _ :: l => erase pattern skip l
  | 0, a :: l =>
    match pattern (a :: l) with
    | some (length + 1) => erase pattern length l
    | _ => a :: erase pattern 0 l

/-- The pattern `p+(?=follow)`: as many elements as there are, and fewer where `follow` fails. -/
def runBefore (p : α → Bool) (follow : List α → Bool) : List α → Option ℕ
  | [] => none
  | a :: l =>
    if p a then
      match runBefore p follow l with
      | some n => some (n + 1)
      | none => if follow l then some 1 else none
    else none

/-- The same, decided for each element on its own. -/
def trimmed (p : α → Bool) (follow : List α → Bool) : List α → List α
  | [] => []
  | a :: l =>
    if p a ∧ follow (l.dropWhile p) then trimmed p follow l else a :: trimmed p follow l

/-- Elements are deleted where `deletes` allows it, and all others are kept in order. -/
inductive Erases (deletes : α → List α → Prop) : List α → List α → Prop
  | nil : Erases deletes [] []
  | keep {a : α} {l l' : List α} : Erases deletes l l' → Erases deletes (a :: l) (a :: l')
  | delete {a : α} {l l' : List α} : deletes a l → Erases deletes l l' → Erases deletes (a :: l) l'

theorem Erases.mono {deletes deletes' : α → List α → Prop} (h : Erases deletes l l')
    (hsub : ∀ a l, deletes a l → deletes' a l) : Erases deletes' l l' := by
  induction h with
  | nil => exact .nil
  | keep _ ih => exact .keep ih
  | delete hdeletes _ ih => exact .delete (hsub _ _ hdeletes) ih

theorem Erases.sublist {deletes : α → List α → Prop} (h : Erases deletes l l') : l'.Sublist l := by
  induction h with
  | nil => exact .slnil
  | keep _ ih => exact ih.cons_cons _
  | delete _ _ ih => exact ih.cons _

/-- Nothing is lost of what is never deleted. -/
theorem Erases.filter_eq {deletes : α → List α → Prop} {q : α → Bool} (h : Erases deletes l l')
    (hq : ∀ a l, deletes a l → q a = false) : l'.filter q = l.filter q := by
  induction h with
  | nil => rfl
  | keep _ ih => rw [List.filter_cons, List.filter_cons, ih]
  | delete hdeletes _ ih =>
    rw [List.filter_cons_of_neg (by simp [hq _ _ hdeletes])]
    exact ih

theorem trimmed_erases (p : α → Bool) (follow : List α → Bool) (l : List α) :
    Erases (fun a l => p a = true ∧ follow (l.dropWhile p) = true) l (trimmed p follow l) := by
  induction l with
  | nil => exact .nil
  | cons a l ih =>
    rw [trimmed]
    split
    · rename_i hdeletes
      exact .delete hdeletes ih
    · exact .keep ih

/-! ## A run and what follows it -/

theorem runBefore_of_neg (ha : p a = false) : runBefore p follow (a :: l) = none := by
  rw [runBefore, ha]
  exact if_neg Bool.false_ne_true

/-- No element of the class stands where `follow` holds, so that only the whole run can match. -/
theorem runBefore_eq (hfollow : ∀ a l, p a = true → follow (a :: l) = false) (ha : p a = true) :
    runBefore p follow (a :: l) =
      if follow (l.dropWhile p) then some ((l.takeWhile p).length + 1) else none := by
  induction l generalizing a with
  | nil =>
    rw [runBefore, if_pos ha]
    rfl
  | cons b l ih =>
    rw [runBefore, if_pos ha]
    by_cases hb : p b = true
    · rw [ih hb, List.dropWhile_cons_of_pos hb, List.takeWhile_cons_of_pos hb]
      by_cases hl : follow (l.dropWhile p) = true
      · rw [if_pos hl, if_pos hl]
        rfl
      · -- giving back an element leaves one of the class ahead
        rw [if_neg hl, if_neg hl, hfollow b l hb]
        rfl
    · rw [runBefore_of_neg (by simpa using hb), List.dropWhile_cons_of_neg hb,
        List.takeWhile_cons_of_neg hb]
      rfl

theorem trimmed_run (h : follow (l.dropWhile p) = true) :
    trimmed p follow l = trimmed p follow (l.dropWhile p) := by
  induction l with
  | nil => rfl
  | cons a l ih =>
    by_cases ha : p a = true
    · rw [List.dropWhile_cons_of_pos ha] at h ⊢
      rw [trimmed, if_pos ⟨ha, h⟩]
      exact ih h
    · rw [List.dropWhile_cons_of_neg ha]

/-- From left to right, match after match, the same elements are erased. -/
theorem erase_eq_trimmed (hfollow : ∀ a l, p a = true → follow (a :: l) = false) (l : List α) :
    ∀ skip, erase (runBefore p follow) skip l = trimmed p follow (l.drop skip) := by
  induction l with
  | nil =>
    intro skip
    rw [List.drop_nil]
    cases skip <;> rfl
  | cons a l ih =>
    intro skip
    cases skip with
    | succ skip => exact ih skip
    | zero =>
      rw [List.drop_zero, trimmed, erase]
      by_cases ha : p a = true
      · rw [runBefore_eq hfollow ha]
        by_cases hl : follow (l.dropWhile p) = true
        · have hdrop : l.drop (l.takeWhile p).length = l.dropWhile p :=
            calc l.drop (l.takeWhile p).length
              _ = (l.takeWhile p ++ l.dropWhile p).drop (l.takeWhile p).length := by
                rw [List.takeWhile_append_dropWhile]
              _ = l.dropWhile p := List.drop_left
          rw [if_pos hl, if_pos ⟨ha, hl⟩, trimmed_run hl, ← hdrop]
          exact ih _
        · rw [if_neg hl, if_neg fun h => hl h.2]
          exact congrArg (a :: ·) (ih 0)
      · rw [runBefore_of_neg (by simpa using ha), if_neg fun h => ha h.1]
        exact congrArg (a :: ·) (ih 0)

/-! ## Erasing twice -/

theorem dropWhile_trimmed (p : α → Bool) (follow : List α → Bool) (l : List α) :
    (trimmed p follow l).dropWhile p = trimmed p follow (l.dropWhile p) := by
  induction l with
  | nil => rfl
  | cons a l ih =>
    rw [trimmed]
    by_cases ha : p a = true
    · rw [List.dropWhile_cons_of_pos ha]
      split
      · exact ih
      · rw [List.dropWhile_cons_of_pos ha]
        exact ih
    · rw [if_neg fun h => ha h.1, List.dropWhile_cons_of_neg ha, List.dropWhile_cons_of_neg ha,
        trimmed, if_neg fun h => ha h.1]

theorem forall_parts_cons {P : α → List α → Prop} :
    (∀ before b after, a :: l = before ++ b :: after → P b after) ↔
      P a l ∧ ∀ before b after, l = before ++ b :: after → P b after := by
  constructor
  · intro h
    refine ⟨h [] a l rfl, fun before b after hl => h (a :: before) b after ?_⟩
    rw [hl, List.cons_append]
  · rintro ⟨ha, hl⟩ before b after heq
    cases before with
    | nil =>
      obtain ⟨rfl, rfl⟩ := List.cons.inj heq
      exact ha
    | cons c before => exact hl before b after (List.cons.inj heq).2

/-- Nothing more is erased if and only if no element that has been kept comes before what is
followed once the elements after it are erased. -/
theorem trimmed_trimmed_iff : trimmed p follow (trimmed p follow l) = trimmed p follow l ↔
    ∀ before a after, l = before ++ a :: after → p a = true →
      follow (trimmed p follow (after.dropWhile p)) = true → follow (after.dropWhile p) = true := by
  induction l with
  | nil =>
    apply iff_of_true rfl
    intro before a after h
    simp at h
  | cons a l ih =>
    rw [forall_parts_cons, ← ih, trimmed]
    split
    · rename_i hdeleted
      exact ⟨fun h => ⟨fun _ _ => hdeleted.2, h⟩, fun h => h.2⟩
    · rename_i hkept
      rw [trimmed, dropWhile_trimmed]
      split
      · rename_i hdeleted
        -- the second time `a` is erased, and the result is shorter
        have hshorter := (trimmed_erases p follow (trimmed p follow l)).sublist.length_le
        constructor
        · intro h
          rw [h, List.length_cons] at hshorter
          omega
        · intro h
          exact absurd ⟨hdeleted.1, h.1 hdeleted.1 hdeleted.2⟩ hkept
      · rename_i hstill
        rw [List.cons.injEq]
        exact ⟨fun h => ⟨fun ha hl => absurd ⟨ha, hl⟩ hstill, h.2⟩, fun h => ⟨rfl, h.2⟩⟩

end Erasing
