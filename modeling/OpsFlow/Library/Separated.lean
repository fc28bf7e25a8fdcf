import Mathlib.Data.List.Basic

/-! Lists in parts, with a separator between them. -/

namespace Separated

variable {α : Type*} {sep : α} {as as' bs bs' l : List α}

/-- What stands before the first separator, and what follows it, if there is one. -/
def partition [DecidableEq α] (sep : α) : List α → List α × Option (List α)
  | [] => ([], none)
  | a :: l => if a = sep then ([], some l) else (a :: (partition sep l).1, (partition sep l).2)

section Partition

variable [DecidableEq α]

theorem partition_of_notMem (h : sep ∉ l) : partition sep l = (l, none) := by
  induction l with
  | nil => rfl
  | cons a l ih =>
    rw [List.mem_cons, not_or] at h
    rw [partition, if_neg (Ne.symm h.1), ih h.2]

theorem partition_append (h : sep ∉ as) : partition sep (as ++ sep :: bs) = (as, some bs) := by
  induction as with
  | nil => exact if_pos rfl
  | cons a as ih =>
    rw [List.mem_cons, not_or] at h
    rw [List.cons_append, partition, if_neg (Ne.symm h.1), ih h.2]

/-- A list has no separator, or it is parted at the first one. -/
theorem partition_cases (sep : α) (l : List α) :
    (sep ∉ l ∧ partition sep l = (l, none)) ∨
      ∃ as bs, sep ∉ as ∧ l = as ++ sep :: bs ∧ partition sep l = (as, some bs) := by
  by_cases h : sep ∈ l
  · obtain ⟨as, bs, rfl, has⟩ := List.eq_append_cons_of_mem h
    exact .inr ⟨as, bs, has, rfl, partition_append has⟩
  · exact .inl ⟨h, partition_of_notMem h⟩

end Partition

section Run

variable {p : α → Bool} {a : α}

/-- A run ends before the first element that is not in it. -/
theorem takeWhile_append_cons (h : ∀ b ∈ as, p b = true) (ha : p a = false) :
    (as ++ a :: bs).takeWhile p = as := by
  have hend : ¬p a = true := Bool.eq_false_iff.mp ha
  rw [List.takeWhile_append_of_pos h, List.takeWhile_cons_of_neg hend, List.append_nil]

theorem dropWhile_append_cons (h : ∀ b ∈ as, p b = true) (ha : p a = false) :
    (as ++ a :: bs).dropWhile p = a :: bs := by
  have hend : ¬p a = true := Bool.eq_false_iff.mp ha
  rw [List.dropWhile_append_of_pos h, List.dropWhile_cons_of_neg hend]

end Run

/-- The first separator is found in one place only. -/
theorem append_cons_inj (h : sep ∉ as) (h' : sep ∉ as') :
    as ++ sep :: bs = as' ++ sep :: bs' ↔ as = as' ∧ bs = bs' := by
  classical
  constructor
  · intro heq
    have hparts := congrArg (partition sep) heq
    rw [partition_append h, partition_append h', Prod.mk.injEq, Option.some.injEq] at hparts
    exact hparts
  · rintro ⟨rfl, rfl⟩
    rfl

theorem string_append_inj {s s' rest rest' text : String} {c : Char} (htext : text.toList = [c])
    (hs : c ∉ s.toList) (hs' : c ∉ s'.toList) :
    s ++ text ++ rest = s' ++ text ++ rest' ↔ s = s' ∧ rest = rest' := by
  rw [← String.toList_inj]
  simp only [String.toList_append, htext, List.append_assoc, List.singleton_append]
  rw [append_cons_inj hs hs']
  simp only [String.toList_inj]

/-- A text has no separator, or it is parted at the first one. -/
theorem string_cases {text : String} {c : Char} (htext : text.toList = [c]) (s : String) :
    c ∉ s.toList ∨ ∃ before after, c ∉ before.toList ∧ s = before ++ text ++ after := by
  obtain ⟨hnone, -⟩ | ⟨as, bs, has, hs, -⟩ := partition_cases c s.toList
  · exact .inl hnone
  · refine .inr ⟨String.ofList as, String.ofList bs, by rwa [String.toList_ofList], ?_⟩
    rw [← String.toList_inj, hs]
    simp [htext]

end Separated
