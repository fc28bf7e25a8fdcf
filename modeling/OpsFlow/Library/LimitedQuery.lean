import Mathlib.Data.List.Basic
import Mathlib.Data.List.Pairwise
import Mathlib.Data.List.TakeDrop

/-! Queries whose limit bounds the items that are looked at, not the items that are returned. -/

namespace LimitedQuery

universe u v
variable {α : Type u} {β : Type v} {n : ℕ} {p : α → Bool} {l : List α}

def limited (n : ℕ) (p : α → Bool) (l : List α) : List α := (l.take n).filter p

theorem limited_append_filter_drop : limited n p l ++ (l.drop n).filter p = l.filter p := by
  rw [limited, ← List.filter_append, List.take_append_drop]

theorem length_limited_le : (limited n p l).length ≤ n :=
  Nat.le_trans (List.length_filter_le ..) (List.length_take_le ..)

/-- What is returned comes first among all items that pass. -/
theorem limited_eq_take (h : (limited n p l).length = min n (l.filter p).length) :
    limited n p l = (l.filter p).take n := by
  have hsplit : limited n p l ++ (l.drop n).filter p = l.filter p := limited_append_filter_drop
  by_cases hfull : (limited n p l).length = n
  · rw [← hsplit, List.take_left' hfull]
  · -- fewer than `n`, and no item that passes is left behind
    have hlength := congrArg List.length hsplit
    have hle : (limited n p l).length ≤ n := length_limited_le
    rw [List.length_append] at hlength
    have hnone : (l.drop n).filter p = [] := List.length_eq_zero_iff.mp (by omega)
    rw [hnone, List.append_nil] at hsplit
    rw [← hsplit, List.take_of_length_le hle]

/-- The limit does no harm where all of the first `n` items pass, or none of the others does. -/
theorem length_limited_eq_iff : (limited n p l).length = min n (l.filter p).length ↔
    (∀ a ∈ l.take n, p a = true) ∨ ∀ a ∈ l.drop n, ¬ p a = true := by
  have hsplit := congrArg List.length (limited_append_filter_drop (n := n) (p := p) (l := l))
  rw [List.length_append] at hsplit
  have hle : (limited n p l).length ≤ n := length_limited_le
  have hdrop : ((l.drop n).filter p).length = 0 ↔ ∀ a ∈ l.drop n, ¬ p a = true := by
    rw [List.length_eq_zero_iff, List.filter_eq_nil_iff]
  by_cases hlong : n ≤ l.length
  · have htake : (limited n p l).length = n ↔ ∀ a ∈ l.take n, p a = true := by
      have hlength : (l.take n).length = n := List.length_take_of_le hlong
      rw [limited, ← List.length_filter_eq_length_iff, hlength]
    rw [← hdrop, ← htake]
    omega
  · have hnil : l.drop n = [] := List.drop_eq_nil_of_le (by omega)
    have hall : ∀ a ∈ l.drop n, ¬ p a = true := by
      rw [hnil]
      exact fun a h => by contradiction
    exact iff_of_true (by have := hdrop.mpr hall; omega) (.inr hall)

/-- What passes is counted in full among the first `n` where none of the others passes. -/
theorem countP_take_eq_iff : (l.take n).countP p = l.countP p ↔ ∀ a ∈ l.drop n, ¬ p a = true := by
  have hsplit : l.countP p = (l.take n).countP p + (l.drop n).countP p := by
    rw [← List.countP_append, List.take_append_drop]
  rw [hsplit, ← List.countP_eq_zero]
  omega

/-! ## The items with the least keys -/

/-- As many of the items as there are, but at most `k`, and none that is left out has a
lesser key. -/
def Oldest [LE β] (key : α → β) (k : ℕ) (all chosen : List α) : Prop :=
  ∃ rest, (chosen ++ rest).Perm all ∧ chosen.length = min k all.length ∧
    ∀ a ∈ chosen, ∀ b ∈ rest, key a ≤ key b

theorem oldest_take [LE β] {key : α → β} (h : l.Pairwise fun a b => key a ≤ key b) (k : ℕ) :
    Oldest key k l (l.take k) := by
  refine ⟨l.drop k, ?_, List.length_take .., ?_⟩
  · rw [List.take_append_drop]
  · rw [← List.take_append_drop k l, List.pairwise_append] at h
    exact h.2.2

end LimitedQuery
