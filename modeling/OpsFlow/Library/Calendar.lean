import Mathlib.Order.Monotone.Basic
import Mathlib.Data.Nat.Find

/-! The Gregorian calendar within an era of 400 years, each of which starts on the
first of March. -/

namespace Calendar

def yearStart (y : ℕ) : ℕ := 365 * y + y / 4 - y / 100

/-- The last day of the year `y`; the last year of an era ends with a leap day. -/
def yearEnd (y : ℕ) : ℕ := 365 * (y + 1) + (y + 1) / 4 - (y + 1) / 100 + (y + 1) / 400 - 1

/-- The days of an era up to `n`, less the leap days. -/
def commonDays (n : ℕ) : ℕ := n - n / 1460 + n / 36524 - n / 146096

theorem commonDays_mono : Monotone commonDays := by
  refine monotone_nat_of_le_succ fun n => ?_
  unfold commonDays
  omega

theorem commonDays_year : ∀ y < 400,
    365 * y ≤ commonDays (yearStart y) ∧ commonDays (yearEnd y) < 365 * (y + 1) := by
  decide +kernel

/-- Every day of an era lies in one of its years. -/
theorem exists_year {n : ℕ} (h : n ≤ 146096) :
    ∃ y < 400, yearStart y ≤ n ∧ n ≤ yearEnd y := by
  have hspec : yearStart (Nat.findGreatest (fun y => yearStart y ≤ n) 399) ≤ n :=
    Nat.findGreatest_spec (P := fun y => yearStart y ≤ n) (Nat.zero_le 399) (Nat.zero_le n)
  have hle := Nat.findGreatest_le (P := fun y => yearStart y ≤ n) 399
  have hlast (k : ℕ) (hk : Nat.findGreatest (fun y => yearStart y ≤ n) 399 < k) (hk' : k ≤ 399) :=
    Nat.findGreatest_is_greatest hk hk'
  generalize Nat.findGreatest (fun y => yearStart y ≤ n) 399 = y at hspec hle hlast
  refine ⟨y, by omega, hspec, ?_⟩
  by_cases hy : y = 399
  · subst hy
    exact h
  · have hnext := hlast (y + 1) (by omega) (by omega)
    unfold yearStart at hnext
    unfold yearEnd
    omega

/-- The year of an era that a day lies in. -/
theorem commonDays_div {n : ℕ} (h : n ≤ 146096) : commonDays n / 365 < 400 ∧
    yearStart (commonDays n / 365) ≤ n ∧ n ≤ yearEnd (commonDays n / 365) := by
  obtain ⟨y, hy, hstart, hend⟩ := exists_year h
  obtain ⟨hfirst, hlast⟩ := commonDays_year y hy
  have hlower := commonDays_mono hstart
  have hupper := commonDays_mono hend
  obtain rfl : y = commonDays n / 365 := by omega
  exact ⟨hy, hstart, hend⟩

theorem succ_div_eq (y k : ℕ) :
    (y + 1) / k = y / k + if (y + 1) % k = 0 then 1 else 0 := by
  rw [Nat.succ_div]
  simp only [Nat.dvd_iff_mod_eq_zero]

/-- A year has 365 days, and one more before a leap day. -/
theorem yearEnd_sub {y d : ℕ} (hy : y < 400) (hstart : yearStart y ≤ d) (hend : d ≤ yearEnd y) :
    d - yearStart y ≤ 364 ∨ (d - yearStart y = 365 ∧ (y + 1) % 4 = 0 ∧
      ((y + 1) % 100 ≠ 0 ∨ (y + 1) % 400 = 0)) := by
  have h₄ := succ_div_eq y 4
  have h₁₀₀ := succ_div_eq y 100
  have h₄₀₀ := succ_div_eq y 400
  unfold yearEnd at hend
  unfold yearStart at hstart ⊢
  rw [h₄, h₁₀₀, h₄₀₀] at hend
  split_ifs at hend
  all_goals omega

end Calendar
