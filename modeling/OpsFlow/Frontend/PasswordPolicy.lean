import OpsFlow.Auth.Domain
import OpsFlow.Library.Utf16
import Mathlib.Algebra.Order.Field.Rat
import Mathlib.Tactic.Linarith

namespace OpsFlow.Frontend

/-! ## The length of a new password -/

def passwordMinLength : ℕ := 15

def passwordMaxLength : ℕ := 128

structure PasswordLengthState where
  length : ℕ
  meetsMinimumLength : Bool
  withinMaximumLength : Bool
  isValid : Bool
  progressPercent : ℚ

/-- The page's check; JavaScript counts the UTF-16 units of a string. The percentage is rational
here, where the page has a floating-point number. -/
def evaluatePasswordLength (password : String) : PasswordLengthState :=
  let length := (password.toList.flatMap Utf16.encode).length
  let meetsMinimumLength := decide (passwordMinLength ≤ length)
  let withinMaximumLength := decide (length ≤ passwordMaxLength)
  { length := length
    meetsMinimumLength := meetsMinimumLength
    withinMaximumLength := withinMaximumLength
    isValid := meetsMinimumLength && withinMaximumLength
    progressPercent := min (length / passwordMinLength * 100) 100 }

/-! ## What the page and the backend take -/

variable {password : String}

theorem length_evaluatePasswordLength (password : String) :
    (evaluatePasswordLength password).length =
      password.length + password.toList.countP Utf16.astral := by
  rw [← String.length_toList]
  exact Utf16.length_flatMap_encode password.toList

theorem isValid_iff : (evaluatePasswordLength password).isValid = true ↔
    15 ≤ (evaluatePasswordLength password).length ∧
      (evaluatePasswordLength password).length ≤ 128 := by
  unfold evaluatePasswordLength passwordMinLength passwordMaxLength
  simp only [Bool.and_eq_true, decide_eq_true_eq]

/-- The bar is full when the password is long enough. -/
theorem progressPercent_eq_iff : (evaluatePasswordLength password).progressPercent = 100 ↔
    (evaluatePasswordLength password).meetsMinimumLength = true := by
  unfold evaluatePasswordLength passwordMinLength
  simp only [decide_eq_true_eq, min_eq_right_iff]
  rw [← Nat.cast_le (α := ℚ)]
  push_cast
  constructor
  · intro h
    linarith
  · intro h
    linarith

theorem validateNewPassword_eq_ok : Auth.validateNewPassword password = .ok () ↔
    15 ≤ password.length ∧ password.length ≤ 128 := by
  unfold Auth.validateNewPassword
  split
  · rename_i hshort
    exact iff_of_false nofun fun h => absurd h.1 (Nat.not_le.mpr hshort)
  · rename_i hlong
    split
    · rename_i hover
      exact iff_of_false nofun fun h => absurd h.2 (Nat.not_le.mpr hover)
    · rename_i hwithin
      exact iff_of_true rfl ⟨Nat.not_lt.mp hlong, Nat.not_lt.mp hwithin⟩

/-- The characters that count twice do not carry the length over one of the two bounds. -/
def CountsAlike (password : String) : Prop :=
  let units := password.length + password.toList.countP Utf16.astral
  (password.length < 15 → units < 15) ∧ (password.length ≤ 128 → units ≤ 128)

/-- A password of the basic plane is measured alike. -/
theorem countsAlike_of_basic (h : ∀ c ∈ password.toList, Utf16.astral c = false) :
    CountsAlike password := by
  have hnone : password.toList.countP Utf16.astral = 0 := by
    rw [List.countP_eq_zero]
    intro c hc
    rw [h c hc]
    exact Bool.false_ne_true
  unfold CountsAlike
  rw [hnone]
  exact ⟨id, id⟩

/-- The page and the backend agree on a password exactly if no bound lies between its
two lengths. -/
theorem password_lengths_agree_iff (password : String) :
    ((evaluatePasswordLength password).isValid = true ↔
      Auth.validateNewPassword password = .ok ()) ↔
      CountsAlike password := by
  have hcount : password.toList.countP Utf16.astral ≤ password.length := by
    rw [← String.length_toList]
    exact List.countP_le_length
  rw [isValid_iff, validateNewPassword_eq_ok, length_evaluatePasswordLength]
  unfold CountsAlike
  dsimp only
  omega

def eightFaces : String := String.ofList (List.replicate 8 (Char.ofNat 0x1f600))

theorem eightFaces_disagree : ¬ ((evaluatePasswordLength eightFaces).isValid = true ↔
    Auth.validateNewPassword eightFaces = .ok ()) := by
  rw [isValid_iff, validateNewPassword_eq_ok]
  decide +kernel

end OpsFlow.Frontend
