import Mathlib.Computability.RegularExpressions
import Mathlib.Tactic.ByContra

/-! Patterns of character classes, and how two regular expression engines read `^P$`. -/

namespace Patterns
open RegularExpression Computability

def range (first last : Char) : List Char :=
  (List.range (last.toNat + 1 - first.toNat)).map fun i => Char.ofNat (first.toNat + i)

def oneOf (cs : List Char) : RegularExpression Char := (cs.map char).sum

def oneOrMore (P : RegularExpression Char) : RegularExpression Char := P * star P

variable {P Q : RegularExpression Char} {cs first rest s : List Char} {c : Char}

theorem toNat_ofNat {n : ℕ} (h : n < 0xd800) : (Char.ofNat n).toNat = n := by
  have hvalid : n.isValidChar := .inl h
  unfold Char.ofNat
  rw [dif_pos hvalid]
  rfl

theorem mem_range {first last : Char} (h : last.toNat < 0xd800) :
    c ∈ range first last ↔ first.toNat ≤ c.toNat ∧ c.toNat ≤ last.toNat := by
  simp only [range, List.mem_map, List.mem_range]
  constructor
  · rintro ⟨i, hi, rfl⟩
    rw [toNat_ofNat (by omega)]
    omega
  · rintro ⟨hfirst, hlast⟩
    refine ⟨c.toNat - first.toNat, by omega, ?_⟩
    rw [Nat.add_sub_cancel' hfirst, Char.ofNat_toNat]

theorem oneOf_rmatch : (oneOf cs).rmatch s ↔ ∃ c ∈ cs, s = [c] := by
  induction cs with
  | nil => simp [oneOf, zero_rmatch]
  | cons c cs ih =>
    have hsplit : oneOf (c :: cs) = char c + oneOf cs := List.sum_cons
    rw [hsplit, add_rmatch_iff, char_rmatch_iff, ih]
    simp

theorem star_oneOf_rmatch : (star (oneOf cs)).rmatch s ↔ ∀ c ∈ s, c ∈ cs := by
  rw [star_rmatch_iff]
  constructor
  · rintro ⟨parts, rfl, hparts⟩ c hc
    obtain ⟨part, hpart, hmem⟩ := List.mem_flatten.mp hc
    obtain ⟨d, hd, rfl⟩ := oneOf_rmatch.mp (hparts part hpart).2
    rw [List.mem_singleton.mp hmem]
    exact hd
  · intro h
    refine ⟨s.map fun c => [c], ?_, fun part hpart => ?_⟩
    · induction s with
      | nil => rfl
      | cons c s ih =>
        rw [List.map_cons, List.flatten_cons, ← ih fun d hd => h d (List.mem_cons_of_mem _ hd)]
        rfl
    · obtain ⟨c, hc, rfl⟩ := List.mem_map.mp hpart
      exact ⟨List.cons_ne_nil _ _, oneOf_rmatch.mpr ⟨c, h c hc, rfl⟩⟩

/-- One character of a first class, then any number from a second one. -/
theorem oneOf_mul_star_rmatch : (oneOf first * star (oneOf rest)).rmatch s ↔
    ∃ c cs, s = c :: cs ∧ c ∈ first ∧ ∀ d ∈ cs, d ∈ rest := by
  rw [mul_rmatch_iff]
  constructor
  · rintro ⟨t, u, rfl, ht, hu⟩
    obtain ⟨c, hc, rfl⟩ := oneOf_rmatch.mp ht
    exact ⟨c, u, rfl, hc, star_oneOf_rmatch.mp hu⟩
  · rintro ⟨c, cs, rfl, hc, hcs⟩
    exact ⟨[c], cs, rfl, oneOf_rmatch.mpr ⟨c, hc, rfl⟩, star_oneOf_rmatch.mpr hcs⟩

/-! ## The characters of a match -/

def letters : RegularExpression Char → List Char
  | .zero | .epsilon => []
  | .char c => [c]
  | .plus P Q | .comp P Q => letters P ++ letters Q
  | .star P => letters P

theorem mem_letters (h : P.rmatch s) (hc : c ∈ s) : c ∈ letters P := by
  induction P generalizing s with
  | zero => simp [zero_def, zero_rmatch] at h
  | epsilon =>
    obtain rfl := (one_rmatch_iff s).mp h
    contradiction
  | char d =>
    obtain rfl := (char_rmatch_iff d s).mp h
    exact hc
  | plus P Q ihP ihQ =>
    obtain h | h := (add_rmatch_iff P Q s).mp h
    · exact List.mem_append_left _ (ihP h hc)
    · exact List.mem_append_right _ (ihQ h hc)
  | comp P Q ihP ihQ =>
    obtain ⟨t, u, rfl, ht, hu⟩ := (mul_rmatch_iff P Q s).mp h
    obtain hc | hc := List.mem_append.mp hc
    · exact List.mem_append_left _ (ihP ht hc)
    · exact List.mem_append_right _ (ihQ hu hc)
  | star P ih =>
    obtain ⟨parts, rfl, hparts⟩ := (star_rmatch_iff P s).mp h
    obtain ⟨part, hpart, hmem⟩ := List.mem_flatten.mp hc
    exact ih (hparts part hpart).2 hmem

/-! ## Two readings of the anchors -/

/-- ECMAScript's `/^P$/.test(s)`. -/
def ecmaTest (P : RegularExpression Char) (s : String) : Bool := P.rmatch s.toList

def endsInNewline (s : String) : Bool := s.toList.getLast? = some '\n'

/-- Python's `re.search("^P$", s)`, where `$` also stands before a newline at the very end. -/
def pythonSearch (P : RegularExpression Char) (s : String) : Bool :=
  P.rmatch s.toList || (endsInNewline s && P.rmatch s.toList.dropLast)

theorem pythonSearch_of_ecmaTest {s : String} (h : ecmaTest P s = true) :
    pythonSearch P s = true := by
  unfold ecmaTest at h
  simp [pythonSearch, h]

/-- A pattern that does not name the newline is read differently only before one. -/
theorem ecmaTest_iff {s : String} (hP : '\n' ∉ letters P) :
    ecmaTest P s = true ↔ pythonSearch P s = true ∧ endsInNewline s = false := by
  constructor
  · intro h
    refine ⟨pythonSearch_of_ecmaTest h, decide_eq_false fun hlast => ?_⟩
    exact hP (mem_letters h (List.mem_of_getLast? hlast))
  · rintro ⟨h, hlast⟩
    unfold pythonSearch at h
    rw [hlast, Bool.false_and, Bool.or_false] at h
    exact h

end Patterns
