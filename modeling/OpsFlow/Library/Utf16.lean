import Mathlib.Data.List.Basic

/-! UTF-16: characters as code units, and back. -/

namespace Utf16

/-- A character beyond the basic plane is a high surrogate and a low one. -/
def encode (c : Char) : List ℕ :=
  if c.toNat < 0x10000 then [c.toNat]
  else [0xd800 + (c.toNat - 0x10000) / 0x400, 0xdc00 + (c.toNat - 0x10000) % 0x400]

/-- A surrogate on its own is no character. -/
def decode? : List ℕ → Option (List Char)
  | [] => some []
  | high :: rest =>
    if 0xd800 ≤ high ∧ high < 0xdc00 then
      match rest with
      | low :: rest =>
        if 0xdc00 ≤ low ∧ low < 0xe000 then
          (decode? rest).map fun cs =>
            Char.ofNat (0x10000 + (high - 0xd800) * 0x400 + (low - 0xdc00)) :: cs
        else none
      | [] => none
    else if 0xdc00 ≤ high ∧ high < 0xe000 then none
    else (decode? rest).map fun cs => Char.ofNat high :: cs

variable {c : Char} {cs : List Char} {units : List ℕ}

theorem toNat_range (c : Char) : c.toNat < 0xd800 ∨ (0xdfff < c.toNat ∧ c.toNat < 0x110000) :=
  c.valid

theorem decode?_unit {unit : ℕ} (hhigh : ¬ (0xd800 ≤ unit ∧ unit < 0xdc00))
    (hlow : ¬ (0xdc00 ≤ unit ∧ unit < 0xe000)) :
    decode? (unit :: units) = (decode? units).map fun cs => Char.ofNat unit :: cs := by
  rw [decode?.eq_def]
  dsimp only
  rw [if_neg hhigh, if_neg hlow]

theorem decode?_pair {high low : ℕ} (hhigh : 0xd800 ≤ high ∧ high < 0xdc00)
    (hlow : 0xdc00 ≤ low ∧ low < 0xe000) : decode? (high :: low :: units) =
      (decode? units).map fun cs =>
        Char.ofNat (0x10000 + (high - 0xd800) * 0x400 + (low - 0xdc00)) :: cs := by
  rw [decode?.eq_def]
  dsimp only
  rw [if_pos hhigh, if_pos hlow]

theorem decode?_encode (c : Char) (units : List ℕ) :
    decode? (encode c ++ units) = (decode? units).map fun cs => c :: cs := by
  have hrange := toNat_range c
  unfold encode
  split
  · -- one unit, which is no surrogate
    rw [List.singleton_append, decode?_unit (by omega) (by omega), Char.ofNat_toNat]
  · have hvalue : 0x10000 + (0xd800 + (c.toNat - 0x10000) / 0x400 - 0xd800) * 0x400 +
        (0xdc00 + (c.toNat - 0x10000) % 0x400 - 0xdc00) = c.toNat := by omega
    rw [List.cons_append, List.singleton_append, decode?_pair (by omega) (by omega), hvalue,
      Char.ofNat_toNat]

/-- What was encoded is decoded. -/
theorem decode?_flatMap_encode (cs : List Char) : decode? (cs.flatMap encode) = some cs := by
  induction cs with
  | nil => rfl
  | cons c cs ih => rw [List.flatMap_cons, decode?_encode, ih, Option.map_some]

/-- A unit has four hexadecimal digits. -/
theorem encode_lt {unit : ℕ} (h : unit ∈ encode c) : unit < 0x10000 := by
  have hrange := toNat_range c
  unfold encode at h
  split at h
  · rename_i hplane
    rw [List.mem_singleton.mp h]
    exact hplane
  · simp only [List.mem_cons, List.not_mem_nil, or_false] at h
    omega

def astral (c : Char) : Bool := 0x10000 ≤ c.toNat

/-- A text has one unit more than characters for each character beyond the basic plane. -/
theorem length_flatMap_encode (cs : List Char) :
    (cs.flatMap encode).length = cs.length + cs.countP astral := by
  induction cs with
  | nil => rfl
  | cons c cs ih =>
    rw [List.flatMap_cons, List.length_append, List.length_cons, List.countP_cons, ih]
    unfold encode astral
    by_cases hplane : c.toNat < 0x10000
    · rw [if_pos hplane, if_neg (by simpa using hplane), List.length_singleton]
      omega
    · rw [if_neg hplane, if_pos (by simpa using hplane), List.length_cons, List.length_singleton]
      omega

end Utf16
