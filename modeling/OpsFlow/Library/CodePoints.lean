import Mathlib.Data.List.Basic

/-! Texts as code points, lone surrogates included, and which of them UTF-8 can write. -/

namespace CodePoints

abbrev CodePoint := Fin 0x110000

variable {c : Char} {p : CodePoint} {text : List CodePoint} {s : String}

def ofChar (c : Char) : CodePoint := ⟨c.toNat, by
  have hvalid : c.toNat < 0xd800 ∨ (0xdfff < c.toNat ∧ c.toNat < 0x110000) := c.valid
  omega⟩

def ofString (s : String) : List CodePoint := s.toList.map ofChar

/-- A surrogate is no character. -/
def char? (p : CodePoint) : Option Char :=
  if 0xd800 ≤ p.val ∧ p.val < 0xe000 then none else some (Char.ofNat p.val)

/-- The UTF-8 bytes of a text; a `String` stands for its bytes. -/
def encode? (text : List CodePoint) : Option String := (text.mapM char?).map String.ofList

theorem char?_ofChar (c : Char) : char? (ofChar c) = some c := by
  have hvalid : c.toNat < 0xd800 ∨ (0xdfff < c.toNat ∧ c.toNat < 0x110000) := c.valid
  have hval : (ofChar c).val = c.toNat := rfl
  rw [char?, hval, if_neg (by omega), Char.ofNat_toNat]

theorem ofChar_of_char? (h : char? p = some c) : p = ofChar c := by
  unfold char? at h
  split at h
  · contradiction
  · rename_i hsurrogate
    obtain rfl := Option.some.inj h
    have hvalid : p.val.isValidChar := by
      have hp := p.isLt
      unfold Nat.isValidChar
      omega
    apply Fin.ext
    change p.val = (Char.ofNat p.val).toNat
    unfold Char.ofNat
    rw [dif_pos hvalid]
    rfl

theorem mapM_char?_eq_some {cs : List Char} : text.mapM char? = some cs ↔ text = cs.map ofChar := by
  induction text generalizing cs with
  | nil => simp [eq_comm]
  | cons p text ih =>
    constructor
    · intro h
      rw [List.mapM_cons, Option.bind_eq_bind, Option.bind_eq_some_iff] at h
      obtain ⟨c, hc, h⟩ := h
      rw [Option.bind_eq_bind, Option.bind_eq_some_iff] at h
      obtain ⟨cs, hcs, h⟩ := h
      obtain rfl := Option.some.inj h
      rw [List.map_cons, ofChar_of_char? hc, ih.mp hcs]
    · intro h
      cases cs with
      | nil => contradiction
      | cons c cs =>
        rw [List.map_cons, List.cons.injEq] at h
        rw [List.mapM_cons, h.1, char?_ofChar, ih.mpr h.2]
        rfl

/-- A text has UTF-8 bytes if and only if it is the text of a string, and they are its bytes. -/
theorem encode?_eq_some : encode? text = some s ↔ text = ofString s := by
  unfold encode? ofString
  rw [Option.map_eq_some_iff]
  constructor
  · rintro ⟨cs, hcs, rfl⟩
    rw [String.toList_ofList, mapM_char?_eq_some.mp hcs]
  · intro h
    exact ⟨s.toList, mapM_char?_eq_some.mpr h, String.ofList_toList⟩

theorem ofChar_inj {c' : Char} : ofChar c = ofChar c' ↔ c = c' := by
  constructor
  · intro h
    rw [← Char.ofNat_toNat c, ← Char.ofNat_toNat c']
    exact congrArg (fun p => Char.ofNat p.val) h
  · rintro rfl
    rfl

theorem ofChar_mem_ofString : ofChar c ∈ ofString s ↔ c ∈ s.toList := by
  unfold ofString
  simp only [List.mem_map, ofChar_inj, exists_eq_right]

end CodePoints
