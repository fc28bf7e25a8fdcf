import Mathlib.Data.List.GetD

/-! Base64 with the alphabet of URLs, without padding. -/

namespace Base64

variable {bytes : List UInt8} {c : Char}

def alphabet : List Char :=
  "ABCDEFGHIJKLMNOPQRSTUVWXYZabcdefghijklmnopqrstuvwxyz0123456789-_".toList

def digit (n : ℕ) : Char := alphabet.getD n 'A'

/-- Three bytes are four digits; the bits that are missing at the end are zero. -/
def urlsafeEncode : List UInt8 → List Char
  | [] => []
  | [a] => [digit (a.toNat / 4), digit (a.toNat % 4 * 16)]
  | [a, b] =>
    [digit (a.toNat / 4), digit (a.toNat % 4 * 16 + b.toNat / 16), digit (b.toNat % 16 * 4)]
  | a :: b :: c :: rest =>
    digit (a.toNat / 4) :: digit (a.toNat % 4 * 16 + b.toNat / 16) ::
      digit (b.toNat % 16 * 4 + c.toNat / 64) :: digit (c.toNat % 64) :: urlsafeEncode rest

theorem digit_mem (n : ℕ) : digit n ∈ alphabet := by
  unfold digit
  by_cases hn : n < alphabet.length
  · rw [List.getD_eq_getElem _ _ hn]
    exact List.getElem_mem hn
  · rw [List.getD_eq_default _ _ (Nat.not_lt.mp hn)]
    decide

theorem mem_urlsafeEncode (h : c ∈ urlsafeEncode bytes) : c ∈ alphabet := by
  induction bytes using urlsafeEncode.induct with
  | case1 => contradiction
  | case2 a =>
    simp only [urlsafeEncode, List.mem_cons, List.not_mem_nil, or_false] at h
    obtain rfl | rfl := h <;> exact digit_mem _
  | case3 a b =>
    simp only [urlsafeEncode, List.mem_cons, List.not_mem_nil, or_false] at h
    obtain rfl | rfl | rfl := h <;> exact digit_mem _
  | case4 a b c' rest ih =>
    simp only [urlsafeEncode, List.mem_cons] at h
    obtain rfl | rfl | rfl | rfl | h := h
    · exact digit_mem _
    · exact digit_mem _
    · exact digit_mem _
    · exact digit_mem _
    · exact ih h

theorem urlsafeEncode_ne_nil (h : bytes ≠ []) : urlsafeEncode bytes ≠ [] := by
  induction bytes using urlsafeEncode.induct with
  | case1 => exact absurd rfl h
  | case2 a => exact List.cons_ne_nil _ _
  | case3 a b => exact List.cons_ne_nil _ _
  | case4 a b c rest => exact List.cons_ne_nil _ _

end Base64
