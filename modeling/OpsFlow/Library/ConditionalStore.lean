import Mathlib.Logic.Function.Basic

/-! A store of items under keys on which each conditional write is one atomic step. -/

namespace ConditionalStore

universe u v
variable {κ : Type u} {ρ : Type v} [DecidableEq κ]

abbrev Store (κ : Type u) (ρ : Type v) := κ → Option ρ

def putIfAbsent (store : Store κ ρ) (key : κ) (item : ρ) : Option (Store κ ρ) :=
  match store key with
  | none => some (Function.update store key (some item))
  | some _ => none

def updateIf (store : Store κ ρ) (key : κ) (condition : ρ → Bool) (change : ρ → ρ) :
    Option (ρ × Store κ ρ) :=
  match store key with
  | none => none
  | some item =>
    if condition item then
      some (change item, Function.update store key (some (change item)))
    else none

variable {store store' : Store κ ρ} {key : κ} {item item' : ρ} {condition : ρ → Bool}
  {change : ρ → ρ}

/-- What is found under a key after a write: the item written, or what was there before. -/
theorem update_eq_some {key' : κ} : Function.update store key (some item) key' = some item' ↔
    (key' = key ∧ item = item') ∨ (key' ≠ key ∧ store key' = some item') := by
  by_cases h : key' = key
  · subst h
    simp
  · simp [h]

theorem putIfAbsent_eq_some : putIfAbsent store key item = some store' ↔
    store key = none ∧ Function.update store key (some item) = store' := by
  unfold putIfAbsent
  cases store key with
  | none => simp
  | some old => simp

theorem putIfAbsent_eq_none : putIfAbsent store key item = none ↔ ∃ old, store key = some old := by
  unfold putIfAbsent
  cases store key with
  | none => simp
  | some old => simp

/-- All that a conditional update can do when it succeeds. -/
theorem updateIf_eq_some : updateIf store key condition change = some (item', store') ↔
    ∃ item, store key = some item ∧ condition item = true ∧ change item = item' ∧
      Function.update store key (some item') = store' := by
  unfold updateIf
  cases store key with
  | none => simp
  | some item =>
    by_cases h : condition item = true
    · simp only [h, if_true, Option.some.injEq, Prod.mk.injEq]
      constructor
      · intro hs
        obtain ⟨rfl, hs⟩ := hs
        exact ⟨item, rfl, h, rfl, hs⟩
      · intro hs
        obtain ⟨_, rfl, -, rfl, hs⟩ := hs
        exact ⟨rfl, hs⟩
    · simp [h]

theorem updateIf_eq_none : updateIf store key condition change = none ↔
    ∀ item, store key = some item → condition item = false := by
  unfold updateIf
  cases store key with
  | none => simp
  | some item => simp

end ConditionalStore
