import Mathlib.Data.List.Basic

/-! Two runs that cannot be told apart by what they put out. -/

namespace Unwinding

universe u v w
variable {σ σ' : Type u} {ι ι' : Type v} {ο : Type w}

def outputs (step : σ → ι → ο × σ) : σ → List ι → List ο
  | _, [] => []
  | s, x :: xs => (step s x).1 :: outputs step (step s x).2 xs

def after (step : σ → ι → ο × σ) : σ → List ι → σ
  | s, [] => s
  | s, x :: xs => after step (step s x).2 xs

/-- From related states and inputs, two machines put out the same and stay related. -/
def Unwinds (step : σ → ι → ο × σ) (step' : σ' → ι' → ο × σ') (R : σ → σ' → Prop)
    (A : ι → ι' → Prop) : Prop :=
  ∀ s s' x x', R s s' → A x x' →
    (step s x).1 = (step' s' x').1 ∧ R (step s x).2 (step' s' x').2

variable {step : σ → ι → ο × σ} {step' : σ' → ι' → ο × σ'} {R : σ → σ' → Prop}
  {A : ι → ι' → Prop}

/-- The rule of noninterference: what one step does not tell apart, no run does. -/
theorem Unwinds.run (h : Unwinds step step' R A) {s : σ} {s' : σ'} (hs : R s s') {xs : List ι}
    {xs' : List ι'} (hxs : List.Forall₂ A xs xs') :
    outputs step s xs = outputs step' s' xs' ∧ R (after step s xs) (after step' s' xs') := by
  induction hxs generalizing s s' with
  | nil => exact ⟨rfl, hs⟩
  | cons hx _ ih =>
    obtain ⟨hout, hnext⟩ := h s s' _ _ hs hx
    obtain ⟨houts, hlast⟩ := ih hnext
    refine ⟨?_, hlast⟩
    unfold outputs
    rw [hout, houts]

end Unwinding
