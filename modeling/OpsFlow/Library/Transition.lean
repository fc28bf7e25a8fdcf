import Mathlib.Logic.Relation
import Mathlib.Data.List.Basic

namespace Transition

universe u v
variable {σ : Type u} {α : Type v}

/-- The labels `as`, in this order, lead from `s` to `s'`. -/
inductive Run (step : σ → α → σ → Prop) : σ → List α → σ → Prop
  | nil (s : σ) : Run step s [] s
  | snoc {s s' s'' : σ} {as : List α} {a : α} :
      Run step s as s' → step s' a s'' → Run step s (as ++ [a]) s''

namespace Run

variable {step step' : σ → α → σ → Prop}

theorem single {s s' : σ} {a : α} (h : step s a s') : Run step s [a] s' :=
  .snoc (.nil s) h

theorem append {s s' s'' : σ} {as bs : List α}
    (h : Run step s as s') (h' : Run step s' bs s'') : Run step s (as ++ bs) s'' := by
  induction h' with
  | nil => simpa using h
  | snoc _ hstep ih =>
    rw [← List.append_assoc]
    exact .snoc ih hstep

theorem cons {s s' s'' : σ} {a : α} {as : List α}
    (h : step s a s') (h' : Run step s' as s'') : Run step s (a :: as) s'' :=
  append (single h) h'

/-- A run can be cut wherever its labels can. -/
theorem of_append {s s'' : σ} {as bs l : List α} (h : Run step s l s'') (hl : l = as ++ bs) :
    ∃ s', Run step s as s' ∧ Run step s' bs s'' := by
  induction h generalizing bs with
  | nil =>
    obtain ⟨rfl, rfl⟩ := List.append_eq_nil_iff.mp hl.symm
    exact ⟨s, .nil s, .nil s⟩
  | snoc hrun hstep ih =>
    rcases List.eq_nil_or_concat bs with rfl | ⟨bs', b, rfl⟩
    · rw [List.append_nil] at hl
      exact ⟨_, hl ▸ .snoc hrun hstep, .nil _⟩
    · rw [List.concat_eq_append, ← List.append_assoc] at hl
      obtain ⟨rfl, hb⟩ := List.append_inj' hl rfl
      cases hb
      obtain ⟨s', h₁, h₂⟩ := ih rfl
      rw [List.concat_eq_append]
      exact ⟨s', h₁, .snoc h₂ hstep⟩

theorem of_single {s s' : σ} {a : α} {l : List α} (h : Run step s l s') (hl : l = [a]) :
    step s a s' := by
  cases h with
  | nil => cases hl
  | snoc hrun hstep =>
    obtain ⟨hnil, ha⟩ := List.append_inj' (hl.trans (List.nil_append _).symm) rfl
    cases ha
    cases hrun with
    | nil => exact hstep
    | snoc => simp at hnil

theorem of_cons {s s'' : σ} {a : α} {as l : List α} (h : Run step s l s'') (hl : l = a :: as) :
    ∃ s', step s a s' ∧ Run step s' as s'' := by
  obtain ⟨s', h₁, h₂⟩ := h.of_append (hl.trans List.singleton_append.symm)
  exact ⟨s', h₁.of_single rfl, h₂⟩

/-- The induction rule of safety: what one step preserves, a run preserves. -/
theorem invariant {inv : σ → Prop} (hstep : ∀ s a s', inv s → step s a s' → inv s')
    {s s' : σ} {as : List α} (h : Run step s as s') (hs : inv s) : inv s' := by
  induction h with
  | nil => exact hs
  | snoc _ ha ih => exact hstep _ _ _ ih ha

/-- The same rule for an invariant that also speaks of the labels so far. -/
theorem invariant_trace {inv : List α → σ → Prop}
    (hstep : ∀ as s a s', inv as s → step s a s' → inv (as ++ [a]) s')
    {s s' : σ} {as : List α} (h : Run step s as s') (hs : inv [] s) : inv as s' := by
  induction h with
  | nil => exact hs
  | snoc _ ha ih => exact hstep _ _ _ _ ih ha

theorem mono (hsub : ∀ s a s', step s a s' → step' s a s')
    {s s' : σ} {as : List α} (h : Run step s as s') : Run step' s as s' := by
  induction h with
  | nil => exact .nil _
  | snoc _ ha ih => exact .snoc ih (hsub _ _ _ ha)

end Run

/-- On the way from `s` to `s'` there is a step that `P` holds of. -/
def Passed (step P : σ → α → σ → Prop) (s : σ) (as : List α) (s' : σ) : Prop :=
  ∃ as₁ s₁ a s₂ as₂, Run step s as₁ s₁ ∧ step s₁ a s₂ ∧ P s₁ a s₂ ∧ Run step s₂ as₂ s' ∧
    as = as₁ ++ a :: as₂

namespace Passed

variable {step P P' : σ → α → σ → Prop} {s s₁ s₂ : σ} {as : List α} {a : α}

theorem last (hrun : Run step s as s₁) (h : step s₁ a s₂) (hP : P s₁ a s₂) :
    Passed step P s (as ++ [a]) s₂ :=
  ⟨as, s₁, a, s₂, [], hrun, h, hP, .nil s₂, rfl⟩

theorem snoc (h : Passed step P s as s₁) (ha : step s₁ a s₂) :
    Passed step P s (as ++ [a]) s₂ := by
  obtain ⟨as₁, t₁, b, t₂, as₂, hbefore, hstep, hP, hafter, rfl⟩ := h
  exact ⟨as₁, t₁, b, t₂, as₂ ++ [a], hbefore, hstep, hP, .snoc hafter ha, by simp⟩

theorem imp (h : Passed step P s as s₁) (himp : ∀ t b t', P t b t' → P' t b t') :
    Passed step P' s as s₁ := by
  obtain ⟨as₁, t₁, b, t₂, as₂, hbefore, hstep, hP, hafter, hlabels⟩ := h
  exact ⟨as₁, t₁, b, t₂, as₂, hbefore, hstep, himp _ _ _ hP, hafter, hlabels⟩

end Passed

/-- A state that some run from an initial state ends in. -/
def Reachable (init : σ → Prop) (step : σ → α → σ → Prop) (s : σ) : Prop :=
  ∃ s₀ as, init s₀ ∧ Run step s₀ as s

theorem Reachable.invariant {step : σ → α → σ → Prop} {init inv : σ → Prop}
    (hinit : ∀ s, init s → inv s) (hstep : ∀ s a s', inv s → step s a s' → inv s')
    {s : σ} (h : Reachable init step s) : inv s := by
  obtain ⟨s₀, as, h₀, hrun⟩ := h
  exact hrun.invariant hstep (hinit s₀ h₀)

theorem Reachable.step {step : σ → α → σ → Prop} {init : σ → Prop} {s s' : σ} {a : α}
    (h : Reachable init step s) (ha : step s a s') : Reachable init step s' := by
  obtain ⟨s₀, as, h₀, hrun⟩ := h
  exact ⟨s₀, as ++ [a], h₀, .snoc hrun ha⟩

end Transition
