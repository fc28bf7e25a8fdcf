import OpsFlow.Library.RowStore

/-! What a database enforces over its tables: unique indexes, checks, and foreign keys. A
unique index ranges over the versions that are committed or in flight, as an insert waits for
the others. -/

namespace RowStore

universe u v w v' w' x

namespace Table

variable {τ : Type u} {κ : Type v} {ρ : Type w} {β : Type x} {T T' : Table τ κ ρ} {t : τ} {k : κ}
  {row : ρ} {f : ρ → β} {P : κ → ρ → Prop} {R : ρ → ρ → Prop}

def Unique (T : Table τ κ ρ) (f : ρ → β) : Prop :=
  ∀ k k' row row', T.Version k row → T.Version k' row' → f row = f row' → k = k'

def Checked (T : Table τ κ ρ) (P : κ → ρ → Prop) : Prop := ∀ k row, T.Version k row → P k row

/-- No transaction removes a row, or changes it in another way than `R` allows. -/
def Grows (T : Table τ κ ρ) (R : ρ → ρ → Prop) : Prop :=
  ∀ t k row, T.holder k = some t → T.committed k = some row →
    ∃ row', T.pending k = some row' ∧ R row row'

theorem version_of {rows : κ → Option ρ} (h : (of rows : Table τ κ ρ).Version k row) :
    rows k = some row := by
  rcases h with hrow | ⟨⟨t, hheld⟩, -⟩
  · exact hrow
  · contradiction

theorem Unique.mono (h : T.Unique f) (hsub : ∀ k row, T'.Version k row → T.Version k row) :
    T'.Unique f :=
  fun k k' row row' hrow hrow' heq => h k k' row row' (hsub k row hrow) (hsub k' row' hrow') heq

theorem Checked.mono (h : T.Checked P) (hsub : ∀ k row, T'.Version k row → T.Version k row) :
    T'.Checked P :=
  fun k row hrow => h k row (hsub k row hrow)

section Write
variable [DecidableEq κ]

/-- A row may be written whose value no row under another key has. -/
theorem Unique.write (h : T.Unique f)
    (hnew : ∀ k' row', T.Version k' row' → f row' = f row → k' = k) :
    (T.write t k (some row)).Unique f := by
  intro k₁ k₂ row₁ row₂ h₁ h₂ heq
  rcases version_write h₁ with hold₁ | ⟨rfl, rfl⟩
  · rcases version_write h₂ with hold₂ | ⟨rfl, rfl⟩
    · exact h k₁ k₂ row₁ row₂ hold₁ hold₂ heq
    · exact hnew k₁ row₁ hold₁ heq
  · rcases version_write h₂ with hold₂ | ⟨rfl, rfl⟩
    · exact (hnew k₂ row₂ hold₂ heq.symm).symm
    · rfl

theorem Checked.write (h : T.Checked P) (hrow : P k row) : (T.write t k (some row)).Checked P := by
  intro k' row' hversion
  rcases version_write hversion with hold | ⟨rfl, rfl⟩
  · exact h k' row' hold
  · exact hrow

theorem Grows.write (h : T.Grows R) (hrow : ∀ old, T.committed k = some old → R old row) :
    (T.write t k (some row)).Grows R := by
  intro t' k' old hholder hold
  by_cases hk : k' = k
  · subst hk
    exact ⟨row, pending_write_self, hrow old hold⟩
  · rw [holder_write_of_ne hk] at hholder
    rw [pending_write_of_ne hk]
    exact h t' k' old hholder hold

end Write

section Holder
variable [DecidableEq τ]

theorem Grows.rollback (h : T.Grows R) : (T.rollback t).Grows R :=
  fun t' k row hholder hrow => h t' k row (holder_rollback_eq_some.mp hholder).1 hrow

theorem Grows.commit (h : T.Grows R) : (T.commit t).Grows R := by
  intro t' k row hholder hrow
  obtain ⟨hholder, hne⟩ := holder_rollback_eq_some.mp hholder
  -- another transaction holds the row, so that it is committed as it was
  rw [committed_commit, view_of_not_holder fun h => hne (Option.some.inj (hholder.symm.trans h))]
    at hrow
  exact h t' k row hholder hrow

/-- What is committed has grown. -/
theorem Grows.committed_commit (h : T.Grows R) (hrefl : ∀ row, R row row)
    (hrow : T.committed k = some row) :
    ∃ row', (T.commit t).committed k = some row' ∧ R row row' := by
  rw [Table.committed_commit]
  by_cases hholder : T.holder k = some t
  · rw [view_of_holder hholder]
    exact h t k row hholder hrow
  · rw [view_of_not_holder hholder]
    exact ⟨row, hrow, hrefl row⟩

end Holder

def Stays (T : Table τ κ ρ) (k : κ) : Prop := ∀ t, T.holder k = some t → T.pending k ≠ none

end Table

/-! ## Foreign keys -/

variable {τ : Type u} {κ : Type v} {ρ : Type w} {κ' : Type v'} {ρ' : Type w'} {parent : κ' → κ}
  {P : Table τ κ ρ} {C : Table τ κ' ρ'} {t : τ} {k : κ} {c : κ'}

/-- Every child has a parent. Whoever inserts a child holds on to the parent, so that it is there
for the transaction, and nobody removes it before the transaction ends. -/
structure References [DecidableEq τ] (parent : κ' → κ) (P : Table τ κ ρ) (C : Table τ κ' ρ') :
    Prop where
  committed : ∀ c, C.committed c ≠ none → P.committed (parent c) ≠ none
  pending : ∀ t c, C.holder c = some t → C.pending c ≠ none →
    P.view t (parent c) ≠ none ∧ P.Stays (parent c)

namespace References

variable [DecidableEq τ]

open Table

theorem insertChild [DecidableEq κ'] {row : ρ'} (h : References parent P C)
    (hparent : P.view t (parent c) ≠ none) (hstays : P.Stays (parent c)) :
    References parent P (C.write t c (some row)) := by
  refine ⟨h.committed, fun t' c' hholder hpending => ?_⟩
  by_cases hc : c' = c
  · subst hc
    obtain rfl := Option.some.inj (holder_write_self.symm.trans hholder)
    exact ⟨hparent, hstays⟩
  · rw [holder_write_of_ne hc] at hholder
    rw [pending_write_of_ne hc] at hpending
    exact h.pending t' c' hholder hpending

theorem removeChild [DecidableEq κ'] (h : References parent P C) :
    References parent P (C.write t c none) := by
  refine ⟨h.committed, fun t' c' hholder hpending => ?_⟩
  by_cases hc : c' = c
  · subst hc
    exact absurd pending_write_self hpending
  · rw [holder_write_of_ne hc] at hholder
    rw [pending_write_of_ne hc] at hpending
    exact h.pending t' c' hholder hpending

theorem rollback (h : References parent P C) : References parent (P.rollback t) (C.rollback t) := by
  refine ⟨h.committed, fun t' c hholder hpending => ?_⟩
  obtain ⟨hholder, hne⟩ := holder_rollback_eq_some.mp hholder
  obtain ⟨hview, hstays⟩ := h.pending t' c hholder hpending
  refine ⟨?_, fun t'' hheld => hstays t'' (holder_rollback_eq_some.mp hheld).1⟩
  by_cases hheld : P.holder (parent c) = some t'
  · rwa [view_of_holder (holder_rollback_eq_some.mpr ⟨hheld, hne⟩), pending_rollback,
      ← view_of_holder hheld]
  · rw [view_of_not_holder fun h' => hheld (holder_rollback_eq_some.mp h').1, committed_rollback]
    rwa [view_of_not_holder hheld] at hview

/-- A transaction that removes parents has to remove their children first. -/
theorem commit (h : References parent P C)
    (hcascade : ∀ c, P.holder (parent c) = some t → P.pending (parent c) = none →
      C.view t c = none) :
    References parent (P.commit t) (C.commit t) := by
  constructor
  · intro c hc
    rw [committed_commit] at hc ⊢
    by_cases hchild : C.holder c = some t
    · rw [view_of_holder hchild] at hc
      exact (h.pending t c hchild hc).1
    · by_cases hparent : P.holder (parent c) = some t
      · rw [view_of_holder hparent]
        exact fun hnone => hc (hcascade c hparent hnone)
      · rw [view_of_not_holder hchild] at hc
        rw [view_of_not_holder hparent]
        exact h.committed c hc
  · intro t' c hholder hpending
    obtain ⟨hholder, hne⟩ := holder_rollback_eq_some.mp hholder
    obtain ⟨hview, hstays⟩ := h.pending t' c hholder hpending
    refine ⟨?_, fun t'' hheld => hstays t'' (holder_rollback_eq_some.mp hheld).1⟩
    by_cases hheld : P.holder (parent c) = some t'
    · have hstill : (P.commit t).holder (parent c) = some t' :=
        holder_rollback_eq_some.mpr ⟨hheld, hne⟩
      rw [view_of_holder hstill]
      exact hstays t' hheld
    · have hstill : (P.commit t).holder (parent c) ≠ some t' :=
        fun h' => hheld (holder_rollback_eq_some.mp h').1
      rw [view_of_not_holder hstill, committed_commit]
      by_cases ht : P.holder (parent c) = some t
      · rw [view_of_holder ht]
        exact hstays t ht
      · rw [view_of_not_holder ht]
        rwa [view_of_not_holder hheld] at hview

variable [DecidableEq κ]

theorem writeParent {row : ρ} (h : References parent P C) (hfree : P.Free t k) :
    References parent (P.write t k (some row)) C := by
  refine ⟨h.committed, fun t' c hholder hpending => ?_⟩
  obtain ⟨hview, hstays⟩ := h.pending t' c hholder hpending
  by_cases hk : parent c = k
  · refine ⟨?_, fun t'' _ => by simp [hk]⟩
    by_cases ht : t' = t
    · subst ht
      rw [hk, view_write_self]
      exact Option.some_ne_none row
    · have hother : P.holder k ≠ some t' := by
        rintro hheld
        rcases hfree with hfree | hfree
        · simp [hfree] at hheld
        · exact ht (Option.some.inj (hheld.symm.trans hfree))
      rw [hk, view_of_not_holder hother] at hview
      rw [hk, view_of_not_holder (by simp [Ne.symm ht]), committed_write]
      exact hview
  · refine ⟨by rwa [view_write_of_ne hk], fun t'' hheld => ?_⟩
    rw [holder_write_of_ne hk] at hheld
    rw [pending_write_of_ne hk]
    exact hstays t'' hheld

/-- A parent may be removed that nobody is inserting a child of. -/
theorem removeParent (h : References parent P C)
    (hchildren : ∀ c t', parent c = k → C.holder c = some t' → C.pending c = none) :
    References parent (P.write t k none) C := by
  refine ⟨h.committed, fun t' c hholder hpending => ?_⟩
  have hk : parent c ≠ k := fun hk => hpending (hchildren c t' hk hholder)
  obtain ⟨hview, hstays⟩ := h.pending t' c hholder hpending
  refine ⟨by rwa [view_write_of_ne hk], fun t'' hheld => ?_⟩
  rw [holder_write_of_ne hk] at hheld
  rw [pending_write_of_ne hk]
  exact hstays t'' hheld

end References
end RowStore
