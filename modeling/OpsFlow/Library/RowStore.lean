import Mathlib.Logic.Function.Basic
import Mathlib.Tactic.SplitIfs

/-! A table under READ COMMITTED: every statement sees the committed rows and its own writes, a
writer holds the row until its transaction ends, and a second writer of the row waits. -/

namespace RowStore

universe u v w

/-- `holder k` is the transaction that holds row `k`, and `pending k` the version that it would
commit; an absent row is `none`. -/
structure Table (τ : Type u) (κ : Type v) (ρ : Type w) where
  committed : κ → Option ρ
  pending : κ → Option ρ
  holder : κ → Option τ

namespace Table

variable {τ : Type u} {κ : Type v} {ρ : Type w}

def of (rows : κ → Option ρ) : Table τ κ ρ := ⟨rows, fun _ => none, fun _ => none⟩

/-- No other transaction holds the row, so that a write of `t` need not wait. -/
def Free (T : Table τ κ ρ) (t : τ) (k : κ) : Prop := T.holder k = none ∨ T.holder k = some t

/-- A version of row `k` that is committed or that some transaction holds. Unique constraints range
over these, since an insert waits for the transactions in flight. -/
def Version (T : Table τ κ ρ) (k : κ) (row : ρ) : Prop :=
  T.committed k = some row ∨ ((∃ t, T.holder k = some t) ∧ T.pending k = some row)

def HoldsNothing (T : Table τ κ ρ) (t : τ) : Prop := ∀ k, T.holder k ≠ some t

/-- Transaction `t` holds the same rows in `T'` as in `T`, in the same versions. -/
structure SameFor (t : τ) (T T' : Table τ κ ρ) : Prop where
  holder : ∀ k, T'.holder k = some t ↔ T.holder k = some t
  pending : ∀ k, T.holder k = some t → T'.pending k = T.pending k

def SameExcept (t : τ) (T T' : Table τ κ ρ) : Prop := ∀ t', t' ≠ t → SameFor t' T T'

/-- Transaction `t` would commit no change. -/
def Clean (T : Table τ κ ρ) (t : τ) : Prop := ∀ k, T.holder k = some t → T.pending k = T.committed k

def HoldsOnly (T : Table τ κ ρ) (t : τ) (k : κ) : Prop := ∀ k', T.holder k' = some t ↔ k' = k

/-- Besides, the rows that `t` holds are committed in the same versions. -/
structure Undisturbed (t : τ) (T T' : Table τ κ ρ) : Prop extends SameFor t T T' where
  committed : ∀ k, T.holder k = some t → T'.committed k = T.committed k

/-- The row as a statement of transaction `t` sees it. -/
def view [DecidableEq τ] (T : Table τ κ ρ) (t : τ) (k : κ) : Option ρ :=
  if T.holder k = some t then T.pending k else T.committed k

/-- Insert, change or (with `none`) delete row `k`, as part of transaction `t`. -/
def write [DecidableEq κ] (T : Table τ κ ρ) (t : τ) (k : κ) (row : Option ρ) : Table τ κ ρ :=
  { T with
    pending := Function.update T.pending k row
    holder := Function.update T.holder k (some t) }

/-- `SELECT ... FOR UPDATE`. -/
def acquire [DecidableEq τ] [DecidableEq κ] (T : Table τ κ ρ) (t : τ) (k : κ) : Table τ κ ρ :=
  T.write t k (T.view t k)

def rollback [DecidableEq τ] (T : Table τ κ ρ) (t : τ) : Table τ κ ρ :=
  { T with holder := fun k => if T.holder k = some t then none else T.holder k }

def commit [DecidableEq τ] (T : Table τ κ ρ) (t : τ) : Table τ κ ρ :=
  { T.rollback t with committed := T.view t }

theorem sameFor_refl (t : τ) (T : Table τ κ ρ) : SameFor t T T :=
  ⟨fun _ => Iff.rfl, fun _ _ => rfl⟩

theorem sameExcept_refl (t : τ) (T : Table τ κ ρ) : SameExcept t T T :=
  fun t' _ => sameFor_refl t' T

theorem SameFor.holdsNothing {t : τ} {T T' : Table τ κ ρ} (h : SameFor t T T')
    (hn : T.HoldsNothing t) : T'.HoldsNothing t :=
  fun k hk => hn k ((h.holder k).mp hk)

theorem undisturbed_refl (t : τ) (T : Table τ κ ρ) : Undisturbed t T T :=
  ⟨sameFor_refl t T, fun _ _ => rfl⟩

theorem HoldsNothing.clean {t : τ} {T : Table τ κ ρ} (h : T.HoldsNothing t) : T.Clean t :=
  fun k hk => absurd hk (h k)

theorem HoldsOnly.holder {t : τ} {k : κ} {T : Table τ κ ρ} (h : T.HoldsOnly t k) :
    T.holder k = some t := (h k).mpr rfl

theorem SameFor.holdsOnly {t : τ} {k : κ} {T T' : Table τ κ ρ} (h : SameFor t T T')
    (ho : T.HoldsOnly t k) : T'.HoldsOnly t k :=
  fun k' => (h.holder k').trans (ho k')

theorem Undisturbed.clean {t : τ} {T T' : Table τ κ ρ} (h : Undisturbed t T T')
    (hc : T.Clean t) : T'.Clean t := by
  intro k hk
  have hold := (h.holder k).mp hk
  rw [h.pending k hold, hc k hold, h.committed k hold]

section Holder
variable [DecidableEq τ] {T : Table τ κ ρ} {t t' : τ} {k k' : κ} {row : Option ρ}

theorem view_of_holder (h : T.holder k = some t) : T.view t k = T.pending k := if_pos h

theorem view_of_not_holder (h : T.holder k ≠ some t) : T.view t k = T.committed k := if_neg h

@[simp] theorem committed_rollback : (T.rollback t).committed = T.committed := rfl

@[simp] theorem committed_commit : (T.commit t).committed = T.view t := rfl

@[simp] theorem pending_rollback : (T.rollback t).pending = T.pending := rfl

@[simp] theorem pending_commit : (T.commit t).pending = T.pending := rfl

@[simp] theorem holder_commit : (T.commit t).holder = (T.rollback t).holder := rfl

@[simp] theorem holder_rollback_eq_some :
    (T.rollback t).holder k = some t' ↔ T.holder k = some t' ∧ t' ≠ t := by
  by_cases h : T.holder k = some t
  · simp only [rollback, h, if_true, Option.some.injEq, reduceCtorEq, false_iff]
    intro hc
    exact hc.2 hc.1.symm
  · simp only [rollback, h, if_false]
    constructor
    · intro h'
      refine ⟨h', ?_⟩
      rintro rfl
      exact h h'
    · exact fun h' => h'.1

theorem holdsNothing_rollback : (T.rollback t).HoldsNothing t := fun k => by simp

theorem holdsNothing_commit : (T.commit t).HoldsNothing t := fun k => by simp

theorem sameExcept_rollback (t : τ) (T : Table τ κ ρ) : SameExcept t T (T.rollback t) :=
  fun t' h => ⟨fun k => by simp [h], fun _ _ => rfl⟩

theorem sameExcept_commit (t : τ) (T : Table τ κ ρ) : SameExcept t T (T.commit t) :=
  fun t' h => ⟨fun k => by simp [h], fun _ _ => rfl⟩

theorem undisturbed_rollback (h : t' ≠ t) : Undisturbed t' T (T.rollback t) :=
  ⟨sameExcept_rollback t T t' h, fun _ _ => rfl⟩

/-- A commit leaves alone the rows that another transaction holds. -/
theorem undisturbed_commit (h : t' ≠ t) : Undisturbed t' T (T.commit t) := by
  refine ⟨sameExcept_commit t T t' h, fun k hk => view_of_not_holder ?_⟩
  rw [hk]
  exact fun heq => h (Option.some.inj heq)

theorem HoldsNothing.view (h : T.HoldsNothing t) : T.view t k = T.committed k :=
  view_of_not_holder (h k)

theorem Clean.view (h : T.Clean t) : T.view t = T.committed := by
  funext k
  by_cases hk : T.holder k = some t
  · rw [view_of_holder hk, h k hk]
  · exact view_of_not_holder hk

theorem Clean.committed_commit (h : T.Clean t) : (T.commit t).committed = T.committed := h.view

/-- A transaction that holds one row commits that row. -/
theorem HoldsOnly.committed_commit [DecidableEq κ] (h : T.HoldsOnly t k) :
    (T.commit t).committed = Function.update T.committed k (T.pending k) := by
  funext k'
  by_cases hk : k' = k
  · subst hk
    rw [Function.update_self, Table.committed_commit, view_of_holder h.holder]
  · rw [Function.update_of_ne hk, Table.committed_commit, view_of_not_holder]
    exact fun hh => hk ((h k').mp hh)

variable {r : ρ}

theorem version_of_view (h : T.view t k = some r) : T.Version k r := by
  unfold view at h
  split_ifs at h with hh
  · exact .inr ⟨⟨t, hh⟩, h⟩
  · exact .inl h

theorem version_rollback (h : (T.rollback t).Version k r) : T.Version k r := by
  rcases h with h | ⟨⟨t', ht'⟩, h⟩
  · exact .inl h
  · exact .inr ⟨⟨t', (holder_rollback_eq_some.mp ht').1⟩, h⟩

/-- A commit makes no version that was not there before. -/
theorem version_commit (h : (T.commit t).Version k r) : T.Version k r := by
  rcases h with h | ⟨⟨t', ht'⟩, h⟩
  · exact version_of_view h
  · exact .inr ⟨⟨t', (holder_rollback_eq_some.mp ht').1⟩, h⟩

end Holder

section Write
variable [DecidableEq κ] {T : Table τ κ ρ} {t t' : τ} {k k' : κ} {row : Option ρ}

@[simp] theorem committed_write : (T.write t k row).committed = T.committed := rfl

@[simp] theorem holder_write_self : (T.write t k row).holder k = some t := by
  simp [write]

theorem holder_write_of_ne (h : k' ≠ k) : (T.write t k row).holder k' = T.holder k' := by
  simp [write, h]

@[simp] theorem pending_write_self : (T.write t k row).pending k = row := by
  simp [write]

theorem pending_write_of_ne (h : k' ≠ k) : (T.write t k row).pending k' = T.pending k' := by
  simp [write, h]

theorem sameExcept_write (hfree : T.Free t k) : SameExcept t T (T.write t k row) := by
  intro t' ht'
  have hother : T.holder k ≠ some t' := by
    rcases hfree with hf | hf
    · simp [hf]
    · simp [hf, Ne.symm ht']
  refine ⟨fun k' => ?_, fun k' h => ?_⟩
  · by_cases hk : k' = k
    · subst hk
      simp [Ne.symm ht', hother]
    · rw [holder_write_of_ne hk]
  · have hk : k' ≠ k := by
      rintro rfl
      exact hother h
    exact pending_write_of_ne hk

theorem undisturbed_write (hfree : T.Free t k) (h : t' ≠ t) :
    Undisturbed t' T (T.write t k row) :=
  ⟨sameExcept_write hfree t' h, fun _ _ => rfl⟩

theorem HoldsNothing.write (h : T.HoldsNothing t) : (T.write t k row).HoldsOnly t k := by
  intro k'
  by_cases hk : k' = k
  · simp [hk]
  · rw [holder_write_of_ne hk]
    exact iff_of_false (h k') hk

theorem HoldsOnly.write (h : T.HoldsOnly t k) : (T.write t k row).HoldsOnly t k := by
  intro k'
  by_cases hk : k' = k
  · simp [hk]
  · rw [holder_write_of_ne hk]
    exact h k'

theorem version_write {r r' : ρ} (h : (T.write t k (some r)).Version k' r') :
    T.Version k' r' ∨ (k' = k ∧ r' = r) := by
  by_cases hk : k' = k
  · subst hk
    rcases h with h | ⟨-, h⟩
    · exact .inl (.inl h)
    · rw [pending_write_self] at h
      exact .inr ⟨rfl, (Option.some.inj h).symm⟩
  · rcases h with h | ⟨⟨t', ht'⟩, h⟩
    · exact .inl (.inl h)
    · rw [holder_write_of_ne hk] at ht'
      rw [pending_write_of_ne hk] at h
      exact .inl (.inr ⟨⟨t', ht'⟩, h⟩)

/-- A deletion makes no version. -/
theorem version_write_none {r' : ρ} (h : (T.write t k none).Version k' r') : T.Version k' r' := by
  rcases h with h | ⟨⟨t', ht'⟩, h⟩
  · exact .inl h
  · by_cases hk : k' = k
    · subst hk
      rw [pending_write_self] at h
      contradiction
    · rw [holder_write_of_ne hk] at ht'
      rw [pending_write_of_ne hk] at h
      exact .inr ⟨⟨t', ht'⟩, h⟩

variable [DecidableEq τ]

@[simp] theorem view_write_self : (T.write t k row).view t k = row := by
  simp [view]

theorem view_write_of_ne (h : k' ≠ k) : (T.write t k row).view t' k' = T.view t' k' := by
  simp [view, holder_write_of_ne h, pending_write_of_ne h]

@[simp] theorem committed_acquire : (T.acquire t k).committed = T.committed := rfl

@[simp] theorem view_acquire_self : (T.acquire t k).view t k' = T.view t k' := by
  by_cases hk : k' = k
  · subst hk
    exact view_write_self
  · exact view_write_of_ne hk

/-- To lock a row is no change of it. -/
theorem HoldsNothing.clean_acquire (h : T.HoldsNothing t) : (T.acquire t k).Clean t := by
  intro k' hk'
  obtain rfl := ((h.write : (T.acquire t k).HoldsOnly t k) k').mp hk'
  rw [committed_acquire, acquire, pending_write_self, h.view]

end Write

end Table
end RowStore
