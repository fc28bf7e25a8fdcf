import Mathlib.Data.Rat.Defs
import Mathlib.Algebra.Order.Ring.Rat
import Mathlib.Tactic.Linarith

namespace OpsFlow.Gateway

inductive CircuitState
  | closed
  | opened
  | halfOpen
  deriving DecidableEq, Repr

structure CircuitPermit where
  generation : ℕ
  isHalfOpenProbe : Bool
  deriving DecidableEq, Repr

/-- `CircuitOpenError.__init__` clamps the retry interval at zero. -/
structure CircuitOpenError where
  retryAfterSeconds : ℚ
  deriving DecidableEq, Repr

def CircuitOpenError.new (retryAfterSeconds : ℚ) : CircuitOpenError := ⟨max retryAfterSeconds 0⟩

structure BreakerConfig where
  failureThreshold : ℕ
  recoverySeconds : ℚ
  threshold_pos : 1 ≤ failureThreshold
  recovery_pos : 0 < recoverySeconds

def BreakerConfig.new (failureThreshold : ℤ) (recoverySeconds : ℚ) : Except String BreakerConfig :=
  if hf : failureThreshold < 1 then
    .error "failure_threshold must be at least 1."
  else if hr : recoverySeconds ≤ 0 then
    .error "recovery_seconds must be greater than 0."
  else
    .ok ⟨failureThreshold.toNat, recoverySeconds, by omega, not_le.mp hr⟩

/-- The mutable fields that the lock protects. -/
structure CircuitBreaker where
  state : CircuitState
  consecutiveFailures : ℕ
  openedAt : Option ℚ
  generation : ℕ
  deriving DecidableEq, Repr

namespace CircuitBreaker

def new : CircuitBreaker := ⟨.closed, 0, none, 0⟩

def acquirePermission (c : BreakerConfig) (b : CircuitBreaker) (currentTime : ℚ) :
    CircuitBreaker × Except CircuitOpenError CircuitPermit :=
  match b.state with
  | .closed => (b, .ok ⟨b.generation, false⟩)
  | .halfOpen => (b, .error (.new 1))
  | .opened =>
    let remainingSeconds := match b.openedAt with
      | none => c.recoverySeconds
      | some openedAt => c.recoverySeconds - (currentTime - openedAt)
    if 0 < remainingSeconds then
      (b, .error (.new remainingSeconds))
    else
      ({ b with state := .halfOpen }, .ok ⟨b.generation, true⟩)

def openLocked (c : BreakerConfig) (b : CircuitBreaker) (openedAt : ℚ) : CircuitBreaker :=
  { state := .opened
    openedAt := some openedAt
    consecutiveFailures := c.failureThreshold
    generation := b.generation + 1 }

def recordSuccess (b : CircuitBreaker) (permit : CircuitPermit) : CircuitBreaker :=
  if permit.generation ≠ b.generation then b
  else if permit.isHalfOpenProbe then
    if b.state ≠ .halfOpen then b
    else
      { state := .closed
        consecutiveFailures := 0
        openedAt := none
        generation := b.generation + 1 }
  else if b.state = .closed then { b with consecutiveFailures := 0 }
  else b

def recordFailure (c : BreakerConfig) (b : CircuitBreaker) (permit : CircuitPermit)
    (currentTime : ℚ) : CircuitBreaker :=
  if permit.generation ≠ b.generation then b
  else if permit.isHalfOpenProbe then
    if b.state = .halfOpen then b.openLocked c currentTime else b
  else if b.state ≠ .closed then b
  else
    let b' := { b with consecutiveFailures := b.consecutiveFailures + 1 }
    if c.failureThreshold ≤ b'.consecutiveFailures then b'.openLocked c currentTime else b'

/-- Acquiring moves the breaker from OPEN to HALF_OPEN or leaves it alone. -/
theorem acquirePermission_fst (c : BreakerConfig) (b : CircuitBreaker) (t : ℚ) :
    (b.acquirePermission c t).1 = b ∨
      (b.state = .opened ∧ (b.acquirePermission c t).1 = { b with state := .halfOpen }) := by
  unfold acquirePermission
  split
  · exact .inl rfl
  · exact .inl rfl
  · rename_i hs
    dsimp only
    split_ifs
    · exact .inl rfl
    · exact .inr ⟨hs, rfl⟩

/-- A report that carries a permit of another generation changes no field. -/
theorem recordSuccess_stale {b : CircuitBreaker} {p : CircuitPermit}
    (h : p.generation ≠ b.generation) : b.recordSuccess p = b := by
  simp [recordSuccess, h]

theorem recordFailure_stale {c : BreakerConfig} {b : CircuitBreaker} {p : CircuitPermit}
    (h : p.generation ≠ b.generation) (t : ℚ) : b.recordFailure c p t = b := by
  simp [recordFailure, h]

end CircuitBreaker

/-! ## What the breaker is for -/

/-- The three phases, each with the data it needs and no other. -/
inductive Phase (threshold : ℕ)
  | closed (failures : Fin threshold)
  | opened (since : ℚ)
  | halfOpen (since : ℚ)

namespace Phase

def toBreaker {threshold : ℕ} (generation : ℕ) : Phase threshold → CircuitBreaker
  | .closed n => ⟨.closed, n, none, generation⟩
  | .opened t => ⟨.opened, threshold, some t, generation⟩
  | .halfOpen t => ⟨.halfOpen, threshold, some t, generation⟩

variable {c : BreakerConfig} {g : ℕ}

@[simp] theorem generation_toBreaker {n : ℕ} (φ : Phase n) :
    (φ.toBreaker g).generation = g := by
  cases φ <;> rfl

theorem acquire_early {t₀ t : ℚ} (h : t - t₀ < c.recoverySeconds) :
    (toBreaker g (.opened t₀ : Phase c.failureThreshold)).acquirePermission c t =
      (toBreaker g (.opened t₀ : Phase c.failureThreshold),
        .error (.new (c.recoverySeconds - (t - t₀)))) := by
  have hpos : 0 < c.recoverySeconds - (t - t₀) := by linarith
  simp only [toBreaker, CircuitBreaker.acquirePermission]
  exact if_pos hpos

theorem acquire_late {t₀ t : ℚ} (h : c.recoverySeconds ≤ t - t₀) :
    (toBreaker g (.opened t₀ : Phase c.failureThreshold)).acquirePermission c t =
      (toBreaker g (.halfOpen t₀ : Phase c.failureThreshold), .ok ⟨g, true⟩) := by
  have hneg : ¬ 0 < c.recoverySeconds - (t - t₀) := by linarith
  simp only [toBreaker, CircuitBreaker.acquirePermission]
  exact if_neg hneg

theorem success_closed (n : Fin c.failureThreshold) :
    (toBreaker g (.closed n)).recordSuccess ⟨g, false⟩ =
      toBreaker g (.closed ⟨0, c.threshold_pos⟩ : Phase c.failureThreshold) := by
  simp [toBreaker, CircuitBreaker.recordSuccess]

theorem success_probe (t₀ : ℚ) :
    (toBreaker g (.halfOpen t₀ : Phase c.failureThreshold)).recordSuccess ⟨g, true⟩ =
      toBreaker (g + 1) (.closed ⟨0, c.threshold_pos⟩ : Phase c.failureThreshold) := by
  simp [toBreaker, CircuitBreaker.recordSuccess]

/-- A failure below the threshold is counted, the threshold-th one opens the circuit. -/
theorem failure_closed (n : Fin c.failureThreshold) (t : ℚ) :
    (toBreaker g (.closed n)).recordFailure c ⟨g, false⟩ t =
      if h : n + 1 < c.failureThreshold then
        toBreaker g (.closed ⟨n + 1, h⟩ : Phase c.failureThreshold)
      else toBreaker (g + 1) (.opened t : Phase c.failureThreshold) := by
  by_cases h : n + 1 < c.failureThreshold
  · have hle : ¬ c.failureThreshold ≤ n.val + 1 := by omega
    simp [toBreaker, CircuitBreaker.recordFailure, h, hle]
  · have hle : c.failureThreshold ≤ n.val + 1 := by omega
    simp [toBreaker, CircuitBreaker.recordFailure, CircuitBreaker.openLocked, h, hle]

theorem failure_probe (t₀ t : ℚ) :
    (toBreaker g (.halfOpen t₀ : Phase c.failureThreshold)).recordFailure c ⟨g, true⟩ t =
      toBreaker (g + 1) (.opened t : Phase c.failureThreshold) := by
  simp [toBreaker, CircuitBreaker.recordFailure, CircuitBreaker.openLocked]

end Phase

end OpsFlow.Gateway
