import OpsFlow.Library.Transition
import OpsFlow.Gateway.CircuitBreaker

namespace OpsFlow.Gateway
open Transition

/-- A call on the breaker, with the clock reading at which it holds the lock. -/
inductive BreakerEvent
  | acquire (t : ℚ)
  | success (permit : CircuitPermit) (t : ℚ)
  | failure (permit : CircuitPermit) (t : ℚ)

namespace BreakerEvent

def time : BreakerEvent → ℚ
  | .acquire t => t
  | .success _ t => t
  | .failure _ t => t

def reported : BreakerEvent → Option CircuitPermit
  | .acquire _ => none
  | .success p _ => some p
  | .failure p _ => some p

def apply (c : BreakerConfig) (b : CircuitBreaker) : BreakerEvent → CircuitBreaker
  | .acquire t => (b.acquirePermission c t).1
  | .success p _ => b.recordSuccess p
  | .failure p t => b.recordFailure c p t

def grant (c : BreakerConfig) (b : CircuitBreaker) : BreakerEvent → Option CircuitPermit
  | .acquire t => (b.acquirePermission c t).2.toOption
  | _ => none

end BreakerEvent

/-- Failures of generation `g` reported since the last success of generation `g`. -/
def failureStreak (g : ℕ) (es : List BreakerEvent) : ℕ :=
  es.foldl (fun n e => match e with
    | .acquire _ => n
    | .success p _ => if p.generation = g then 0 else n
    | .failure p _ => if p.generation = g then n + 1 else n) 0

@[simp] theorem failureStreak_nil (g : ℕ) : failureStreak g [] = 0 := rfl

@[simp] theorem failureStreak_acquire (g : ℕ) (es : List BreakerEvent) (t : ℚ) :
    failureStreak g (es ++ [.acquire t]) = failureStreak g es := by
  simp [failureStreak]

@[simp] theorem failureStreak_success (g : ℕ) (es : List BreakerEvent) (p : CircuitPermit) (t : ℚ) :
    failureStreak g (es ++ [.success p t]) =
      if p.generation = g then 0 else failureStreak g es := by
  simp [failureStreak]

@[simp] theorem failureStreak_failure (g : ℕ) (es : List BreakerEvent) (p : CircuitPermit) (t : ℚ) :
    failureStreak g (es ++ [.failure p t]) =
      if p.generation = g then failureStreak g es + 1 else failureStreak g es := by
  simp [failureStreak]

/-- The breaker with what an observer of all its calls has seen: the permits granted so far,
the last clock reading and the last moment at which the circuit opened. -/
structure Monitor where
  breaker : CircuitBreaker
  granted : List CircuitPermit
  clock : ℚ
  lastOpening : Option ℚ

namespace Monitor

def start (t : ℚ) : Monitor := ⟨.new, [], t, none⟩

def observe (c : BreakerConfig) (m : Monitor) (e : BreakerEvent) : Monitor :=
  let b' := e.apply c m.breaker
  { breaker := b'
    granted := (e.grant c m.breaker).toList ++ m.granted
    clock := e.time
    lastOpening :=
      if b'.state = .opened ∧ m.breaker.state ≠ .opened then some e.time else m.lastOpening }

/-- Calls come at non-decreasing readings of the clock and report granted permits only;
a permit may be reported late, repeatedly or never. -/
def Step (c : BreakerConfig) (m : Monitor) (e : BreakerEvent) (m' : Monitor) : Prop :=
  m.clock ≤ e.time ∧ (∀ p ∈ e.reported, p ∈ m.granted) ∧ m' = m.observe c e

/-- A granted probe whose report would still change the breaker. -/
def LiveProbe (c : BreakerConfig) (b : CircuitBreaker) (p : CircuitPermit) : Prop :=
  p.isHalfOpenProbe = true ∧ (b.recordSuccess p ≠ b ∨ ∃ t, b.recordFailure c p t ≠ b)

theorem liveProbe_iff {c : BreakerConfig} {b : CircuitBreaker} {p : CircuitPermit} :
    LiveProbe c b p ↔
      p.isHalfOpenProbe = true ∧ p.generation = b.generation ∧ b.state = .halfOpen := by
  constructor
  · rintro ⟨hp, h⟩
    by_cases hg : p.generation = b.generation
    · refine ⟨hp, hg, ?_⟩
      by_contra hs
      simp [CircuitBreaker.recordSuccess, CircuitBreaker.recordFailure, hg, hp, hs] at h
    · simp [CircuitBreaker.recordSuccess_stale hg, CircuitBreaker.recordFailure_stale hg] at h
  · rintro ⟨hp, hg, hs⟩
    refine ⟨hp, .inl fun h => ?_⟩
    have := congrArg CircuitBreaker.generation h
    simp [CircuitBreaker.recordSuccess, hg, hp, hs] at this

instance (c : BreakerConfig) (b : CircuitBreaker) (p : CircuitPermit) :
    Decidable (LiveProbe c b p) := decidable_of_iff _ liveProbe_iff.symm

/-- What each phase says about the permits, the reports and the openings seen so far. -/
def PhaseInv {n : ℕ} (es : List BreakerEvent) (m : Monitor) : Phase n → Prop
  | .closed k =>
    (∀ p ∈ m.granted, p.generation = m.breaker.generation → p.isHalfOpenProbe = false) ∧
      k = failureStreak m.breaker.generation es
  | .opened t =>
    (∀ p ∈ m.granted, p.generation ≠ m.breaker.generation) ∧
      m.lastOpening = some t ∧ t ≤ m.clock
  | .halfOpen t =>
    (∀ p ∈ m.granted, p.generation = m.breaker.generation → p.isHalfOpenProbe = true) ∧
      m.granted.countP (·.generation = m.breaker.generation) = 1 ∧
      m.lastOpening = some t ∧ t ≤ m.clock

structure Inv (c : BreakerConfig) (es : List BreakerEvent) (m : Monitor) : Prop where
  granted_le : ∀ p ∈ m.granted, p.generation ≤ m.breaker.generation
  unborn : ∀ g, m.breaker.generation < g → failureStreak g es = 0
  phase : ∃ φ : Phase c.failureThreshold,
    m.breaker = φ.toBreaker m.breaker.generation ∧ PhaseInv es m φ

theorem inv_start (c : BreakerConfig) (t : ℚ) : Inv c [] (start t) where
  granted_le := by simp [start]
  unborn := by simp
  phase := ⟨.closed ⟨0, c.threshold_pos⟩, rfl, by simp [start], rfl⟩

variable {c : BreakerConfig} {es : List BreakerEvent} {m : Monitor}

theorem inv_acquire (hi : Inv c es m) {t : ℚ} (ht : m.clock ≤ t) :
    Inv c (es ++ [.acquire t]) (m.observe c (.acquire t)) := by
  obtain ⟨b, granted, clock, lo⟩ := m
  obtain ⟨hle, hunborn, φ, hφ, hinv⟩ := hi
  dsimp only at hle hunborn hφ ht
  generalize hg : b.generation = g at *
  subst hφ
  cases φ with
  | closed n =>
    obtain ⟨hcur, hn⟩ := hinv
    simp only [Phase.generation_toBreaker] at hcur hn
    have hobs : observe c ⟨Phase.toBreaker g (.closed n), granted, clock, lo⟩ (.acquire t) =
        ⟨Phase.toBreaker g (.closed n), ⟨g, false⟩ :: granted, t, lo⟩ := rfl
    rw [hobs]
    refine ⟨?_, by simpa using hunborn, .closed n, by simp, ?_, by simpa using hn⟩
    · simpa using hle
    · simpa using hcur
  | halfOpen t₀ =>
    obtain ⟨hcur, hone, hlo, hclock⟩ := hinv
    simp only [Phase.generation_toBreaker] at hcur hone
    -- the probe is out: the call is rejected
    have hobs : observe c ⟨Phase.toBreaker g (.halfOpen t₀ : Phase c.failureThreshold),
        granted, clock, lo⟩ (.acquire t) =
        ⟨Phase.toBreaker g (.halfOpen t₀ : Phase c.failureThreshold), granted, t, lo⟩ := rfl
    rw [hobs]
    refine ⟨by simpa using hle, by simpa using hunborn, .halfOpen t₀, by simp, ?_, ?_, hlo,
      hclock.trans ht⟩
    · simpa using hcur
    · simpa using hone
  | opened t₀ =>
    obtain ⟨hcur, hlo, hclock⟩ := hinv
    simp only [Phase.generation_toBreaker] at hcur
    -- before the recovery time is over the call is rejected, after it the call is the probe
    rcases lt_or_ge (t - t₀) c.recoverySeconds with hearly | hlate
    · have hobs : observe c ⟨Phase.toBreaker g (.opened t₀ : Phase c.failureThreshold),
          granted, clock, lo⟩ (.acquire t) =
          ⟨Phase.toBreaker g (.opened t₀ : Phase c.failureThreshold), granted, t, lo⟩ := by
        simp only [observe, BreakerEvent.apply, BreakerEvent.grant, BreakerEvent.time,
          Phase.acquire_early hearly]
        simp [Phase.toBreaker, Except.toOption]
      rw [hobs]
      exact ⟨by simpa using hle, by simpa using hunborn, .opened t₀, by simp,
        by simpa using hcur, hlo, hclock.trans ht⟩
    · have hobs : observe c ⟨Phase.toBreaker g (.opened t₀ : Phase c.failureThreshold),
          granted, clock, lo⟩ (.acquire t) =
          ⟨Phase.toBreaker g (.halfOpen t₀ : Phase c.failureThreshold),
            ⟨g, true⟩ :: granted, t, lo⟩ := by
        simp only [observe, BreakerEvent.apply, BreakerEvent.grant, BreakerEvent.time,
          Phase.acquire_late hlate]
        simp [Phase.toBreaker, Except.toOption]
      rw [hobs]
      refine ⟨by simpa using hle, by simpa using hunborn, .halfOpen t₀, by simp, ?_, ?_, hlo,
        hclock.trans ht⟩
      · intro p hp hpg
        rcases List.mem_cons.mp hp with rfl | hp
        · rfl
        · exact absurd (by simpa using hpg) (hcur p hp)
      · -- the new probe is the only permit of this generation
        have hzero : granted.countP (·.generation = g) = 0 := by
          rw [List.countP_eq_zero]
          intro p hp
          simpa using hcur p hp
        simp [hzero]

/-- A report that leaves the breaker alone and counts for no generation from the current one on. -/
theorem inv_ignored (hi : Inv c es m) {e : BreakerEvent} (ht : m.clock ≤ e.time)
    (happly : e.apply c m.breaker = m.breaker) (hgrant : e.grant c m.breaker = none)
    (hstreak : ∀ g, m.breaker.generation ≤ g → failureStreak g (es ++ [e]) = failureStreak g es) :
    Inv c (es ++ [e]) (m.observe c e) := by
  obtain ⟨hle, hunborn, φ, hφ, hinv⟩ := hi
  have hobs : m.observe c e = { m with clock := e.time } := by
    simp [observe, happly, hgrant]
  rw [hobs]
  refine ⟨hle, ?_, φ, hφ, ?_⟩
  · intro g hg
    rw [hstreak g hg.le, hunborn g hg]
  · cases φ with
    | closed n =>
      obtain ⟨hcur, hn⟩ := hinv
      exact ⟨hcur, hn.trans (hstreak _ le_rfl).symm⟩
    | opened t₀ =>
      obtain ⟨hcur, hlo, hclock⟩ := hinv
      exact ⟨hcur, hlo, hclock.trans ht⟩
    | halfOpen t₀ =>
      obtain ⟨hcur, hone, hlo, hclock⟩ := hinv
      exact ⟨hcur, hone, hlo, hclock.trans ht⟩

/-- A permit of an earlier generation is of no later one. -/
theorem Inv.generation_ne (hi : Inv c es m) {p : CircuitPermit} (hp : p ∈ m.granted)
    (hg : p.generation ≠ m.breaker.generation) {g : ℕ} (hle : m.breaker.generation ≤ g) :
    p.generation ≠ g := by
  rintro rfl
  exact hg (le_antisymm (hi.granted_le p hp) hle)

theorem inv_success (hi : Inv c es m) {p : CircuitPermit} {t : ℚ} (ht : m.clock ≤ t)
    (hp : p ∈ m.granted) : Inv c (es ++ [.success p t]) (m.observe c (.success p t)) := by
  by_cases hg : p.generation = m.breaker.generation
  swap
  · refine inv_ignored hi ht (CircuitBreaker.recordSuccess_stale hg) rfl ?_
    intro g hle
    simp [hi.generation_ne hp hg hle]
  obtain ⟨b, granted, clock, lo⟩ := m
  obtain ⟨gen, probe⟩ := p
  obtain ⟨hle, hunborn, φ, hφ, hinv⟩ := hi
  dsimp only at hle hunborn hφ ht hp hg
  subst hg
  generalize hb : b.generation = g at *
  subst hφ
  cases φ with
  | closed n =>
    obtain ⟨hcur, -⟩ := hinv
    obtain rfl : probe = false := hcur _ hp (by simp)
    have hobs : observe c ⟨Phase.toBreaker g (.closed n), granted, clock, lo⟩
        (.success ⟨g, false⟩ t) =
        ⟨Phase.toBreaker g (.closed ⟨0, c.threshold_pos⟩ : Phase c.failureThreshold),
          granted, t, lo⟩ := by
      simp only [observe, BreakerEvent.apply, Phase.success_closed]
      simp [Phase.toBreaker, BreakerEvent.grant, BreakerEvent.time]
    rw [hobs]
    refine ⟨by simpa using hle, ?_, .closed ⟨0, c.threshold_pos⟩, by simp, ?_, by simp⟩
    · intro g' hg'
      simp only [Phase.generation_toBreaker] at hg'
      simpa [hg'.ne] using hunborn g' hg'
    · simpa using hcur
  | opened t₀ =>
    -- no permit of an open generation has been granted yet
    exact absurd (by simp) (hinv.1 _ hp)
  | halfOpen t₀ =>
    obtain ⟨hcur, -⟩ := hinv
    obtain rfl : probe = true := hcur _ hp (by simp)
    have hobs : observe c ⟨Phase.toBreaker g (.halfOpen t₀ : Phase c.failureThreshold),
        granted, clock, lo⟩ (.success ⟨g, true⟩ t) =
        ⟨Phase.toBreaker (g + 1) (.closed ⟨0, c.threshold_pos⟩ : Phase c.failureThreshold),
          granted, t, lo⟩ := by
      simp only [observe, BreakerEvent.apply, Phase.success_probe]
      simp [Phase.toBreaker, BreakerEvent.grant, BreakerEvent.time]
    rw [hobs]
    refine ⟨?_, ?_, .closed ⟨0, c.threshold_pos⟩, by simp, ?_, ?_⟩
    · intro q hq
      simpa using (hle q hq).trans (Nat.le_succ g)
    · intro g' hg'
      simp only [Phase.generation_toBreaker] at hg'
      have hne : g ≠ g' := by omega
      simpa [hne] using hunborn g' (by omega)
    · intro q hq hqg
      have := hle q hq
      simp only [Phase.generation_toBreaker] at hqg
      omega
    · simpa using (hunborn (g + 1) (by omega)).symm

theorem inv_opened {g : ℕ} {granted : List CircuitPermit} {t : ℚ} {p : CircuitPermit}
    (hle : ∀ q ∈ granted, q.generation ≤ g) (hunborn : ∀ g', g < g' → failureStreak g' es = 0)
    (hp : p.generation = g) :
    Inv c (es ++ [.failure p t])
      ⟨Phase.toBreaker (g + 1) (.opened t : Phase c.failureThreshold), granted, t, some t⟩ := by
  refine ⟨?_, ?_, .opened t, by simp, ?_, rfl, le_rfl⟩
  · intro q hq
    simpa using (hle q hq).trans (Nat.le_succ g)
  · intro g' hg'
    simp only [Phase.generation_toBreaker] at hg'
    have hne : g ≠ g' := by omega
    simpa [hp, hne] using hunborn g' (by omega)
  · intro q hq hqg
    have := hle q hq
    simp only [Phase.generation_toBreaker] at hqg
    omega

theorem inv_failure (hi : Inv c es m) {p : CircuitPermit} {t : ℚ} (ht : m.clock ≤ t)
    (hp : p ∈ m.granted) : Inv c (es ++ [.failure p t]) (m.observe c (.failure p t)) := by
  by_cases hg : p.generation = m.breaker.generation
  swap
  · refine inv_ignored hi ht (CircuitBreaker.recordFailure_stale hg t) rfl ?_
    intro g hle
    simp [hi.generation_ne hp hg hle]
  obtain ⟨b, granted, clock, lo⟩ := m
  obtain ⟨gen, probe⟩ := p
  obtain ⟨hle, hunborn, φ, hφ, hinv⟩ := hi
  dsimp only at hle hunborn hφ ht hp hg
  subst hg
  generalize hb : b.generation = g at *
  subst hφ
  cases φ with
  | closed n =>
    obtain ⟨hcur, hn⟩ := hinv
    obtain rfl : probe = false := hcur _ hp (by simp)
    simp only [Phase.generation_toBreaker] at hn
    -- one failure more keeps the breaker closed or is the one that opens it
    by_cases hlt : n + 1 < c.failureThreshold
    · have hobs : observe c ⟨Phase.toBreaker g (.closed n), granted, clock, lo⟩
          (.failure ⟨g, false⟩ t) =
          ⟨Phase.toBreaker g (.closed ⟨n + 1, hlt⟩ : Phase c.failureThreshold),
            granted, t, lo⟩ := by
        simp only [observe, BreakerEvent.apply, Phase.failure_closed, dif_pos hlt]
        simp [Phase.toBreaker, BreakerEvent.grant, BreakerEvent.time]
      rw [hobs]
      refine ⟨by simpa using hle, ?_, .closed ⟨n + 1, hlt⟩, by simp, ?_, by simp [hn]⟩
      · intro g' hg'
        simp only [Phase.generation_toBreaker] at hg'
        simpa [hg'.ne] using hunborn g' hg'
      · simpa using hcur
    · have hobs : observe c ⟨Phase.toBreaker g (.closed n), granted, clock, lo⟩
          (.failure ⟨g, false⟩ t) =
          ⟨Phase.toBreaker (g + 1) (.opened t : Phase c.failureThreshold),
            granted, t, some t⟩ := by
        simp only [observe, BreakerEvent.apply, Phase.failure_closed, dif_neg hlt]
        simp [Phase.toBreaker, BreakerEvent.grant, BreakerEvent.time]
      rw [hobs]
      exact inv_opened hle hunborn rfl
  | opened t₀ => exact absurd (by simp) (hinv.1 _ hp)
  | halfOpen t₀ =>
    obtain ⟨hcur, -⟩ := hinv
    obtain rfl : probe = true := hcur _ hp (by simp)
    have hobs : observe c ⟨Phase.toBreaker g (.halfOpen t₀ : Phase c.failureThreshold),
        granted, clock, lo⟩ (.failure ⟨g, true⟩ t) =
        ⟨Phase.toBreaker (g + 1) (.opened t : Phase c.failureThreshold),
          granted, t, some t⟩ := by
      simp only [observe, BreakerEvent.apply, Phase.failure_probe]
      simp [Phase.toBreaker, BreakerEvent.grant, BreakerEvent.time]
    rw [hobs]
    exact inv_opened hle hunborn rfl

theorem inv_step (as : List BreakerEvent) (m : Monitor) (e : BreakerEvent) (m' : Monitor)
    (hi : Inv c as m) (h : Step c m e m') : Inv c (as ++ [e]) m' := by
  obtain ⟨ht, hp, rfl⟩ := h
  cases e with
  | acquire t => exact inv_acquire hi ht
  | success p t => exact inv_success hi ht (hp p rfl)
  | failure p t => exact inv_failure hi ht (hp p rfl)

theorem inv_run {t : ℚ} (h : Run (Step c) (start t) es m) : Inv c es m :=
  h.invariant_trace inv_step (inv_start c t)

/-! ## The law of the state machine -/

theorem Inv.closed (hi : Inv c es m) (hs : m.breaker.state = .closed) :
    m.breaker.consecutiveFailures < c.failureThreshold ∧ m.breaker.openedAt = none ∧
      m.breaker.consecutiveFailures = failureStreak m.breaker.generation es := by
  obtain ⟨φ, hφ, hinv⟩ := hi.phase
  cases φ with
  | closed n =>
    have hn : m.breaker.consecutiveFailures = n := by rw [hφ]; rfl
    exact ⟨hn ▸ n.isLt, by rw [hφ]; rfl, hn.trans hinv.2⟩
  | opened t => rw [hφ] at hs; cases hs
  | halfOpen t => rw [hφ] at hs; cases hs

theorem Inv.not_closed (hi : Inv c es m) (hs : m.breaker.state ≠ .closed) :
    ∃ t, m.breaker.openedAt = some t ∧ m.lastOpening = some t ∧
      m.breaker.consecutiveFailures = c.failureThreshold := by
  obtain ⟨φ, hφ, hinv⟩ := hi.phase
  cases φ with
  | closed n => exact absurd (by rw [hφ]; rfl) hs
  | opened t => exact ⟨t, by rw [hφ]; rfl, hinv.2.1, by rw [hφ]; rfl⟩
  | halfOpen t => exact ⟨t, by rw [hφ]; rfl, hinv.2.2.1, by rw [hφ]; rfl⟩

theorem Inv.liveProbes_le_one (hi : Inv c es m) :
    m.granted.countP (fun p => LiveProbe c m.breaker p) ≤ 1 := by
  obtain ⟨φ, hφ, hinv⟩ := hi.phase
  by_cases hs : m.breaker.state = .halfOpen
  · cases φ with
    | closed n => rw [hφ] at hs; cases hs
    | opened t => rw [hφ] at hs; cases hs
    | halfOpen t =>
      refine le_of_le_of_eq (List.countP_mono_left fun p _ hp => ?_) hinv.2.1
      simpa using (liveProbe_iff.mp (by simpa using hp)).2.1
  · have : m.granted.countP (fun p => LiveProbe c m.breaker p) = 0 := by
      rw [List.countP_eq_zero]
      intro p _ hp
      exact hs (liveProbe_iff.mp (by simpa using hp)).2.2
    omega

theorem generation_le_apply (c : BreakerConfig) (b : CircuitBreaker) (e : BreakerEvent) :
    b.generation ≤ (e.apply c b).generation := by
  cases e with
  | acquire t =>
    rcases b.acquirePermission_fst c t with h | ⟨-, h⟩ <;> simp [BreakerEvent.apply, h]
  | success p t =>
    simp only [BreakerEvent.apply, CircuitBreaker.recordSuccess]
    split_ifs <;> simp
  | failure p t =>
    simp only [BreakerEvent.apply, CircuitBreaker.recordFailure, CircuitBreaker.openLocked]
    split_ifs <;> simp

/-- Only the two transitions into OPEN and the one into CLOSED start a generation. -/
theorem generation_lt_apply {b : CircuitBreaker} {e : BreakerEvent}
    (h : ((e.apply c b).state = .opened ∧ b.state ≠ .opened) ∨
      ((e.apply c b).state = .closed ∧ b.state ≠ .closed)) :
    b.generation < (e.apply c b).generation := by
  cases e with
  | acquire t =>
    rcases b.acquirePermission_fst c t with h' | ⟨-, h'⟩ <;>
      simp [BreakerEvent.apply, h'] at h
  | success p t =>
    revert h
    simp only [BreakerEvent.apply, CircuitBreaker.recordSuccess]
    split_ifs <;> simp
  | failure p t =>
    revert h
    simp only [BreakerEvent.apply, CircuitBreaker.recordFailure, CircuitBreaker.openLocked]
    split_ifs <;> simp

/-- From CLOSED the circuit opens with the threshold-th failure of an unbroken streak only. -/
theorem Inv.opens_iff (hi : Inv c es m) (hs : m.breaker.state = .closed) {e : BreakerEvent}
    (he : ∀ p ∈ e.reported, p ∈ m.granted) :
    (e.apply c m.breaker).state = .opened ↔
      ∃ p t, e = .failure p t ∧ p.generation = m.breaker.generation ∧
        failureStreak m.breaker.generation (es ++ [e]) = c.failureThreshold := by
  obtain ⟨hlt, -, hstreak⟩ := hi.closed hs
  cases e with
  | acquire t => simp [BreakerEvent.apply, CircuitBreaker.acquirePermission, hs]
  | success p t =>
    simp only [BreakerEvent.apply, CircuitBreaker.recordSuccess]
    split_ifs <;> simp [hs]
  | failure p t =>
    by_cases hg : p.generation = m.breaker.generation
    · have hp : p.isHalfOpenProbe = false := by
        obtain ⟨φ, hφ, hinv⟩ := hi.phase
        cases φ with
        | closed n => exact hinv.1 p (he p rfl) hg
        | opened t => rw [hφ] at hs; cases hs
        | halfOpen t => rw [hφ] at hs; cases hs
      simp only [BreakerEvent.apply, CircuitBreaker.recordFailure, hg, hp, hs, hstreak,
        CircuitBreaker.openLocked, ne_eq, not_true_eq_false, if_false, Bool.false_eq_true]
      rw [hstreak] at hlt
      split_ifs with hle
      · simpa [hg] using le_antisymm hlt hle
      · simp [hg]
        omega
    · simp [BreakerEvent.apply, CircuitBreaker.recordFailure_stale hg, hs, hg]

structure Law (c : BreakerConfig) (es : List BreakerEvent) (m : Monitor) : Prop where
  closed : m.breaker.state = .closed →
    m.breaker.consecutiveFailures < c.failureThreshold ∧ m.breaker.openedAt = none
  not_closed : m.breaker.state = .opened ∨ m.breaker.state = .halfOpen →
    (∃ t, m.breaker.openedAt = some t) ∧ m.breaker.consecutiveFailures = c.failureThreshold
  generation_le : ∀ e m', Step c m e m' → m.breaker.generation ≤ m'.breaker.generation
  generation_lt : ∀ e m', Step c m e m' →
    (m'.breaker.state = .opened ∧ m.breaker.state ≠ .opened) ∨
      (m'.breaker.state = .closed ∧ m.breaker.state ≠ .closed) →
    m.breaker.generation < m'.breaker.generation
  one_probe : m.granted.countP (fun p => LiveProbe c m.breaker p) ≤ 1
  stale : ∀ p ∈ m.granted, p.generation < m.breaker.generation →
    m.breaker.recordSuccess p = m.breaker ∧ ∀ t, m.breaker.recordFailure c p t = m.breaker
  opens : m.breaker.state = .closed → ∀ e m', Step c m e m' →
    (m'.breaker.state = .opened ↔ ∃ p t, e = .failure p t ∧
      p.generation = m.breaker.generation ∧
      failureStreak m.breaker.generation (es ++ [e]) = c.failureThreshold)
  recovers : m.breaker.state = .opened → ∃ t₀, m.lastOpening = some t₀ ∧
    (∀ t, t < t₀ + c.recoverySeconds →
      ∃ e, m.breaker.acquirePermission c t = (m.breaker, .error e)) ∧
    (∀ t, t₀ + c.recoverySeconds ≤ t → m.breaker.acquirePermission c t =
      ({ m.breaker with state := .halfOpen }, .ok ⟨m.breaker.generation, true⟩))
  rejects : m.breaker.state = .halfOpen →
    ∀ t, ∃ e, m.breaker.acquirePermission c t = (m.breaker, .error e)

theorem Inv.recovers (hi : Inv c es m) (hs : m.breaker.state = .opened) :
    ∃ t₀, m.lastOpening = some t₀ ∧
      (∀ t, t < t₀ + c.recoverySeconds →
        ∃ e, m.breaker.acquirePermission c t = (m.breaker, .error e)) ∧
      (∀ t, t₀ + c.recoverySeconds ≤ t → m.breaker.acquirePermission c t =
        ({ m.breaker with state := .halfOpen }, .ok ⟨m.breaker.generation, true⟩)) := by
  obtain ⟨t₀, hopen, hlast, -⟩ := hi.not_closed (by simp [hs])
  refine ⟨t₀, hlast, ?_, ?_⟩
  · intro t ht
    have hpos : 0 < c.recoverySeconds - (t - t₀) := by linarith
    exact ⟨_, by simp only [CircuitBreaker.acquirePermission, hs, hopen]; exact if_pos hpos⟩
  · intro t ht
    have hneg : ¬ 0 < c.recoverySeconds - (t - t₀) := by linarith
    simp only [CircuitBreaker.acquirePermission, hs, hopen]
    exact if_neg hneg

/-- Every state that any interleaving of calls reaches obeys the law. -/
theorem circuit_breaker_law (c : BreakerConfig) (t : ℚ) (es : List BreakerEvent) (m : Monitor)
    (h : Run (Step c) (start t) es m) : Law c es m := by
  have hi := inv_run h
  refine ⟨fun hs => ⟨(hi.closed hs).1, (hi.closed hs).2.1⟩, ?_, ?_, ?_, hi.liveProbes_le_one,
    ?_, ?_, hi.recovers, ?_⟩
  · intro hs
    obtain ⟨t₀, ho, -, hn⟩ := hi.not_closed (by rcases hs with hs | hs <;> simp [hs])
    exact ⟨⟨t₀, ho⟩, hn⟩
  · rintro e m' ⟨-, -, rfl⟩
    exact generation_le_apply c m.breaker e
  · rintro e m' ⟨-, -, rfl⟩ hs
    exact generation_lt_apply hs
  · intro p _ hlt
    exact ⟨CircuitBreaker.recordSuccess_stale hlt.ne, CircuitBreaker.recordFailure_stale hlt.ne⟩
  · rintro hs e m' ⟨-, he, rfl⟩
    exact hi.opens_iff hs he
  · intro hs t
    exact ⟨.new 1, by simp [CircuitBreaker.acquirePermission, hs]⟩

end Monitor

def oneFailure : BreakerConfig := ⟨1, 5, le_rfl, by norm_num⟩

open Monitor in
/-- One call that fails at a threshold of one. -/
theorem Monitor.circuit_breaker_law_opened :
    Law oneFailure [.acquire 0, .failure ⟨0, false⟩ 1]
      (((start 0).observe oneFailure (.acquire 0)).observe oneFailure (.failure ⟨0, false⟩ 1)) :=
  circuit_breaker_law _ 0 _ _
    (.cons ⟨le_rfl, by simp [BreakerEvent.reported], rfl⟩
      (.single ⟨by simp [observe, BreakerEvent.time], by
        simp [BreakerEvent.reported, observe, start, BreakerEvent.grant,
          CircuitBreaker.acquirePermission, CircuitBreaker.new, Except.toOption], rfl⟩))

end OpsFlow.Gateway
