import OpsFlow.Gateway.Request
import Mathlib.Tactic.Ring

namespace OpsFlow.Gateway

/-! ## What the attempts of a call come to -/

inductive Outcome
  | status (statusCode : ℕ)
  | timeout
  | transportError
  | tokenFailure
  deriving DecidableEq

def Attempt.EndsIn (attempt : Attempt) : Outcome → Prop
  | .status statusCode => (∃ token, createServiceAuthorization attempt.token = .issued token) ∧
      attempt.transport = .response statusCode
  | .timeout => (∃ token, createServiceAuthorization attempt.token = .issued token) ∧
      attempt.transport = .timeout
  | .transportError => (∃ token, createServiceAuthorization attempt.token = .issued token) ∧
      attempt.transport = .requestError
  | .tokenFailure => createServiceAuthorization attempt.token = .serviceIdentityError

/-- Attempt by attempt the surroundings give the outcomes, and raise nothing of their own. -/
structure Surroundings.Plays (env : Surroundings) (outcomes : ℕ → Outcome) : Prop where
  headers : env.headers = none
  sleeper : ∀ k, env.sleeper k = none
  attempt : ∀ k, (env.attempt k).EndsIn (outcomes k)

def Outcome.Retried : Outcome → Prop
  | .status statusCode => statusCode ∈ retryableResponseStatuses
  | .timeout | .transportError => True
  | .tokenFailure => False

def Outcome.exit : Outcome → Exit
  | .status statusCode => .returned statusCode
  | .timeout => .unavailable "Incident Service request timed out."
  | .transportError => .unavailable "Incident Service is unavailable."
  | .tokenFailure => .unavailable "Incident Service authentication is unavailable."

def Effect.sent : Effect → Option ℕ
  | .send attemptNumber => some attemptNumber
  | _ => none

def Effect.seconds : Effect → Option ℚ
  | .sleep seconds => some seconds
  | _ => none

def CallResult.sends (r : CallResult) : List ℕ := r.effects.filterMap Effect.sent

def slept (effects : List Effect) : ℚ := (effects.filterMap Effect.seconds).sum

def CallResult.sleptBefore (r : CallResult) (attemptNumber : ℕ) : ℚ :=
  slept (r.effects.takeWhile fun e => decide (e ≠ .send attemptNumber))

/-- `_acquire_circuit_permission`; a gateway may have no breaker. -/
def acquireCircuitPermission (breaker : Option (BreakerConfig × CircuitBreaker)) (now : ℚ) :
    Except CircuitOpenError (Option CircuitPermit) :=
  match breaker with
  | none => .ok none
  | some (c, b) => (b.acquirePermission c now).2.map some

/-- The account of a call whose attempts are those from `first` to `last`. -/
structure Accounted (cfg : GatewayConfig) (outcomes : ℕ → Outcome) (first last : ℕ)
    (r : CallResult) : Prop where
  retried : ∀ k, first ≤ k → k < last → (outcomes k).Retried
  exit : r.exit = (outcomes last).exit
  sends : r.sends = (List.range' first (last + 1 - first)).filter fun k =>
    outcomes k ≠ .tokenFailure
  slept : slept r.effects = cfg.readBackoffSeconds * (2 ^ (last - 1) - 2 ^ (first - 1))
  sleptBefore : ∀ k, first ≤ k → k ≤ last →
    r.sleptBefore k = cfg.readBackoffSeconds * (2 ^ (k - 1) - 2 ^ (first - 1))

variable {cfg : GatewayConfig} {env : Surroundings} {outcomes : ℕ → Outcome}
  {permit : Option CircuitPermit} {first last k : ℕ} {r : CallResult}

theorem slept_append (es es' : List Effect) : slept (es ++ es') = slept es + slept es' := by
  unfold slept
  rw [List.filterMap_append, List.sum_append]

/-- The sleep after an attempt takes the backoff of that attempt, also where it is left out. -/
theorem slept_sleepBeforeRetry (hpos : 0 ≤ cfg.readBackoffSeconds) (k : ℕ) :
    slept (sleepBeforeRetry cfg env k).1 = cfg.readBackoffSeconds * 2 ^ (k - 1) := by
  have hdelay : 0 ≤ cfg.readBackoffSeconds * 2 ^ (k - 1) := by positivity
  unfold sleepBeforeRetry
  dsimp only
  split_ifs with hzero
  · exact le_antisymm hdelay hzero
  · exact add_zero _

theorem retryWith_eq (h : ∀ k, env.sleeper k = none) (reason : String) (next : CallResult) :
    retryWith cfg env k reason next =
      next.after (.dependencyRetry reason :: (sleepBeforeRetry cfg env k).1) := by
  have hslept : (sleepBeforeRetry cfg env k).2 = none := by
    unfold sleepBeforeRetry
    dsimp only
    split_ifs
    · rfl
    · exact h k
  unfold retryWith
  dsimp only
  rw [hslept]

/-! ## One attempt -/

def retriedEffects (cfg : GatewayConfig) (env : Surroundings) (k : ℕ) (outcome reason : String) :
    List Effect :=
  .send k :: .dependencyAttempt outcome :: .dependencyRetry reason :: (sleepBeforeRetry cfg env k).1

theorem sent_retriedEffects (outcome reason : String) :
    (retriedEffects cfg env k outcome reason).filterMap Effect.sent = [k] := by
  unfold retriedEffects sleepBeforeRetry
  dsimp only
  split_ifs
  · rfl
  · rfl

theorem slept_retriedEffects (hpos : 0 ≤ cfg.readBackoffSeconds) (outcome reason : String) :
    slept (retriedEffects cfg env k outcome reason) = cfg.readBackoffSeconds * 2 ^ (k - 1) :=
  slept_sleepBeforeRetry hpos k

/-- Nothing of an earlier attempt is the request of a later one. -/
theorem retriedEffects_ne_send {j : ℕ} (hj : j ≠ k) (outcome reason : String) :
    ∀ e ∈ retriedEffects cfg env k outcome reason, e ≠ .send j := by
  rintro _ he rfl
  have hsent : j ∈ (retriedEffects cfg env k outcome reason).filterMap Effect.sent :=
    List.mem_filterMap.mpr ⟨_, he, rfl⟩
  rw [sent_retriedEffects] at hsent
  exact hj (List.mem_singleton.mp hsent)

/-- A retryable attempt that is not the last one allowed makes way for the next. -/
theorem requestLoop_retried (cfg : GatewayConfig) (permit : Option CircuitPermit)
    (hplays : env.Plays outcomes) {maximum remaining : ℕ}
    (hretried : (outcomes (maximum - remaining)).Retried) (hmore : maximum - remaining < maximum) :
    ∃ outcome reason, requestLoop cfg env permit maximum (remaining + 1) =
      (requestLoop cfg env permit maximum remaining).after
        (retriedEffects cfg env (maximum - remaining) outcome reason) := by
  have hattempt := hplays.attempt (maximum - remaining)
  rw [requestLoop]
  cases houtcome : outcomes (maximum - remaining) with
  | status statusCode =>
    rw [houtcome] at hattempt hretried
    obtain ⟨⟨token, htoken⟩, htransport⟩ := hattempt
    simp only [htoken, htransport, retryWith_eq hplays.sleeper]
    rw [if_pos ⟨hretried, hmore⟩]
    exact ⟨_, _, rfl⟩
  | timeout | transportError =>
    rw [houtcome] at hattempt
    obtain ⟨⟨token, htoken⟩, htransport⟩ := hattempt
    simp only [htoken, htransport, retryWith_eq hplays.sleeper]
    rw [if_neg (not_le.mpr hmore)]
    exact ⟨_, _, rfl⟩
  | tokenFailure =>
    rw [houtcome] at hretried
    exact hretried.elim

/-- A report to the breaker is no request and takes no time. -/
theorem reports_quiet (permit : Option CircuitPermit) (failed : Prop) [Decidable failed] :
    let es := if failed then recordCircuitFailure permit else recordCircuitSuccess permit
    es.filterMap Effect.sent = [] ∧ es.filterMap Effect.seconds = [] := by
  dsimp only
  split_ifs
  · cases permit <;> exact ⟨rfl, rfl⟩
  · cases permit <;> exact ⟨rfl, rfl⟩

/-- Any other attempt is the last one. -/
theorem requestLoop_last (cfg : GatewayConfig) (permit : Option CircuitPermit)
    (hplays : env.Plays outcomes) {maximum remaining : ℕ}
    (hlast : (outcomes (maximum - remaining)).Retried → maximum ≤ maximum - remaining) :
    ∃ effects label, requestLoop cfg env permit maximum (remaining + 1) =
        ⟨effects, (outcomes (maximum - remaining)).exit, label⟩ ∧
      effects.filterMap Effect.sent =
        [maximum - remaining].filter (fun k => outcomes k ≠ .tokenFailure) ∧
      effects.filterMap Effect.seconds = [] := by
  have hattempt := hplays.attempt (maximum - remaining)
  obtain ⟨hsent, hseconds⟩ := reports_quiet permit True
  rw [if_pos trivial] at hsent hseconds
  rw [requestLoop]
  cases houtcome : outcomes (maximum - remaining) with
  | status statusCode =>
    rw [houtcome] at hattempt hlast
    obtain ⟨⟨token, htoken⟩, htransport⟩ := hattempt
    obtain ⟨hsent, hseconds⟩ := reports_quiet permit (500 ≤ statusCode)
    have hfinal : ¬ (statusCode ∈ retryableResponseStatuses ∧ maximum - remaining < maximum) :=
      fun h => absurd h.2 (not_lt.mpr (hlast h.1))
    simp only [htoken, htransport, if_neg hfinal]
    refine ⟨_, _, rfl, ?_, ?_⟩
    · exact (congrArg (List.cons (maximum - remaining)) hsent).trans (by simp [houtcome])
    · exact hseconds
  | timeout | transportError =>
    rw [houtcome] at hattempt hlast
    obtain ⟨⟨token, htoken⟩, htransport⟩ := hattempt
    simp only [htoken, htransport, if_pos (hlast trivial)]
    refine ⟨_, _, rfl, ?_, ?_⟩
    · exact (congrArg (List.cons (maximum - remaining)) hsent).trans (by simp [houtcome])
    · exact hseconds
  | tokenFailure =>
    rw [houtcome] at hattempt
    simp only [Attempt.EndsIn] at hattempt
    simp only [hattempt]
    refine ⟨_, _, rfl, ?_, ?_⟩
    · simpa [houtcome] using hsent
    · exact hseconds

/-! ## The account of a call -/

theorem accounted_last {effects : List Effect} {label : String}
    (hsent : effects.filterMap Effect.sent =
      [last].filter (fun k => outcomes k ≠ .tokenFailure))
    (hseconds : effects.filterMap Effect.seconds = []) :
    Accounted cfg outcomes last last ⟨effects, (outcomes last).exit, label⟩ where
  retried k hfirst hlast := absurd hlast (not_lt.mpr hfirst)
  exit := rfl
  sends := by
    rw [Nat.add_sub_cancel_left]
    exact hsent
  slept := by
    rw [sub_self, mul_zero, slept, hseconds, List.sum_nil]
  sleptBefore k hfirst hlast := by
    obtain rfl := le_antisymm hlast hfirst
    have hprefix := (List.takeWhile_sublist (l := effects) fun e =>
      decide (e ≠ .send k)).filterMap Effect.seconds
    rw [hseconds] at hprefix
    rw [sub_self, mul_zero, CallResult.sleptBefore, slept, List.sublist_nil.mp hprefix,
      List.sum_nil]

/-- An attempt that is tried again is put before the account of those that follow. -/
theorem Accounted.cons (hpos : 0 ≤ cfg.readBackoffSeconds) (hfirst : 1 ≤ first)
    {outcome reason : String} (hretried : (outcomes first).Retried) (hlast : first < last)
    (h : Accounted cfg outcomes (first + 1) last r) :
    Accounted cfg outcomes first last (r.after (retriedEffects cfg env first outcome reason)) where
  retried k hk hk' := by
    obtain rfl | hk := hk.eq_or_lt
    · exact hretried
    · exact h.retried k hk hk'
  exit := h.exit
  sends := by
    have hmore : last + 1 - first = last + 1 - (first + 1) + 1 := by omega
    have hissued : outcomes first ≠ .tokenFailure := by
      rintro htoken
      rw [htoken] at hretried
      exact hretried
    rw [hmore, List.range'_succ, List.filter_cons_of_pos (by simpa using hissued), ← h.sends]
    unfold CallResult.sends CallResult.after
    rw [List.filterMap_append, sent_retriedEffects]
    rfl
  slept := by
    have hdouble : (2 : ℚ) ^ (first + 1 - 1) = 2 * 2 ^ (first - 1) := by
      rw [← pow_succ', Nat.sub_add_cancel hfirst, Nat.add_sub_cancel]
    unfold CallResult.after
    rw [slept_append, slept_retriedEffects hpos, h.slept, hdouble]
    ring
  sleptBefore k hk hk' := by
    have hdouble : (2 : ℚ) ^ (first + 1 - 1) = 2 * 2 ^ (first - 1) := by
      rw [← pow_succ', Nat.sub_add_cancel hfirst, Nat.add_sub_cancel]
    obtain rfl | hlt := hk.eq_or_lt
    · -- the request is the first thing of all
      rw [sub_self, mul_zero]
      unfold CallResult.sleptBefore CallResult.after retriedEffects
      rw [List.cons_append, List.takeWhile_cons_of_neg (by simp)]
      rfl
    · have hbefore := h.sleptBefore k hlt hk'
      have hpass : ∀ e ∈ retriedEffects cfg env first outcome reason, decide (e ≠ .send k) = true :=
        fun e he => decide_eq_true (retriedEffects_ne_send hlt.ne' outcome reason e he)
      unfold CallResult.sleptBefore CallResult.after at *
      rw [List.takeWhile_append_of_pos hpass, slept_append, slept_retriedEffects hpos, hbefore,
        hdouble]
      ring

/-- From attempt `first` on, the call has an account that ends at the first attempt which is not
retryable or the last one allowed. -/
theorem requestLoop_accounted (cfg : GatewayConfig) (permit : Option CircuitPermit)
    (hplays : env.Plays outcomes) {maximum remaining : ℕ}
    (hremaining : remaining < maximum) :
    ∃ last, maximum - remaining ≤ last ∧ last ≤ maximum ∧
      Accounted cfg outcomes (maximum - remaining) last
        (requestLoop cfg env permit maximum (remaining + 1)) := by
  induction remaining with
  | zero =>
    have hlast : (outcomes (maximum - 0)).Retried → maximum ≤ maximum - 0 := fun _ => le_rfl
    obtain ⟨effects, label, heq, hsent, hseconds⟩ := requestLoop_last cfg permit hplays hlast
    refine ⟨maximum, le_rfl, le_rfl, ?_⟩
    rw [heq]
    exact accounted_last hsent hseconds
  | succ remaining ih =>
    by_cases hretried : (outcomes (maximum - (remaining + 1))).Retried
    · obtain ⟨last, hfirst, hlast, haccount⟩ := ih (by omega)
      have hnext : maximum - (remaining + 1) + 1 = maximum - remaining := by omega
      obtain ⟨outcome, reason, heq⟩ := requestLoop_retried cfg permit hplays hretried (by omega)
      refine ⟨last, by omega, hlast, ?_⟩
      rw [heq]
      rw [← hnext] at haccount
      exact haccount.cons cfg.backoff_nonneg (by omega) hretried (by omega)
    · obtain ⟨effects, label, heq, hsent, hseconds⟩ := requestLoop_last cfg permit hplays
        fun h => absurd h hretried
      refine ⟨maximum - (remaining + 1), le_rfl, by omega, ?_⟩
      rw [heq]
      exact accounted_last hsent hseconds

theorem maximumAttempts_le (cfg : GatewayConfig) (method : String)
    (permit : Option CircuitPermit) : maximumAttempts cfg method permit ≤ cfg.readMaxAttempts := by
  have hpos := cfg.attempts_pos
  unfold maximumAttempts
  cases permit with
  | none => dsimp only; split_ifs <;> omega
  | some p => dsimp only; split_ifs <;> omega

/-- A mutation and a probe are tried once. -/
theorem maximumAttempts_eq_one {method : String}
    (h : method.toUpper ∉ retryableReadMethods ∨ ∃ p, permit = some p ∧ p.isHalfOpenProbe = true) :
    maximumAttempts cfg method permit = 1 := by
  unfold maximumAttempts
  obtain hmutation | ⟨p, rfl, hprobe⟩ := h
  · cases permit with
    | none => exact if_neg hmutation
    | some p =>
      dsimp only
      rw [if_neg hmutation, ite_self]
  · exact if_pos hprobe

theorem Outcome.exit_ne_runtimeError (outcome : Outcome) (message : String) :
    outcome.exit ≠ .runtimeError message := by
  cases outcome <;> simp [Outcome.exit]

/-- **Retry accounting.** A call that the circuit rejects sends nothing. Any other call makes at
least one attempt, and one only where it is a mutation or a probe; all but the last were retryable,
the last one decides the exit, and before attempt `k` the call has slept
`backoff * (2 ^ (k - 1) - 1)`. -/
theorem request_accounting (cfg : GatewayConfig) (method : String)
    (hplays : env.Plays outcomes) (breaker : Option (BreakerConfig × CircuitBreaker)) (now : ℚ) :
    let r := request cfg method env (acquireCircuitPermission breaker now)
    (∀ e, acquireCircuitPermission breaker now = .error e →
      r.effects = [] ∧ r.exit = .circuitOpen (max 1 ⌈e.retryAfterSeconds⌉)) ∧
    (∀ permit, acquireCircuitPermission breaker now = .ok permit →
      ∃ attempts, 1 ≤ attempts ∧ attempts ≤ cfg.readMaxAttempts ∧
        ((method.toUpper ∉ retryableReadMethods ∨
          ∃ p, permit = some p ∧ p.isHalfOpenProbe = true) → attempts = 1) ∧
        r.sends = (List.range' 1 attempts).filter (fun k => outcomes k ≠ .tokenFailure) ∧
        (∀ k, 1 ≤ k → k < attempts → (outcomes k).Retried) ∧
        r.exit = (outcomes attempts).exit ∧
        slept r.effects = cfg.readBackoffSeconds * (2 ^ (attempts - 1) - 1) ∧
        ∀ k, 1 ≤ k → k ≤ attempts →
          r.sleptBefore k = cfg.readBackoffSeconds * (2 ^ (k - 1) - 1)) ∧
    ∀ message, r.exit ≠ .runtimeError message := by
  cases hpermission : acquireCircuitPermission breaker now with
  | error e =>
    refine ⟨?_, nofun, nofun⟩
    rintro _ ⟨⟩
    exact ⟨rfl, rfl⟩
  | ok permit =>
    have hmaximum := maximumAttempts_pos cfg method permit
    have hleast :
        maximumAttempts cfg method permit - (maximumAttempts cfg method permit - 1) = 1 := by
      omega
    have hremaining :
        maximumAttempts cfg method permit - 1 < maximumAttempts cfg method permit := by
      omega
    obtain ⟨attempts, hfirst, hlast, haccount⟩ := requestLoop_accounted cfg permit hplays hremaining
    rw [hleast] at hfirst haccount
    rw [Nat.sub_add_cancel hmaximum] at haccount
    have hrequest : request cfg method env (.ok permit) =
        requestLoop cfg env permit (maximumAttempts cfg method permit)
          (maximumAttempts cfg method permit) := by
      unfold request
      rw [hplays.headers]
    rw [hrequest]
    refine ⟨nofun, ?_, fun message hexit => ?_⟩
    · rintro _ ⟨⟩
      have hone : (2 : ℚ) ^ (1 - 1) = 1 := pow_zero 2
      refine ⟨attempts, hfirst, hlast.trans (maximumAttempts_le cfg method permit), ?_, ?_,
        haccount.retried, haccount.exit, ?_, ?_⟩
      · intro honce
        exact le_antisymm (hlast.trans_eq (maximumAttempts_eq_one honce)) hfirst
      · rw [haccount.sends, Nat.add_sub_cancel]
      · rw [haccount.slept, hone]
      · intro k hk hk'
        rw [haccount.sleptBefore k hk hk', hone]
    · exact Outcome.exit_ne_runtimeError _ message (haccount.exit.symm.trans hexit)

/-! ### A read that succeeds at its second attempt -/

def twoAttempts : GatewayConfig := ⟨2, 1 / 10, by decide, by norm_num⟩

def timeoutFirst : Surroundings where
  headers := none
  attempt k := ⟨.issued "service-token", if k = 1 then .timeout else .response 200⟩
  sleeper _ := none

theorem timeoutFirst_plays :
    timeoutFirst.Plays fun k => if k = 1 then .timeout else .status 200 where
  headers := rfl
  sleeper _ := rfl
  attempt k := by
    split_ifs with hfirst
    · exact ⟨⟨_, rfl⟩, if_pos hfirst⟩
    · exact ⟨⟨_, rfl⟩, if_neg hfirst⟩

theorem request_accounting_timeoutFirst : ∃ attempts, 1 ≤ attempts ∧ attempts ≤ 2 ∧
    (request twoAttempts "get" timeoutFirst (acquireCircuitPermission none 0)).exit =
      (if attempts = 1 then Outcome.timeout else .status 200).exit := by
  obtain ⟨attempts, hfirst, hlast, -, -, -, hexit, -⟩ :=
    (request_accounting twoAttempts "get" timeoutFirst_plays none 0).2.1 none rfl
  exact ⟨attempts, hfirst, hlast, hexit⟩

end OpsFlow.Gateway
