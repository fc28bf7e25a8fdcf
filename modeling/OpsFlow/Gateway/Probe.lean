import OpsFlow.Gateway.BreakerRuns
import OpsFlow.Gateway.Request

namespace OpsFlow.Gateway
open Transition

/-! ## Reports of one call -/

inductive ReportKind
  | success
  | failure
  deriving DecidableEq

abbrev Report := ReportKind × CircuitPermit

def Report.event (r : Report) (t : ℚ) : BreakerEvent :=
  match r.1 with
  | .success => .success r.2 t
  | .failure => .failure r.2 t

def Effect.report : Effect → Option Report
  | .circuitSuccess p => some (.success, p)
  | .circuitFailure p => some (.failure, p)
  | _ => none

def CallResult.reports (r : CallResult) : List Report := r.effects.filterMap Effect.report

@[simp] theorem CallResult.reports_after (es : List Effect) (r : CallResult) :
    (r.after es).reports = es.filterMap Effect.report ++ r.reports := by
  simp [CallResult.reports, CallResult.after]

@[simp] theorem report_send (n : ℕ) : [Effect.send n].filterMap Effect.report = [] := rfl

@[simp] theorem report_dependencyAttempt (outcome : String) :
    [Effect.dependencyAttempt outcome].filterMap Effect.report = [] := rfl

@[simp] theorem reports_unexpectedError (message : String) :
    (unexpectedError message).reports = [] := rfl

@[simp] theorem reports_retry (cfg : GatewayConfig) (env : Surroundings) (reason : String)
    (k : ℕ) :
    (.dependencyRetry reason :: (sleepBeforeRetry cfg env k).1).filterMap Effect.report = [] := by
  unfold sleepBeforeRetry
  dsimp only
  split_ifs <;> rfl

def Attempt.retryable (a : Attempt) : Prop :=
  (∃ token, createServiceAuthorization a.token = .issued token) ∧
    (a.transport = .timeout ∨ a.transport = .requestError ∨
      ∃ s ∈ retryableResponseStatuses, a.transport = .response s)

def Attempt.raisesOther (a : Attempt) : Prop :=
  (∃ message, createServiceAuthorization a.token = .otherException message) ∨
    (∃ token, createServiceAuthorization a.token = .issued token) ∧
      ∃ message, a.transport = .otherException message

/-- Attempt `k` raises nothing unnamed, nor does the sleep that would follow it. -/
def OkAt (cfg : GatewayConfig) (env : Surroundings) (maximum k : ℕ) : Prop :=
  ¬ (env.attempt k).raisesOther ∧
    ((env.attempt k).retryable → k < maximum → (sleepBeforeRetry cfg env k).2 = none)

/-- The same from attempt `k` on, for every attempt that is reached. -/
def CleanFrom (cfg : GatewayConfig) (env : Surroundings) (maximum k : ℕ) : Prop :=
  ∀ j, k ≤ j → j ≤ maximum → (∀ i, k ≤ i → i < j → (env.attempt i).retryable) →
    OkAt cfg env maximum j

def NoOtherException (cfg : GatewayConfig) (env : Surroundings) (maximum : ℕ) : Prop :=
  env.headers = none ∧ CleanFrom cfg env maximum 1

variable {cfg : GatewayConfig} {env : Surroundings} {maximum k : ℕ}

theorem cleanFrom_iff (hk : k ≤ maximum) :
    CleanFrom cfg env maximum k ↔ OkAt cfg env maximum k ∧
      ((env.attempt k).retryable → k < maximum → CleanFrom cfg env maximum (k + 1)) := by
  constructor
  · intro h
    refine ⟨h k le_rfl hk fun i hi hik => absurd hik (not_lt.mpr hi), ?_⟩
    intro hr _ j hj hjm hall
    refine h j (by omega) hjm fun i hi hij => ?_
    rcases hi.eq_or_lt with rfl | hlt
    · exact hr
    · exact hall i hlt hij
  · rintro ⟨hok, hnext⟩ j hj hjm hall
    rcases hj.eq_or_lt with rfl | hlt
    · exact hok
    · exact hnext (hall k le_rfl hlt) (by omega) j hlt hjm
        fun i hi hij => hall i (by omega) hij

/-- What the breaker hears of a call with permit `p`: one report if the call is clean. -/
def Heard (p : CircuitPermit) (clean : Prop) (reports : List Report) : Prop :=
  (clean → ∃ kind, reports = [(kind, p)]) ∧ (¬ clean → reports = [])

theorem heard_once (p : CircuitPermit) (kind : ReportKind) {clean : Prop} (h : clean) :
    Heard p clean [(kind, p)] :=
  ⟨fun _ => ⟨kind, rfl⟩, fun hn => absurd h hn⟩

theorem heard_never (p : CircuitPermit) {clean : Prop} (h : ¬ clean) : Heard p clean [] :=
  ⟨fun hc => absurd hc h, fun _ => rfl⟩

/-- After a retryable attempt the rest of the loop decides, unless the sleep raises. -/
theorem heard_retry {p : CircuitPermit} {reason : String} {rest : CallResult}
    (hk : k < maximum) (hother : ¬ (env.attempt k).raisesOther)
    (hr : (env.attempt k).retryable)
    (ih : Heard p (CleanFrom cfg env maximum (k + 1)) rest.reports) :
    Heard p (CleanFrom cfg env maximum k)
      (retryWith cfg env k reason rest).reports := by
  rw [cleanFrom_iff hk.le]
  unfold retryWith
  dsimp only
  cases hs : (sleepBeforeRetry cfg env k).2 with
  | some message =>
    have hn : ¬ (OkAt cfg env maximum k ∧
        ((env.attempt k).retryable → k < maximum → CleanFrom cfg env maximum (k + 1))) := by
      rintro ⟨⟨-, hsleep⟩, -⟩
      simp [hsleep hr hk] at hs
    simpa using heard_never p hn
  | none =>
    have hiff : (OkAt cfg env maximum k ∧
        ((env.attempt k).retryable → k < maximum → CleanFrom cfg env maximum (k + 1))) ↔
        CleanFrom cfg env maximum (k + 1) :=
      ⟨fun h => h.2 hr hk, fun h => ⟨⟨hother, fun _ _ => hs⟩, fun _ _ => h⟩⟩
    rw [hiff]
    simpa using ih

theorem clean_of_not_retried (hk : k ≤ maximum) (hother : ¬ (env.attempt k).raisesOther)
    (h : ¬ ((env.attempt k).retryable ∧ k < maximum)) : CleanFrom cfg env maximum k :=
  (cleanFrom_iff hk).mpr ⟨⟨hother, fun hr hlt => absurd ⟨hr, hlt⟩ h⟩,
    fun hr hlt => absurd ⟨hr, hlt⟩ h⟩

theorem not_clean_of_raisesOther (hk : k ≤ maximum) (hother : (env.attempt k).raisesOther) :
    ¬ CleanFrom cfg env maximum k :=
  fun h => ((cleanFrom_iff hk).mp h).1.1 hother

/-- One turn of the loop, given what the breaker hears of the turns after it. -/
theorem heard_turn (p : CircuitPermit) {remaining : ℕ} (hrem : remaining < maximum)
    (ih : maximum - remaining < maximum →
      Heard p (CleanFrom cfg env maximum (maximum - remaining + 1))
      (requestLoop cfg env (some p) maximum remaining).reports) :
    Heard p (CleanFrom cfg env maximum (maximum - remaining))
      (requestLoop cfg env (some p) maximum (remaining + 1)).reports := by
  simp only [requestLoop]
  generalize hk : maximum - remaining = k at *
  have hkm : k ≤ maximum := by omega
  cases htoken : createServiceAuthorization (env.attempt k).token with
  | serviceIdentityError =>
    -- without a token the call ends here, and a failure is recorded
    refine heard_once p .failure (clean_of_not_retried hkm ?_ ?_)
    · simp [Attempt.raisesOther, htoken]
    · simp [Attempt.retryable, htoken]
  | otherException message =>
    -- nothing catches the exception: the breaker does not hear of the call
    exact heard_never p (not_clean_of_raisesOther hkm (.inl ⟨message, htoken⟩))
  | issued token =>
    cases htransport : (env.attempt k).transport with
    | otherException message =>
      exact heard_never p
        (not_clean_of_raisesOther hkm (.inr ⟨⟨token, htoken⟩, message, htransport⟩))
    | timeout =>
      have hother : ¬ (env.attempt k).raisesOther := by
        simp [Attempt.raisesOther, htoken, htransport]
      have hr : (env.attempt k).retryable := ⟨⟨token, htoken⟩, .inl htransport⟩
      dsimp only
      split_ifs with hlast
      · exact heard_once p .failure (clean_of_not_retried hkm hother (by omega))
      · simpa using
          heard_retry (by omega) hother hr (ih (by omega))
    | requestError =>
      have hother : ¬ (env.attempt k).raisesOther := by
        simp [Attempt.raisesOther, htoken, htransport]
      have hr : (env.attempt k).retryable := ⟨⟨token, htoken⟩, .inr (.inl htransport)⟩
      dsimp only
      split_ifs with hlast
      · exact heard_once p .failure (clean_of_not_retried hkm hother (by omega))
      · simpa using
          heard_retry (by omega) hother hr (ih (by omega))
    | response statusCode =>
      have hother : ¬ (env.attempt k).raisesOther := by
        simp [Attempt.raisesOther, htoken, htransport]
      dsimp only
      split_ifs with hretry
      · have hr : (env.attempt k).retryable :=
          ⟨⟨token, htoken⟩, .inr (.inr ⟨statusCode, hretry.1, htransport⟩)⟩
        simpa using
          heard_retry hretry.2 hother hr (ih hretry.2)
      all_goals
        have hclean : CleanFrom cfg env maximum k := by
          refine clean_of_not_retried hkm hother ?_
          rintro ⟨⟨-, h⟩, hlt⟩
          simp only [htransport, reduceCtorEq, TransportResult.response.injEq, false_or] at h
          obtain ⟨s, hs, rfl⟩ := h
          exact hretry ⟨hs, hlt⟩
        exact heard_once p _ hclean

theorem heard_loop (cfg : GatewayConfig) (env : Surroundings) (p : CircuitPermit)
    {maximum remaining : ℕ} (h : remaining < maximum) :
    Heard p (CleanFrom cfg env maximum (maximum - remaining))
      (requestLoop cfg env (some p) maximum (remaining + 1)).reports := by
  induction remaining with
  | zero => exact heard_turn p h fun hlt => absurd hlt (by simp)
  | succ n ih =>
    refine heard_turn p h fun _ => ?_
    have hk : maximum - (n + 1) + 1 = maximum - n := by omega
    rw [hk]
    exact ih (by omega)

/-- A granted permit is reported back exactly once if no unnamed exception is raised on the way,
and never otherwise. -/
theorem heard_request (cfg : GatewayConfig) (method : String) (env : Surroundings)
    (p : CircuitPermit) :
    Heard p (NoOtherException cfg env (maximumAttempts cfg method (some p)))
      (request cfg method env (.ok (some p))).reports := by
  have hpos := maximumAttempts_pos cfg method (some p)
  unfold request NoOtherException
  cases hh : env.headers with
  | some message => exact heard_never p (by simp)
  | none =>
    dsimp only
    generalize maximumAttempts cfg method (some p) = maximum at *
    have h := heard_loop cfg env p (show maximum - 1 < maximum by omega)
    have h1 : maximum - (maximum - 1) = 1 := by omega
    have h2 : maximum - 1 + 1 = maximum := by omega
    rw [h1, h2] at h
    simpa using h

/-! ## Any number of calls over one breaker -/

/-- The breaker shared by all gateways of the process, and the calls in progress: each holds
the reports that it has still to make. -/
structure Calls (ι : Type*) where
  monitor : Monitor
  inProgress : ι → Option (List Report)

inductive CallLabel (ι : Type*)
  | enter (i : ι) (method : String) (env : Surroundings) (t : ℚ)
  | report (i : ι) (t : ℚ)
  | exit (i : ι)

variable {ι : Type*} [DecidableEq ι]

/-- A rejected call is over at once; a granted one makes its reports and leaves. -/
inductive CallStep (c : BreakerConfig) (cfg : GatewayConfig) :
    Calls ι → CallLabel ι → Calls ι → Prop
  | enter {s : Calls ι} {i : ι} {method : String} {env : Surroundings} {t : ℚ} :
      s.inProgress i = none → s.monitor.clock ≤ t →
      CallStep c cfg s (.enter i method env t)
        { monitor := s.monitor.observe c (.acquire t)
          inProgress := Function.update s.inProgress i <|
            ((BreakerEvent.acquire t).grant c s.monitor.breaker).map fun p =>
              (request cfg method env (.ok (some p))).reports }
  | report {s : Calls ι} {i : ι} {r : Report} {rs : List Report} {t : ℚ} :
      s.inProgress i = some (r :: rs) → s.monitor.clock ≤ t →
      CallStep c cfg s (.report i t)
        { monitor := s.monitor.observe c (r.event t)
          inProgress := Function.update s.inProgress i (some rs) }
  | exit {s : Calls ι} {i : ι} : s.inProgress i = some [] →
      CallStep c cfg s (.exit i)
        { s with inProgress := Function.update s.inProgress i none }

def CleanCall (c : BreakerConfig) (cfg : GatewayConfig) (s : Calls ι) : CallLabel ι → Prop
  | .enter _ method env t => ∀ p, (BreakerEvent.acquire t).grant c s.monitor.breaker = some p →
      NoOtherException cfg env (maximumAttempts cfg method (some p))
  | _ => True

def Calls.start (t : ℚ) : Calls ι := ⟨.start t, fun _ => none⟩

/-- A HALF_OPEN breaker waits for the one report of a call in progress. -/
structure Calls.Inv (c : BreakerConfig) (s : Calls ι) : Prop where
  monitor : ∃ es, Monitor.Inv c es s.monitor
  pending : ∀ i rs, s.inProgress i = some rs → ∀ r ∈ rs, r.2 ∈ s.monitor.granted
  probe : s.monitor.breaker.state = .halfOpen → ∃ i kind p, s.inProgress i = some [(kind, p)] ∧
    p.isHalfOpenProbe = true ∧ p.generation = s.monitor.breaker.generation

variable {c : BreakerConfig} {s s' : Calls ι}

/-- Only an acquire that grants a probe of the current generation makes the breaker HALF_OPEN. -/
theorem grant_of_becomes_halfOpen {b : CircuitBreaker} {t : ℚ} (hbefore : b.state ≠ .halfOpen)
    (hafter : ((BreakerEvent.acquire t).apply c b).state = .halfOpen) :
    ∃ p, (BreakerEvent.acquire t).grant c b = some p ∧ p.isHalfOpenProbe = true ∧
      p.generation = ((BreakerEvent.acquire t).apply c b).generation := by
  revert hafter
  simp only [BreakerEvent.apply, BreakerEvent.grant, CircuitBreaker.acquirePermission]
  cases hs : b.state with
  | closed => simp [hs]
  | halfOpen => exact absurd hs hbefore
  | opened =>
    dsimp only
    split_ifs
    · simp [hs]
    · intro _
      exact ⟨_, rfl, rfl, rfl⟩

/-- A report after which the breaker is HALF_OPEN found it so and carried no current probe. -/
theorem report_keeps_halfOpen {b : CircuitBreaker} {r : Report} {t : ℚ}
    (hafter : ((r.event t).apply c b).state = .halfOpen) :
    b.state = .halfOpen ∧ (r.event t).apply c b = b ∧
      ¬ (r.2.isHalfOpenProbe = true ∧ r.2.generation = b.generation) := by
  obtain ⟨kind, p⟩ := r
  cases kind with
  | success =>
    revert hafter
    simp only [Report.event, BreakerEvent.apply, CircuitBreaker.recordSuccess]
    split_ifs <;> simp_all
  | failure =>
    revert hafter
    simp only [Report.event, BreakerEvent.apply, CircuitBreaker.recordFailure,
      CircuitBreaker.openLocked]
    split_ifs <;> simp_all

theorem inv_enter (hi : s.Inv c) {i : ι} {method : String} {env : Surroundings} {t : ℚ}
    (hidle : s.inProgress i = none) (ht : s.monitor.clock ≤ t)
    (hclean : CleanCall c cfg s (.enter i method env t)) :
    Calls.Inv c
      { monitor := s.monitor.observe c (.acquire t)
        inProgress := Function.update s.inProgress i <|
          ((BreakerEvent.acquire t).grant c s.monitor.breaker).map fun p =>
            (request cfg method env (.ok (some p))).reports } := by
  obtain ⟨⟨es, hm⟩, hpending, hprobe⟩ := hi
  refine ⟨⟨_, Monitor.inv_acquire hm ht⟩, ?_, ?_⟩
  · intro j rs hj r hr
    by_cases hij : j = i
    · subst hij
      simp only [Function.update_self, Option.map_eq_some_iff] at hj
      obtain ⟨p, hp, rfl⟩ := hj
      obtain ⟨kind, hk⟩ := (heard_request cfg method env p).1 (hclean p hp)
      rw [hk, List.mem_singleton] at hr
      simp [Monitor.observe, hp, hr]
    · simp only [Function.update_of_ne hij] at hj
      exact List.mem_append_right _ (hpending j rs hj r hr)
  · intro hs
    by_cases hbefore : s.monitor.breaker.state = .halfOpen
    · -- the new call is rejected, so the one that holds the probe still does
      have hgrant : (BreakerEvent.acquire t).grant c s.monitor.breaker = none := by
        simp [BreakerEvent.grant, CircuitBreaker.acquirePermission, hbefore, Except.toOption]
      have hsame : (BreakerEvent.acquire t).apply c s.monitor.breaker = s.monitor.breaker := by
        simp [BreakerEvent.apply, CircuitBreaker.acquirePermission, hbefore]
      obtain ⟨j, kind, p, hj, hp, hg⟩ := hprobe hbefore
      refine ⟨j, kind, p, ?_, hp, by simpa [Monitor.observe, hsame] using hg⟩
      have hji : j ≠ i := by
        rintro rfl
        simp [hidle] at hj
      simpa [Function.update_of_ne hji] using hj
    · -- only the acquire that grants the probe makes the breaker HALF_OPEN
      obtain ⟨p, hp, hprobe', hgen⟩ := grant_of_becomes_halfOpen hbefore hs
      obtain ⟨kind, hk⟩ := (heard_request cfg method env p).1 (hclean p hp)
      refine ⟨i, kind, p, by simp [hp, hk], hprobe', hgen⟩

theorem inv_report (hi : s.Inv c) {i : ι} {r : Report} {rs : List Report} {t : ℚ}
    (hr : s.inProgress i = some (r :: rs)) (ht : s.monitor.clock ≤ t) :
    Calls.Inv c
      { monitor := s.monitor.observe c (r.event t)
        inProgress := Function.update s.inProgress i (some rs) } := by
  obtain ⟨⟨es, hm⟩, hpending, hprobe⟩ := hi
  have hgranted : r.2 ∈ s.monitor.granted := hpending i _ hr r (List.mem_cons_self ..)
  refine ⟨⟨es ++ [r.event t], ?_⟩, ?_, ?_⟩
  · obtain ⟨kind, p⟩ := r
    cases kind with
    | success => exact Monitor.inv_success hm ht hgranted
    | failure => exact Monitor.inv_failure hm ht hgranted
  · intro j rs' hj r' hr'
    have hgrant : (r.event t).grant c s.monitor.breaker = none := by
      obtain ⟨kind, p⟩ := r
      cases kind <;> rfl
    simp only [Monitor.observe, hgrant, Option.toList_none, List.nil_append]
    by_cases hji : j = i
    · subst hji
      simp only [Function.update_self, Option.some.injEq] at hj
      subst hj
      exact hpending j _ hr r' (List.mem_cons_of_mem _ hr')
    · simp only [Function.update_of_ne hji] at hj
      exact hpending j rs' hj r' hr'
  · intro hs
    obtain ⟨hbefore, hsame, hnot⟩ := report_keeps_halfOpen (r := r) (t := t) hs
    obtain ⟨j, kind, p, hj, hp, hg⟩ := hprobe hbefore
    refine ⟨j, kind, p, ?_, hp, by simpa [Monitor.observe, hsame] using hg⟩
    -- the report of the probe itself would have ended the HALF_OPEN state
    have hji : j ≠ i := by
      rintro rfl
      rw [hr] at hj
      simp only [Option.some.injEq, List.cons.injEq] at hj
      obtain ⟨rfl, -⟩ := hj
      exact hnot ⟨hp, hg⟩
    simpa [Function.update_of_ne hji] using hj

theorem inv_exit (hi : s.Inv c) {i : ι} (hdone : s.inProgress i = some []) :
    Calls.Inv c { s with inProgress := Function.update s.inProgress i none } := by
  obtain ⟨hm, hpending, hprobe⟩ := hi
  refine ⟨hm, ?_, ?_⟩
  · intro j rs hj
    by_cases hji : j = i
    · simp [hji] at hj
    · exact hpending j rs (by simpa [Function.update_of_ne hji] using hj)
  · intro hs
    obtain ⟨j, kind, p, hj, hp, hg⟩ := hprobe hs
    refine ⟨j, kind, p, ?_, hp, hg⟩
    have hji : j ≠ i := by
      rintro rfl
      simp [hdone] at hj
    simpa [Function.update_of_ne hji] using hj

theorem inv_calls {t : ℚ} {ls : List (CallLabel ι)}
    (h : Run (fun s l s' => CallStep c cfg s l s' ∧ CleanCall c cfg s l) (Calls.start t) ls s) :
    s.Inv c := by
  refine h.invariant ?_ ?_
  · intro s l s' hi hs
    obtain ⟨hstep, hclean⟩ := hs
    cases hstep with
    | enter hidle ht => exact inv_enter hi hidle ht hclean
    | report hr ht => exact inv_report hi hr ht
    | exit hdone => exact inv_exit hi hdone
  · refine ⟨⟨[], Monitor.inv_start c t⟩, ?_, ?_⟩
    · intro i rs hi
      cases hi
    · intro hs
      cases hs

/-- A call reports its permit exactly once if and only if no unnamed exception is raised in it;
where no call meets one, an idle breaker is never HALF_OPEN and an open one recovers. -/
theorem permit_reported_iff (c : BreakerConfig) (cfg : GatewayConfig) :
    (∀ method env p, (∃ kind, (request cfg method env (.ok (some p))).reports = [(kind, p)]) ↔
      NoOtherException cfg env (maximumAttempts cfg method (some p))) ∧
    ∀ (t : ℚ) (ls : List (CallLabel ι)) (s : Calls ι),
      Run (fun s l s' => CallStep c cfg s l s' ∧ CleanCall c cfg s l) (Calls.start t) ls s →
      (∀ i, s.inProgress i = none) →
      s.monitor.breaker.state ≠ .halfOpen ∧
        (s.monitor.breaker.state = .opened → ∃ t₀, s.monitor.lastOpening = some t₀ ∧
          ∀ t', t₀ + c.recoverySeconds ≤ t' → ∃ p, p.isHalfOpenProbe = true ∧
            (s.monitor.breaker.acquirePermission c t').2 = .ok p) := by
  refine ⟨fun method env p => ⟨?_, (heard_request cfg method env p).1⟩, ?_⟩
  · rintro ⟨kind, hk⟩
    by_contra hn
    rw [(heard_request cfg method env p).2 hn] at hk
    cases hk
  · intro t ls s hrun hidle
    have hi := inv_calls hrun
    refine ⟨fun hs => ?_, fun hs => ?_⟩
    · obtain ⟨i, kind, p, h, -⟩ := hi.probe hs
      rw [hidle i] at h
      cases h
    · obtain ⟨es, hm⟩ := hi.monitor
      obtain ⟨t₀, hlast, -, hlate⟩ := hm.recovers hs
      exact ⟨t₀, hlast, fun t' ht' => ⟨_, rfl, by rw [hlate t' ht']⟩⟩

/-! ### A client that has been closed -/

def oneAttempt : GatewayConfig := ⟨1, 0, Nat.one_pos, le_rfl⟩

def answering (statusCode : ℕ) : Surroundings :=
  ⟨none, fun _ => ⟨.issued "token", .response statusCode⟩, fun _ => none⟩

/-- `httpx.Client.request` raises a plain `RuntimeError` once the client is closed. -/
def closedClient : Surroundings :=
  ⟨none, fun _ => ⟨.issued "token", .otherException
    "Cannot send a request, as the client has been closed."⟩, fun _ => none⟩

theorem maximumAttempts_oneAttempt (method : String) (permit : Option CircuitPermit) :
    maximumAttempts oneAttempt method permit = 1 := by
  unfold maximumAttempts
  cases permit with
  | none => simp [oneAttempt]
  | some p => simp [oneAttempt]

theorem reports_answering (statusCode : ℕ) (p : CircuitPermit) :
    (request oneAttempt "GET" (answering statusCode) (.ok (some p))).reports =
      [(if 500 ≤ statusCode then .failure else .success, p)] := by
  have hmax := maximumAttempts_oneAttempt "GET" (some p)
  have htoken : createServiceAuthorization (.issued "token") = .issued ("Bearer " ++ "token") := by
    simp [createServiceAuthorization]
  simp only [request, answering, hmax, requestLoop, htoken, Nat.sub_zero, lt_irrefl, and_false,
    if_false, CallResult.reports_after, report_send, report_dependencyAttempt, List.nil_append]
  split_ifs <;> rfl

theorem reports_closedClient (p : CircuitPermit) :
    (request oneAttempt "GET" closedClient (.ok (some p))).reports = [] := by
  have hmax := maximumAttempts_oneAttempt "GET" (some p)
  have htoken : createServiceAuthorization (.issued "token") = .issued ("Bearer " ++ "token") := by
    simp [createServiceAuthorization]
  simp only [request, closedClient, hmax, requestLoop, htoken, CallResult.reports_after,
    report_send, reports_unexpectedError, List.nil_append]

def idle (m : Monitor) : Calls ℕ := ⟨m, fun _ => none⟩

def oneCall (m : Monitor) (rs : List Report) : Calls ℕ :=
  ⟨m, Function.update (fun _ => none) 0 (some rs)⟩

section
variable {cfg : GatewayConfig} {m m' : Monitor} {t : ℚ}

theorem step_enter {method : String} {env : Surroundings} {p : CircuitPermit} {rs : List Report}
    (ht : m.clock ≤ t) (hp : (BreakerEvent.acquire t).grant c m.breaker = some p)
    (hm : m.observe c (.acquire t) = m')
    (hrs : (request cfg method env (.ok (some p))).reports = rs) :
    CallStep c cfg (idle m) (.enter 0 method env t) (oneCall m' rs) := by
  have h : CallStep c cfg (idle m) (.enter 0 method env t) _ := .enter rfl ht
  simp only [idle, hp, hm, Option.map_some, hrs] at h
  exact h

theorem step_report {r : Report} {rs : List Report} (ht : m.clock ≤ t)
    (hm : m.observe c (r.event t) = m') :
    CallStep c cfg (oneCall m (r :: rs)) (.report 0 t) (oneCall m' rs) := by
  have hr : (oneCall m (r :: rs)).inProgress 0 = some (r :: rs) := by simp [oneCall]
  have h : CallStep c cfg (oneCall m (r :: rs)) (.report 0 t) _ := .report hr ht
  simp only [oneCall, hm, Function.update_idem] at h
  exact h

theorem step_exit : CallStep c cfg (oneCall m []) (.exit 0) (idle m) := by
  have h : CallStep c cfg (oneCall m []) (.exit 0) _ :=
    .exit (by simp [oneCall])
  simp only [oneCall, Function.update_idem, Function.update_eq_self] at h
  exact h

end

def failedOnce : Monitor := ⟨⟨.opened, 1, some 1, 1⟩, [⟨0, false⟩], 1, some 1⟩

def leakedProbe : Monitor := ⟨⟨.halfOpen, 1, some 1, 1⟩, [⟨1, true⟩, ⟨0, false⟩], 10, some 1⟩

theorem observe_failure :
    ((Monitor.start 0).observe oneFailure (.acquire 0)).observe oneFailure
      (Report.event (.failure, ⟨0, false⟩) 1) = failedOnce := by
  simp [Monitor.observe, Monitor.start, Report.event, BreakerEvent.apply, BreakerEvent.grant,
    BreakerEvent.time, CircuitBreaker.acquirePermission, CircuitBreaker.recordFailure,
    CircuitBreaker.new, CircuitBreaker.openLocked, oneFailure, Except.toOption, failedOnce]

theorem acquire_failedOnce : failedOnce.breaker.acquirePermission oneFailure 10 =
    (leakedProbe.breaker, .ok ⟨1, true⟩) := by
  norm_num [CircuitBreaker.acquirePermission, failedOnce, leakedProbe, oneFailure]

theorem observe_probe : failedOnce.observe oneFailure (.acquire 10) = leakedProbe := by
  simp only [Monitor.observe, BreakerEvent.apply, BreakerEvent.grant, acquire_failedOnce]
  rfl

/-- A call fails and opens the breaker; the probe of the next one meets a closed client. -/
def leakingCalls : List (CallLabel ℕ) :=
  [.enter 0 "GET" (answering 500) 0, .report 0 1, .exit 0, .enter 0 "GET" closedClient 10, .exit 0]

theorem leaked_probe :
    Run (CallStep oneFailure oneAttempt) (Calls.start 0) leakingCalls (idle leakedProbe) ∧
      (request oneAttempt "GET" closedClient (.ok (some ⟨1, true⟩))).reports = [] ∧
      leakedProbe.breaker.state = .halfOpen ∧
        ∀ t, ∃ e, leakedProbe.breaker.acquirePermission oneFailure t =
        (leakedProbe.breaker, .error e) := by
  refine ⟨?_, reports_closedClient _, rfl, fun t => ⟨.new 1, rfl⟩⟩
  have hgrant : (BreakerEvent.acquire 10).grant oneFailure failedOnce.breaker = some ⟨1, true⟩ := by
    simp only [BreakerEvent.grant, acquire_failedOnce]
    rfl
  refine .cons (step_enter le_rfl rfl rfl (reports_answering 500 _)) ?_
  refine .cons (step_report (show (0 : ℚ) ≤ 1 by norm_num) observe_failure) ?_
  refine .cons step_exit (.cons (step_enter ?_ hgrant observe_probe (reports_closedClient _))
    (.single step_exit))
  show (1 : ℚ) ≤ 10
  norm_num

/-- The first of these calls meets no unnamed exception, and its failure is reported. -/
theorem permit_reported_once :
    NoOtherException oneAttempt (answering 500) 1 ∧
      (failedOnce.breaker.state = .opened → ∃ t₀, failedOnce.lastOpening = some t₀ ∧
        ∀ t', t₀ + oneFailure.recoverySeconds ≤ t' → ∃ p, p.isHalfOpenProbe = true ∧
          (failedOnce.breaker.acquirePermission oneFailure t').2 = .ok p) := by
  have hreport := reports_answering 500 ⟨0, false⟩
  have hclean : NoOtherException oneAttempt (answering 500) 1 := by
    have h := (@permit_reported_iff ℕ _ oneFailure oneAttempt).1 "GET" (answering 500) ⟨0, false⟩
    rw [maximumAttempts_oneAttempt] at h
    exact h.mp ⟨_, hreport⟩
  refine ⟨hclean, ?_⟩
  refine ((permit_reported_iff oneFailure oneAttempt).2 0
    [.enter 0 "GET" (answering 500) 0, .report 0 1, .exit 0] (idle failedOnce) ?_ fun _ => rfl).2
  refine .cons ⟨step_enter le_rfl rfl rfl hreport, fun p _ => ?_⟩
    (.cons ⟨step_report (show (0 : ℚ) ≤ 1 by norm_num) observe_failure, trivial⟩
      (.single ⟨step_exit, trivial⟩))
  rwa [maximumAttempts_oneAttempt]

end OpsFlow.Gateway
