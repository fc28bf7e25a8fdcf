import OpsFlow.Auth.Throttles
import Mathlib.Tactic.Linarith

namespace OpsFlow.Auth

open SlidingWindow

inductive LoginThrottleCall
  | beginAttempt (clientAddress accountIdentifier : String)
  | recordFailure (accountIdentifier : String)
  | recordSuccess (accountIdentifier : String)

structure TimedCall where
  time : ℚ
  call : LoginThrottleCall

namespace LoginThrottle

variable (throttle : LoginThrottle)

def perform (windows : LoginWindows) (event : TimedCall) : LoginWindows :=
  match event.call with
  | .beginAttempt clientAddress accountIdentifier =>
    (throttle.beginAttempt windows event.time clientAddress accountIdentifier).2
  | .recordFailure accountIdentifier =>
    throttle.recordFailure windows event.time accountIdentifier
  | .recordSuccess accountIdentifier => throttle.recordSuccess windows accountIdentifier

def windowsAfter (events : List TimedCall) : LoginWindows := events.foldl throttle.perform .empty

def decisionAfter (events : List TimedCall) (now : ℚ) (clientAddress accountIdentifier : String) :
    LoginThrottleDecision :=
  (throttle.beginAttempt (throttle.windowsAfter events) now clientAddress accountIdentifier).1

/-! ## What the two limits count -/

def attemptsFrom (address : String) (windows : LoginWindows) : List TimedCall → List ℚ
  | [] => []
  | event :: events =>
    let later := attemptsFrom address (throttle.perform windows event) events
    match event.call with
    | .beginAttempt clientAddress accountIdentifier =>
      let decision :=
        (throttle.beginAttempt windows event.time clientAddress accountIdentifier).1
      if clientAddress = address ∧ decision.blockedBy ≠ some .ip then event.time :: later else later
    | _ => later

/-- The times of an address's attempts that were not refused for the limit of the address. -/
def attempts (address : String) (events : List TimedCall) : List ℚ :=
  throttle.attemptsFrom address .empty events

/-- The times of an account's failures since its last success. -/
def failures (account : String) (events : List TimedCall) : List ℚ :=
  events.foldl (fun times event =>
    match event.call with
    | .beginAttempt .. => times
    | .recordFailure identifier =>
      if throttle.keys.normalize identifier = account then times ++ [event.time] else times
    | .recordSuccess identifier =>
      if throttle.keys.normalize identifier = account then [] else times) []

def Concerns (clientAddress accountIdentifier : String) (event : TimedCall) : Prop :=
  match event.call with
  | .beginAttempt address _ => address = clientAddress
  | .recordFailure identifier | .recordSuccess identifier =>
    throttle.keys.normalize identifier = throttle.keys.normalize accountIdentifier

instance (clientAddress accountIdentifier : String) :
    DecidablePred (throttle.Concerns clientAddress accountIdentifier) := fun event => by
  unfold Concerns
  split <;> infer_instance

/-! ## One call -/

/-- The answer, from the two buckets as they are after pruning. -/
def decision (ipBucket accountBucket : List ℚ) : LoginThrottleDecision :=
  if throttle.ipMaxAttempts ≤ ipBucket.length then ⟨false, some .ip⟩
  else if throttle.accountMaxFailures ≤ accountBucket.length then ⟨false, some .account⟩
  else ⟨true, none⟩

variable {throttle} {windows : LoginWindows} {now : ℚ} {address identifier : String}
  {ipBucket accountBucket : List ℚ}

theorem decision_ip : (throttle.decision ipBucket accountBucket).blockedBy = some .ip ↔
    throttle.ipMaxAttempts ≤ ipBucket.length := by
  unfold decision
  split_ifs with hip
  · exact iff_of_true rfl hip
  · exact iff_of_false (by simp) hip
  · exact iff_of_false (by simp) hip

theorem decision_account : (throttle.decision ipBucket accountBucket).blockedBy = some .account ↔
    ipBucket.length < throttle.ipMaxAttempts ∧
      throttle.accountMaxFailures ≤ accountBucket.length := by
  unfold decision
  split_ifs with hip haccount
  · exact iff_of_false (by simp) fun h => by omega
  · exact iff_of_true rfl ⟨not_le.mp hip, haccount⟩
  · exact iff_of_false (by simp) fun h => haccount h.2

theorem decision_allowed : (throttle.decision ipBucket accountBucket).allowed = true ↔
    ipBucket.length < throttle.ipMaxAttempts ∧
      accountBucket.length < throttle.accountMaxFailures := by
  unfold decision
  split_ifs with hip haccount
  · exact iff_of_false (by simp) fun h => by omega
  · exact iff_of_false (by simp) fun h => by omega
  · exact iff_of_true rfl ⟨not_le.mp hip, not_le.mp haccount⟩

theorem beginAttempt_decision :
    (throttle.beginAttempt windows now address identifier).1 = throttle.decision
      (prune (windows.ipAttempts (throttle.opaqueKey "ip" address))
        (now - throttle.ipWindowSeconds))
      (prune (windows.accountFailures (throttle.accountKey identifier))
        (now - throttle.accountWindowSeconds)) := by
  unfold beginAttempt decision
  simp only [Buckets.keep_self]
  split_ifs
  · rfl
  · rfl
  · rfl

/-- The address counts an attempt that it does not refuse itself. -/
theorem beginAttempt_windows (throttle : LoginThrottle) (windows : LoginWindows) (now : ℚ)
    (address identifier : String) :
    let ipKey := throttle.opaqueKey "ip" address
    let ipAttempts := windows.ipAttempts.keep ipKey now throttle.ipWindowSeconds
    (throttle.beginAttempt windows now address identifier).2 =
      if (throttle.beginAttempt windows now address identifier).1.blockedBy = some .ip then
        { windows with ipAttempts := ipAttempts }
      else
        ⟨ipAttempts.append ipKey now, windows.accountFailures.keep (throttle.accountKey identifier)
          now throttle.accountWindowSeconds⟩ := by
  unfold beginAttempt
  dsimp only
  split
  · rfl
  · split
    · rfl
    · rfl

/-! ## The history of the calls -/

variable {event : TimedCall} {events : List TimedCall} {account : String}

theorem windowsAfter_snoc : throttle.windowsAfter (events ++ [event]) =
    throttle.perform (throttle.windowsAfter events) event := by
  unfold windowsAfter
  rw [List.foldl_append]
  rfl

theorem attemptsFrom_append (events later : List TimedCall) :
    throttle.attemptsFrom address windows (events ++ later) =
      throttle.attemptsFrom address windows events ++
        throttle.attemptsFrom address (events.foldl throttle.perform windows) later := by
  induction events generalizing windows with
  | nil => rfl
  | cons event events ih =>
    simp only [List.cons_append, attemptsFrom, List.foldl_cons, ih]
    cases event.call with
    | beginAttempt clientAddress identifier =>
      dsimp only
      split_ifs
      · rfl
      · rfl
    | recordFailure identifier => rfl
    | recordSuccess identifier => rfl

theorem attempts_snoc : throttle.attempts address (events ++ [event]) =
    throttle.attempts address events ++
      throttle.attemptsFrom address (throttle.windowsAfter events) [event] :=
  attemptsFrom_append events [event]

/-- An attempt is counted for its own address, unless it is the address that refuses it. -/
theorem attempts_beginAttempt {clientAddress : String} :
    throttle.attempts address (events ++ [⟨now, .beginAttempt clientAddress identifier⟩]) =
      if clientAddress = address ∧
        (throttle.decisionAfter events now clientAddress identifier).blockedBy ≠ some .ip then
          throttle.attempts address events ++ [now]
      else throttle.attempts address events := by
  rw [attempts_snoc]
  by_cases h : clientAddress = address ∧
      (throttle.decisionAfter events now clientAddress identifier).blockedBy ≠ some .ip
  · rw [if_pos h]
    exact congrArg (_ ++ ·) (if_pos h)
  · rw [if_neg h]
    exact (congrArg (_ ++ ·) (if_neg h)).trans (List.append_nil _)

theorem attempts_recordFailure :
    throttle.attempts address (events ++ [⟨now, .recordFailure identifier⟩]) =
      throttle.attempts address events :=
  attempts_snoc.trans (List.append_nil _)

theorem attempts_recordSuccess :
    throttle.attempts address (events ++ [⟨now, .recordSuccess identifier⟩]) =
      throttle.attempts address events :=
  attempts_snoc.trans (List.append_nil _)

theorem failures_snoc : throttle.failures account (events ++ [event]) =
    match event.call with
    | .beginAttempt .. => throttle.failures account events
    | .recordFailure identifier =>
      if throttle.keys.normalize identifier = account then
        throttle.failures account events ++ [event.time]
      else throttle.failures account events
    | .recordSuccess identifier =>
      if throttle.keys.normalize identifier = account then []
      else throttle.failures account events := by
  unfold failures
  rw [List.foldl_append]
  rfl

/-- Each bucket follows what its limit counts. -/
structure Tracked (throttle : LoginThrottle) (windows : LoginWindows) (events : List TimedCall)
    (now : ℚ) : Prop where
  ip : ∀ address, Follows (windows.ipAttempts (throttle.opaqueKey "ip" address))
    (throttle.attempts address events) (now - throttle.ipWindowSeconds) now
  account : ∀ account, Follows (windows.accountFailures (throttle.opaqueKey "account" account))
    (throttle.failures account events) (now - throttle.accountWindowSeconds) now

theorem Tracked.later {now' : ℚ} (h : Tracked throttle windows events now) (hnow : now ≤ now') :
    Tracked throttle windows events now' where
  ip address := (h.ip address).later (by linarith) hnow
  account account := (h.account account).later (by linarith) hnow

theorem opaqueKey_injective (hhash : Function.Injective throttle.keys.hexdigest) (scope : String) :
    Function.Injective (throttle.opaqueKey scope) := by
  intro value value' h
  have htext := hhash h
  exact (String.append_right_inj _).mp htext

/-- An attempt, as the two limits count it. -/
theorem Tracked.beginAttempt (hhash : Function.Injective throttle.keys.hexdigest)
    {clientAddress identifier : String}
    (h : Tracked throttle (throttle.windowsAfter events) events now) :
    Tracked throttle
      (throttle.beginAttempt (throttle.windowsAfter events) now clientAddress identifier).2
      (events ++ [⟨now, .beginAttempt clientAddress identifier⟩]) now := by
  rw [beginAttempt_windows]
  by_cases hip : (throttle.beginAttempt (throttle.windowsAfter events) now clientAddress
      identifier).1.blockedBy = some .ip
  · rw [if_pos hip]
    refine ⟨fun address => ?_, fun account => ?_⟩
    · rw [attempts_beginAttempt, if_neg fun hcounted => hcounted.2 hip]
      exact Buckets.keep_follows (h.ip address)
    · rw [failures_snoc]
      exact h.account account
  · rw [if_neg hip]
    refine ⟨fun address => ?_, fun account => ?_⟩
    · have hkey : throttle.opaqueKey "ip" address = throttle.opaqueKey "ip" clientAddress ↔
          clientAddress = address ∧
            (throttle.decisionAfter events now clientAddress identifier).blockedBy ≠ some .ip :=
        (opaqueKey_injective hhash "ip").eq_iff.trans (eq_comm.trans (and_iff_left hip).symm)
      rw [attempts_beginAttempt, ← ite_congr (propext hkey) (fun _ => rfl) fun _ => rfl]
      exact Buckets.append_follows (Buckets.keep_follows (h.ip address))
    · rw [failures_snoc]
      exact Buckets.keep_follows (h.account account)

theorem Tracked.recordFailure (hhash : Function.Injective throttle.keys.hexdigest)
    (h : Tracked throttle windows events now) :
    Tracked throttle (throttle.recordFailure windows now identifier)
      (events ++ [⟨now, .recordFailure identifier⟩]) now where
  ip address := by
    rw [attempts_recordFailure]
    exact h.ip address
  account account := by
    have hkey : throttle.opaqueKey "account" account = throttle.accountKey identifier ↔
        throttle.keys.normalize identifier = account :=
      (opaqueKey_injective hhash "account").eq_iff.trans eq_comm
    rw [failures_snoc]
    dsimp only
    rw [← ite_congr (propext hkey) (fun _ => rfl) fun _ => rfl]
    exact Buckets.append_follows (Buckets.keep_follows (h.account account))

theorem Tracked.recordSuccess (hhash : Function.Injective throttle.keys.hexdigest)
    (h : Tracked throttle windows events now) :
    Tracked throttle (throttle.recordSuccess windows identifier)
      (events ++ [⟨now, .recordSuccess identifier⟩]) now where
  ip address := by
    rw [attempts_recordSuccess]
    exact h.ip address
  account account := by
    rw [failures_snoc]
    dsimp only [LoginThrottle.recordSuccess]
    by_cases hkey : throttle.keys.normalize identifier = account
    · rw [if_pos hkey, ← hkey]
      have hcleared : Function.update windows.accountFailures (throttle.accountKey identifier) []
          (throttle.opaqueKey "account" (throttle.keys.normalize identifier)) = [] :=
        Function.update_self ..
      rw [hcleared]
      exact .nil
    · have hne : throttle.opaqueKey "account" account ≠ throttle.accountKey identifier :=
        fun heq => hkey (opaqueKey_injective hhash "account" heq).symm
      rw [if_neg hkey, Function.update_of_ne hne]
      exact h.account account

/-- After every run, each bucket follows what its limit counts. -/
theorem tracked_after (hhash : Function.Injective throttle.keys.hexdigest)
    (h : InOrder TimedCall.time events now) :
    Tracked throttle (throttle.windowsAfter events) events now := by
  induction events using List.reverseRecOn generalizing now with
  | nil => exact ⟨fun _ => .nil, fun _ => .nil⟩
  | append_singleton events event ih =>
    obtain ⟨hbefore, hlast⟩ := h.of_snoc
    have htracked := ih hbefore
    refine Tracked.later ?_ hlast
    rw [windowsAfter_snoc]
    obtain ⟨time, call⟩ := event
    cases call with
    | beginAttempt clientAddress identifier => exact htracked.beginAttempt hhash
    | recordFailure identifier => exact htracked.recordFailure hhash
    | recordSuccess identifier => exact htracked.recordSuccess hhash

/-- The answer, from what the two limits count. -/
theorem decisionAfter_eq (hhash : Function.Injective throttle.keys.hexdigest)
    (h : InOrder TimedCall.time events now) :
    throttle.decisionAfter events now address identifier = throttle.decision
      (recent (throttle.attempts address events) (now - throttle.ipWindowSeconds))
      (recent (throttle.failures (throttle.keys.normalize identifier) events)
        (now - throttle.accountWindowSeconds)) := by
  have htracked := tracked_after hhash h
  unfold decisionAfter
  rw [beginAttempt_decision]
  exact congrArg₂ throttle.decision (htracked.ip address).dropWhile_eq
    (htracked.account (throttle.keys.normalize identifier)).dropWhile_eq

/-! ## What does not concern a decision -/

/-- An attempt counts for its address when the limit of the address has room for it. -/
theorem attempts_snoc_of_order (hhash : Function.Injective throttle.keys.hexdigest)
    {clientAddress : String} (h : InOrder TimedCall.time events now) :
    throttle.attempts address (events ++ [⟨now, .beginAttempt clientAddress identifier⟩]) =
      if clientAddress = address ∧
        (recent (throttle.attempts clientAddress events) (now - throttle.ipWindowSeconds)).length <
          throttle.ipMaxAttempts then throttle.attempts address events ++ [now]
      else throttle.attempts address events := by
  have hroom : (throttle.decisionAfter events now clientAddress identifier).blockedBy ≠ some .ip ↔
      (recent (throttle.attempts clientAddress events) (now - throttle.ipWindowSeconds)).length <
        throttle.ipMaxAttempts := by
    rw [decisionAfter_eq hhash h, ne_eq, decision_ip, not_le]
  rw [attempts_beginAttempt]
  exact ite_congr (propext (and_congr_right fun _ => hroom)) (fun _ => rfl) fun _ => rfl

/-- A call that does not concern a decision is not counted for it. -/
theorem counted_of_not_concerns (events : List TimedCall)
    (hevent : ¬ throttle.Concerns address identifier event) :
    throttle.attempts address (events ++ [event]) = throttle.attempts address events ∧
      throttle.failures (throttle.keys.normalize identifier) (events ++ [event]) =
        throttle.failures (throttle.keys.normalize identifier) events := by
  obtain ⟨time, call⟩ := event
  rw [failures_snoc]
  cases call with
  | beginAttempt clientAddress other =>
    rw [attempts_beginAttempt, if_neg fun h => hevent h.1]
    exact ⟨rfl, rfl⟩
  | recordFailure other => exact ⟨attempts_recordFailure, if_neg hevent⟩
  | recordSuccess other => exact ⟨attempts_recordSuccess, if_neg hevent⟩

/-- A call that concerns a decision counts alike after two histories that count alike. -/
theorem counted_of_concerns (hhash : Function.Injective throttle.keys.hexdigest)
    {events' : List TimedCall} (h : InOrder TimedCall.time events event.time)
    (h' : InOrder TimedCall.time events' event.time)
    (hevent : throttle.Concerns address identifier event)
    (hattempts : throttle.attempts address events' = throttle.attempts address events)
    (hfailures : throttle.failures (throttle.keys.normalize identifier) events' =
      throttle.failures (throttle.keys.normalize identifier) events) :
    throttle.attempts address (events' ++ [event]) = throttle.attempts address (events ++ [event]) ∧
      throttle.failures (throttle.keys.normalize identifier) (events' ++ [event]) =
        throttle.failures (throttle.keys.normalize identifier) (events ++ [event]) := by
  obtain ⟨time, call⟩ := event
  rw [failures_snoc, failures_snoc, hfailures]
  refine ⟨?_, rfl⟩
  cases call with
  | beginAttempt clientAddress other =>
    obtain rfl : clientAddress = address := hevent
    rw [attempts_snoc_of_order hhash h, attempts_snoc_of_order hhash h', hattempts]
  | recordFailure other => rw [attempts_recordFailure, attempts_recordFailure, hattempts]
  | recordSuccess other => rw [attempts_recordSuccess, attempts_recordSuccess, hattempts]

/-- What the limits count, of the calls that concern a decision and of all calls, is the same. -/
theorem counted_concerns (hhash : Function.Injective throttle.keys.hexdigest)
    (address identifier : String) (h : InOrder TimedCall.time events now) :
    throttle.attempts address
      (events.filter fun event => throttle.Concerns address identifier event) =
        throttle.attempts address events ∧
      throttle.failures (throttle.keys.normalize identifier)
          (events.filter fun event => throttle.Concerns address identifier event) =
        throttle.failures (throttle.keys.normalize identifier) events := by
  induction events using List.reverseRecOn generalizing now with
  | nil => exact ⟨rfl, rfl⟩
  | append_singleton events event ih =>
    obtain ⟨hbefore, hlast⟩ := h.of_snoc
    obtain ⟨hattempts, hfailures⟩ := ih hbefore
    by_cases hevent : throttle.Concerns address identifier event
    · rw [List.filter_append, List.filter_cons_of_pos (by simpa using hevent), List.filter_nil]
      exact counted_of_concerns hhash hbefore (hbefore.sublist List.filter_sublist) hevent hattempts
        hfailures
    · rw [List.filter_append, List.filter_cons_of_neg (by simpa using hevent), List.filter_nil,
        List.append_nil, hattempts, hfailures]
      obtain ⟨hattempts', hfailures'⟩ := counted_of_not_concerns events hevent
      exact ⟨hattempts'.symm, hfailures'.symm⟩

/-- A decision depends on the calls that concern it, and on no others. -/
theorem decisionAfter_concerns (hhash : Function.Injective throttle.keys.hexdigest)
    (h : InOrder TimedCall.time events now) :
    throttle.decisionAfter (events.filter fun event => throttle.Concerns address identifier event)
      now address identifier = throttle.decisionAfter events now address identifier := by
  obtain ⟨hattempts, hfailures⟩ := counted_concerns hhash address identifier h
  rw [decisionAfter_eq hhash h, decisionAfter_eq hhash (h.sublist List.filter_sublist), hattempts,
    hfailures]

theorem attemptsFrom_sublist : (throttle.attemptsFrom address windows events).Sublist
    (events.map TimedCall.time) := by
  induction events generalizing windows with
  | nil => exact .slnil
  | cons event events ih =>
    unfold attemptsFrom
    cases event.call with
    | beginAttempt clientAddress identifier =>
      dsimp only
      split_ifs
      · exact ih.cons_cons _
      · exact ih.cons _
    | recordFailure identifier => exact ih.cons _
    | recordSuccess identifier => exact ih.cons _

theorem attempts_subset : throttle.attempts address events ⊆ events.map TimedCall.time :=
  attemptsFrom_sublist.subset

theorem failures_subset : throttle.failures account events ⊆ events.map TimedCall.time := by
  induction events using List.reverseRecOn with
  | nil => exact List.Subset.refl _
  | append_singleton events event ih =>
    rw [failures_snoc, List.map_append]
    have hearlier := List.subset_append_of_subset_left (List.map TimedCall.time [event]) ih
    cases event.call with
    | beginAttempt clientAddress identifier => exact hearlier
    | recordFailure identifier =>
      dsimp only
      split_ifs
      · exact List.append_subset.mpr ⟨hearlier, List.subset_append_right ..⟩
      · exact hearlier
    | recordSuccess identifier =>
      dsimp only
      split_ifs
      · exact List.nil_subset _
      · exact hearlier

/-- **Login throttling.** After any calls in the order of their times, an attempt is admitted when
its address and its account have room; the address is asked first, an attempt that only the account
refuses counts for the address, and calls for others are of no account. -/
theorem begin_attempt_exact (throttle : LoginThrottle)
    (hhash : Function.Injective throttle.keys.hexdigest) {events : List TimedCall} {now : ℚ}
    (horder : InOrder TimedCall.time events now) (address identifier : String) :
    let attempts := (throttle.attempts address events).countP fun e =>
      e ∈ Set.Ioc (now - throttle.ipWindowSeconds) now
    let failures := (throttle.failures (throttle.keys.normalize identifier) events).countP fun e =>
      e ∈ Set.Ioc (now - throttle.accountWindowSeconds) now
    let decision := throttle.decisionAfter events now address identifier
    (decision.allowed = true ↔
      attempts < throttle.ipMaxAttempts ∧ failures < throttle.accountMaxFailures) ∧
    (decision.blockedBy = some .ip ↔ throttle.ipMaxAttempts ≤ attempts) ∧
    (decision.blockedBy = some .account ↔
      attempts < throttle.ipMaxAttempts ∧ throttle.accountMaxFailures ≤ failures) ∧
    (decision.blockedBy = some .account →
      throttle.attempts address (events ++ [⟨now, .beginAttempt address identifier⟩]) =
        throttle.attempts address events ++ [now]) ∧
    throttle.decisionAfter (events.filter fun event => throttle.Concerns address identifier event)
      now address identifier = decision := by
  have hlate {e : ℚ} (he : e ∈ events.map TimedCall.time) : e ≤ now := by
    obtain ⟨event, hevent, rfl⟩ := List.mem_map.mp he
    exact horder.upTo event hevent
  dsimp only
  rw [← length_recent_of_upTo fun e he => hlate (attempts_subset he),
    ← length_recent_of_upTo fun e he => hlate (failures_subset he)]
  refine ⟨?_, ?_, ?_, fun haccount => ?_, decisionAfter_concerns hhash horder⟩
  · rw [decisionAfter_eq hhash horder, decision_allowed]
  · rw [decisionAfter_eq hhash horder, decision_ip]
  · rw [decisionAfter_eq hhash horder, decision_account]
  · exact attempts_beginAttempt.trans (if_pos ⟨rfl, by simp [haccount]⟩)

/-! ### One failure allowed -/

def oneFailureEach : LoginThrottle :=
  ⟨⟨id, id⟩, 2, 40, 1, 80, Nat.succ_pos 1, Nat.succ_pos 39, Nat.one_pos, Nat.succ_pos 79⟩

def failedLogin : List TimedCall :=
  [⟨0, .beginAttempt "10.0.0.1" "ada"⟩, ⟨1, .recordFailure "ada"⟩]

theorem failedLogin_order : InOrder TimedCall.time failedLogin 2 where
  pairwise := List.pairwise_pair.mpr (by decide)
  upTo := by decide

theorem begin_attempt_exact_failedLogin :
    (oneFailureEach.decisionAfter failedLogin 2 "10.0.0.1" "ada").allowed = true ↔
      ((oneFailureEach.attempts "10.0.0.1" failedLogin).countP fun e =>
        e ∈ Set.Ioc (2 - ((40 : ℕ) : ℚ)) 2) < 2 ∧
      ((oneFailureEach.failures (oneFailureEach.keys.normalize "ada") failedLogin).countP fun e =>
        e ∈ Set.Ioc (2 - ((80 : ℕ) : ℚ)) 2) < 1 :=
  (begin_attempt_exact oneFailureEach Function.injective_id failedLogin_order "10.0.0.1" "ada").1

end LoginThrottle

end OpsFlow.Auth
