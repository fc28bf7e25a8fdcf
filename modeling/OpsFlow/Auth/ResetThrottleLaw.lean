import OpsFlow.Auth.Throttles
import Mathlib.Order.Interval.Set.Basic
import Mathlib.Tactic.Linarith

namespace OpsFlow.Auth

open SlidingWindow

structure ResetCall where
  time : ℚ
  clientAddress : String
  accountIdentifier : String
  deriving DecidableEq

def countIn (key : ResetCall → String) (value : String) (calls : List ResetCall)
    (interval : Set ℚ) [DecidablePred (· ∈ interval)] : ℕ :=
  calls.countP fun call => key call = value ∧ call.time ∈ interval

def timesOf (key : ResetCall → String) (value : String) (calls : List ResetCall) : List ℚ :=
  (calls.filter fun call => key call = value).map (·.time)

section Times

variable {key : ResetCall → String} {value : String} {calls : List ResetCall} {call : ResetCall}

theorem timesOf_snoc : timesOf key value (calls ++ [call]) =
    if value = key call then timesOf key value calls ++ [call.time]
    else timesOf key value calls := by
  unfold timesOf
  rw [List.filter_append, List.map_append]
  by_cases h : key call = value
  · rw [if_pos h.symm, List.filter_cons_of_pos (by simpa using h)]
    rfl
  · rw [if_neg (Ne.symm h), List.filter_cons_of_neg (by simpa using h)]
    exact List.append_nil _

theorem countIn_eq (interval : Set ℚ) [DecidablePred (· ∈ interval)] :
    countIn key value calls interval =
      (timesOf key value calls).countP fun e => decide (e ∈ interval) := by
  unfold countIn timesOf
  rw [List.countP_map, List.countP_filter]
  apply List.countP_congr
  intro call _
  simp [and_comm]

/-- Up to now, what lies in a window is what is recent. -/
theorem countIn_Ioc {cutoff now : ℚ} (h : ∀ call ∈ calls, call.time ≤ now) :
    countIn key value calls (Set.Ioc cutoff now) =
      (recent (timesOf key value calls) cutoff).length := by
  refine (countIn_eq _).trans (length_recent_of_upTo fun e he => ?_).symm
  obtain ⟨call, hcall, rfl⟩ := List.mem_map.mp he
  exact h call (List.mem_of_mem_filter hcall)

end Times

namespace PasswordResetThrottle

variable (throttle : PasswordResetThrottle)

def addressOf (call : ResetCall) : String := throttle.normalizeClientAddress call.clientAddress

def accountOf (call : ResetCall) : String := throttle.keys.normalize call.accountIdentifier

def perform (windows : PasswordResetWindows) (call : ResetCall) :
    PasswordResetThrottleDecision × PasswordResetWindows :=
  throttle.checkAndRecord windows call.time call.clientAddress call.accountIdentifier

def windowsAfter (calls : List ResetCall) : PasswordResetWindows :=
  calls.foldl (fun windows call => (throttle.perform windows call).2) .empty

def decisionAfter (calls : List ResetCall) (call : ResetCall) : PasswordResetThrottleDecision :=
  (throttle.perform (throttle.windowsAfter calls) call).1

def allowedFrom (windows : PasswordResetWindows) : List ResetCall → List ResetCall
  | [] => []
  | call :: calls =>
    let (decision, after) := throttle.perform windows call
    if decision.allowed then call :: allowedFrom after calls else allowedFrom after calls

/-- Those of the calls that were allowed, the first one being made on an empty throttle. -/
def allowedCalls (calls : List ResetCall) : List ResetCall := throttle.allowedFrom .empty calls

/-! ## One call -/

/-- The answer, from the two buckets as they are after pruning. -/
def decision (now : ℚ) (ipBucket accountBucket : List ℚ) : PasswordResetThrottleDecision :=
  let ipBlocked := decide (throttle.ipMaxRequests ≤ ipBucket.length)
  let accountBlocked := decide (throttle.accountMaxRequests ≤ accountBucket.length)
  if ipBlocked ∨ accountBlocked then
    ⟨false, some (blockReason ipBlocked accountBlocked),
      some (throttle.retryAfter now ipBucket accountBucket ipBlocked accountBlocked)⟩
  else ⟨true, none, none⟩

variable {throttle} {windows : PasswordResetWindows} {call : ResetCall} {now : ℚ}

theorem decision_allowed {ipBucket accountBucket : List ℚ} :
    (throttle.decision now ipBucket accountBucket).allowed = true ↔
      ipBucket.length < throttle.ipMaxRequests ∧
        accountBucket.length < throttle.accountMaxRequests := by
  simp only [decision, decide_eq_true_eq]
  split_ifs with hblocked
  · simp only [false_iff]
    omega
  · simp only [true_iff]
    omega

def ipBucket (throttle : PasswordResetThrottle) (windows : PasswordResetWindows)
    (call : ResetCall) : List ℚ :=
  prune (windows.ipRequests (throttle.addressOf call)) (call.time - throttle.ipWindowSeconds)

def accountBucket (throttle : PasswordResetThrottle) (windows : PasswordResetWindows)
    (call : ResetCall) : List ℚ :=
  prune (windows.accountRequests (throttle.keys.hexdigest (throttle.accountOf call)))
    (call.time - throttle.accountWindowSeconds)

theorem perform_decision : (throttle.perform windows call).1 =
    throttle.decision call.time (throttle.ipBucket windows call)
      (throttle.accountBucket windows call) := by
  unfold perform checkAndRecord decision
  simp only [Buckets.keep_self]
  exact apply_ite Prod.fst ..

/-- The windows without and with the call. -/
theorem perform_windows (throttle : PasswordResetThrottle) (windows : PasswordResetWindows)
    (call : ResetCall) :
    let ipKey := throttle.addressOf call
    let accountKey := throttle.keys.hexdigest (throttle.accountOf call)
    let ipRequests := windows.ipRequests.keep ipKey call.time throttle.ipWindowSeconds
    let accountRequests :=
      windows.accountRequests.keep accountKey call.time throttle.accountWindowSeconds
    (throttle.perform windows call).2 =
      if (throttle.perform windows call).1.allowed then
        ⟨ipRequests.append ipKey call.time, accountRequests.append accountKey call.time⟩
      else ⟨ipRequests, accountRequests⟩ := by
  unfold perform checkAndRecord
  dsimp only
  split
  · rfl
  · rfl

theorem windowsAfter_snoc (calls : List ResetCall) (call : ResetCall) :
    throttle.windowsAfter (calls ++ [call]) =
      (throttle.perform (throttle.windowsAfter calls) call).2 := by
  unfold windowsAfter
  rw [List.foldl_append]
  rfl

theorem allowedFrom_snoc (windows : PasswordResetWindows) (calls : List ResetCall)
    (call : ResetCall) :
    throttle.allowedFrom windows (calls ++ [call]) = throttle.allowedFrom windows calls ++
      if (throttle.perform (calls.foldl (fun windows call => (throttle.perform windows call).2)
        windows) call).1.allowed then [call] else [] := by
  induction calls generalizing windows with
  | nil => rfl
  | cons first calls ih =>
    simp only [List.cons_append, allowedFrom, List.foldl_cons, ih]
    split
    · rfl
    · rfl

theorem allowedCalls_snoc (calls : List ResetCall) (call : ResetCall) :
    throttle.allowedCalls (calls ++ [call]) = throttle.allowedCalls calls ++
      if (throttle.decisionAfter calls call).allowed then [call] else [] :=
  allowedFrom_snoc .empty calls call

/-! ## The buckets and the calls that were allowed -/

/-- Each bucket follows the calls that were allowed for its key. -/
structure Tracked (throttle : PasswordResetThrottle) (windows : PasswordResetWindows)
    (allowed : List ResetCall) (now : ℚ) : Prop where
  ip : ∀ address, Follows (windows.ipRequests address) (timesOf throttle.addressOf address allowed)
    (now - throttle.ipWindowSeconds) now
  account : ∀ account, Follows (windows.accountRequests (throttle.keys.hexdigest account))
    (timesOf throttle.accountOf account allowed) (now - throttle.accountWindowSeconds) now

theorem Tracked.empty (throttle : PasswordResetThrottle) (now : ℚ) :
    Tracked throttle .empty [] now :=
  ⟨fun _ => .nil, fun _ => .nil⟩

variable {allowed calls : List ResetCall}

theorem Tracked.later {now' : ℚ} (h : Tracked throttle windows allowed now) (hnow : now ≤ now') :
    Tracked throttle windows allowed now' where
  ip address := (h.ip address).later (by linarith) hnow
  account account := (h.account account).later (by linarith) hnow

theorem Tracked.ipBucket_eq (h : Tracked throttle windows allowed call.time) :
    throttle.ipBucket windows call = recent (timesOf throttle.addressOf (throttle.addressOf call)
      allowed) (call.time - throttle.ipWindowSeconds) :=
  (h.ip _).dropWhile_eq

theorem Tracked.accountBucket_eq (h : Tracked throttle windows allowed call.time) :
    throttle.accountBucket windows call = recent (timesOf throttle.accountOf
      (throttle.accountOf call) allowed) (call.time - throttle.accountWindowSeconds) :=
  (h.account _).dropWhile_eq

theorem Tracked.perform (hhash : Function.Injective throttle.keys.hexdigest)
    (h : Tracked throttle windows allowed call.time) :
    Tracked throttle (throttle.perform windows call).2
      (allowed ++ if (throttle.perform windows call).1.allowed then [call] else []) call.time := by
  rw [perform_windows]
  by_cases hallowed : (throttle.perform windows call).1.allowed = true
  · simp only [if_pos hallowed]
    refine ⟨fun address => ?_, fun account => ?_⟩
    · rw [timesOf_snoc]
      exact Buckets.append_follows (Buckets.keep_follows (h.ip address))
    · have hkey : throttle.keys.hexdigest account =
          throttle.keys.hexdigest (throttle.accountOf call) ↔ account = throttle.accountOf call :=
        hhash.eq_iff
      rw [timesOf_snoc, ← ite_congr (propext hkey) (fun _ => rfl) fun _ => rfl]
      exact Buckets.append_follows (Buckets.keep_follows (h.account account))
  · simp only [if_neg hallowed, List.append_nil]
    exact ⟨fun address => Buckets.keep_follows (h.ip address),
      fun account => Buckets.keep_follows (h.account account)⟩

/-- After every run, each bucket follows the calls that were allowed for its key. -/
theorem tracked_after (hhash : Function.Injective throttle.keys.hexdigest)
    (h : InOrder ResetCall.time calls now) :
    Tracked throttle (throttle.windowsAfter calls) (throttle.allowedCalls calls) now := by
  induction calls using List.reverseRecOn generalizing now with
  | nil => exact .empty throttle now
  | append_singleton calls call ih =>
    rw [windowsAfter_snoc, allowedCalls_snoc]
    have hcall : call.time ≤ now := h.of_snoc.2
    exact ((ih (.of_append h.pairwise)).perform hhash).later hcall

theorem allowedCalls_subset : throttle.allowedCalls calls ⊆ calls := by
  induction calls using List.reverseRecOn with
  | nil => exact List.Subset.refl _
  | append_singleton calls call ih =>
    rw [allowedCalls_snoc]
    refine List.append_subset.mpr ⟨List.Subset.trans ih (List.subset_append_left ..), ?_⟩
    split_ifs
    · exact List.subset_append_right ..
    · exact List.nil_subset _

/-- The answer, from the calls that were allowed so far. -/
theorem decisionAfter_eq (hhash : Function.Injective throttle.keys.hexdigest)
    (h : InOrder ResetCall.time calls call.time) :
    throttle.decisionAfter calls call = throttle.decision call.time
      (recent (timesOf throttle.addressOf (throttle.addressOf call) (throttle.allowedCalls calls))
        (call.time - throttle.ipWindowSeconds))
      (recent (timesOf throttle.accountOf (throttle.accountOf call) (throttle.allowedCalls calls))
        (call.time - throttle.accountWindowSeconds)) := by
  have htracked := tracked_after hhash h
  unfold decisionAfter
  rw [perform_decision, htracked.ipBucket_eq, htracked.accountBucket_eq]

/-- A call is allowed when both of its windows have room. -/
theorem decisionAfter_allowed (hhash : Function.Injective throttle.keys.hexdigest)
    (h : InOrder ResetCall.time calls call.time) :
    (throttle.decisionAfter calls call).allowed = true ↔
      countIn throttle.addressOf (throttle.addressOf call) (throttle.allowedCalls calls)
        (Set.Ioc (call.time - throttle.ipWindowSeconds) call.time) < throttle.ipMaxRequests ∧
      countIn throttle.accountOf (throttle.accountOf call) (throttle.allowedCalls calls)
        (Set.Ioc (call.time - throttle.accountWindowSeconds) call.time) <
          throttle.accountMaxRequests := by
  have hlate : ∀ c ∈ throttle.allowedCalls calls, c.time ≤ call.time :=
    fun c hc => h.upTo c (allowedCalls_subset hc)
  rw [decisionAfter_eq hhash h, decision_allowed, countIn_Ioc hlate, countIn_Ioc hlate]

/-- The calls that are allowed are those of the sequence without a call that is denied. -/
theorem allowedCalls_denied (hhash : Function.Injective throttle.keys.hexdigest)
    {before after : List ResetCall} (h : InOrder ResetCall.time (before ++ call :: after) now)
    (hdenied : (throttle.decisionAfter before call).allowed = false) :
    throttle.allowedCalls (before ++ call :: after) = throttle.allowedCalls (before ++ after) := by
  induction after using List.reverseRecOn generalizing now with
  | nil =>
    rw [allowedCalls_snoc, hdenied, List.append_nil]
    exact List.append_nil _
  | append_singleton after next ih =>
    rw [← List.cons_append, ← List.append_assoc] at h ⊢
    rw [← List.append_assoc]
    have horder : InOrder ResetCall.time (before ++ call :: after) next.time :=
      .of_append h.pairwise
    -- without the call, the sequence is in order all the more
    have hless : (before ++ after).Sublist (before ++ call :: after) :=
      (List.sublist_cons_self call after).append_left before
    have horder' : InOrder ResetCall.time (before ++ after) next.time := horder.sublist hless
    have hallowed := ih horder
    rw [allowedCalls_snoc, allowedCalls_snoc, hallowed, decisionAfter_eq hhash horder,
      decisionAfter_eq hhash horder', hallowed]

/-! ## No window overflows -/

/-- Where every call that was allowed had found room among those of its own key, each
of them had. -/
theorem admitted_of_room {key : ResetCall → String} {window : ℚ} {capacity : ℕ}
    (hroom : ∀ calls call, InOrder ResetCall.time calls call.time →
      (throttle.decisionAfter calls call).allowed = true →
        (recent (timesOf key (key call) (throttle.allowedCalls calls))
          (call.time - window)).length <
          capacity) (value : String) (h : InOrder ResetCall.time calls now) :
    Admitted window capacity (timesOf key value (throttle.allowedCalls calls)) := by
  induction calls using List.reverseRecOn generalizing now with
  | nil => exact .nil
  | append_singleton calls call ih =>
    have horder : InOrder ResetCall.time calls call.time := .of_append h.pairwise
    rw [allowedCalls_snoc]
    split_ifs with hallowed
    · rw [timesOf_snoc]
      split_ifs with hkey
      · subst hkey
        exact (ih horder).snoc (hroom calls call horder hallowed)
      · exact ih horder
    · rw [List.append_nil]
      exact ih horder

theorem admitted_ip (hhash : Function.Injective throttle.keys.hexdigest) (address : String)
    (h : InOrder ResetCall.time calls now) :
    Admitted (throttle.ipWindowSeconds : ℚ) throttle.ipMaxRequests
      (timesOf throttle.addressOf address (throttle.allowedCalls calls)) := by
  refine admitted_of_room (fun calls call horder hallowed => ?_) address h
  rw [decisionAfter_eq hhash horder, decision_allowed] at hallowed
  exact hallowed.1

theorem admitted_account (hhash : Function.Injective throttle.keys.hexdigest) (account : String)
    (h : InOrder ResetCall.time calls now) :
    Admitted (throttle.accountWindowSeconds : ℚ) throttle.accountMaxRequests
      (timesOf throttle.accountOf account (throttle.allowedCalls calls)) := by
  refine admitted_of_room (fun calls call horder hallowed => ?_) account h
  rw [decisionAfter_eq hhash horder, decision_allowed] at hallowed
  exact hallowed.2

/-- No window of the length, closed at one of its ends, holds more calls than it may. -/
theorem countIn_window_le {key : ResetCall → String} {value : String} {window : ℚ} {capacity : ℕ}
    (h : Admitted window capacity (timesOf key value calls)) (start : ℚ) :
    countIn key value calls (Set.Ico start (start + window)) ≤ capacity ∧
      countIn key value calls (Set.Ioc start (start + window)) ≤ capacity := by
  rw [countIn_eq, countIn_eq, List.countP_eq_length_filter, List.countP_eq_length_filter]
  constructor
  · apply h.length_filter_le
    intro e t he ht
    obtain ⟨hstart, -⟩ := of_decide_eq_true he
    obtain ⟨-, hend⟩ := of_decide_eq_true ht
    linarith
  · apply h.length_filter_le
    intro e t he ht
    obtain ⟨hstart, -⟩ := of_decide_eq_true he
    obtain ⟨-, hend⟩ := of_decide_eq_true ht
    linarith

/-- The throttle decides by the calls that it has allowed: a call passes when both of its windows
have room, one that is denied leaves no trace in any later answer, and no window overflows. -/
theorem check_and_record_exact (throttle : PasswordResetThrottle)
    (hhash : Function.Injective throttle.keys.hexdigest) {calls : List ResetCall}
    (horder : calls.Pairwise fun first second => first.time ≤ second.time) :
    (∀ before call after, calls = before ++ call :: after →
      ((throttle.decisionAfter before call).allowed = true ↔
        countIn throttle.addressOf (throttle.addressOf call) (throttle.allowedCalls before)
          (Set.Ioc (call.time - throttle.ipWindowSeconds) call.time) < throttle.ipMaxRequests ∧
        countIn throttle.accountOf (throttle.accountOf call) (throttle.allowedCalls before)
          (Set.Ioc (call.time - throttle.accountWindowSeconds) call.time) <
            throttle.accountMaxRequests)) ∧
    (∀ before call later next after, calls = before ++ call :: (later ++ next :: after) →
      (throttle.decisionAfter before call).allowed = false →
        throttle.decisionAfter (before ++ call :: later) next =
          throttle.decisionAfter (before ++ later) next) ∧
    (∀ address start,
      countIn throttle.addressOf address (throttle.allowedCalls calls)
        (Set.Ico start (start + throttle.ipWindowSeconds)) ≤ throttle.ipMaxRequests ∧
      countIn throttle.addressOf address (throttle.allowedCalls calls)
        (Set.Ioc start (start + throttle.ipWindowSeconds)) ≤ throttle.ipMaxRequests) ∧
    ∀ account start,
      countIn throttle.accountOf account (throttle.allowedCalls calls)
        (Set.Ico start (start + throttle.accountWindowSeconds)) ≤ throttle.accountMaxRequests ∧
      countIn throttle.accountOf account (throttle.allowedCalls calls)
        (Set.Ioc start (start + throttle.accountWindowSeconds)) ≤ throttle.accountMaxRequests := by
  refine ⟨?_, ?_, fun address start => ?_, fun account start => ?_⟩
  · rintro before call after rfl
    exact decisionAfter_allowed hhash (.of_append horder)
  · rintro before call later next after rfl hdenied
    rw [← List.cons_append, ← List.append_assoc] at horder
    have hlate : InOrder ResetCall.time (before ++ call :: later) next.time := .of_append horder
    have hless : (before ++ later).Sublist (before ++ call :: later) :=
      (List.sublist_cons_self call later).append_left before
    have hlate' : InOrder ResetCall.time (before ++ later) next.time := hlate.sublist hless
    rw [decisionAfter_eq hhash hlate, decisionAfter_eq hhash hlate',
      allowedCalls_denied hhash hlate hdenied]
  · obtain ⟨now, hnow⟩ := exists_inOrder horder
    exact countIn_window_le (admitted_ip hhash address hnow) start
  · obtain ⟨now, hnow⟩ := exists_inOrder horder
    exact countIn_window_le (admitted_account hhash account hnow) start

/-! ### Two calls from one address -/

def oneEach : PasswordResetThrottle :=
  ⟨⟨id, id⟩, 1, 45, 2, 90, Nat.one_pos, Nat.succ_pos 44, Nat.two_pos, Nat.succ_pos 89⟩

def adaCall : ResetCall := ⟨0, "10.0.0.1", "ada"⟩

def bobCall : ResetCall := ⟨1, "10.0.0.1", "bob"⟩

theorem adaCall_bobCall_order :
    ([adaCall] ++ [bobCall]).Pairwise fun first second => first.time ≤ second.time := by
  refine List.pairwise_pair.mpr ?_
  decide

theorem check_and_record_exact_bobCall :
    (oneEach.decisionAfter [adaCall] bobCall).allowed = true ↔
      countIn oneEach.addressOf (oneEach.addressOf bobCall) (oneEach.allowedCalls [adaCall])
        (Set.Ioc (bobCall.time - (45 : ℕ)) bobCall.time) < 1 ∧
      countIn oneEach.accountOf (oneEach.accountOf bobCall) (oneEach.allowedCalls [adaCall])
        (Set.Ioc (bobCall.time - (90 : ℕ)) bobCall.time) < 2 :=
  (check_and_record_exact oneEach Function.injective_id adaCall_bobCall_order).1 [adaCall] bobCall
    [] rfl

/-! ## When a retry makes sense -/

/-- Every bucket is in order and has no more entries than it may have. -/
structure Stocked (throttle : PasswordResetThrottle) (windows : PasswordResetWindows) (now : ℚ) :
    Prop where
  ip : windows.ipRequests.AllHold throttle.ipMaxRequests now
  account : windows.accountRequests.AllHold throttle.accountMaxRequests now

theorem Stocked.empty (throttle : PasswordResetThrottle) (now : ℚ) :
    Stocked throttle .empty now :=
  ⟨fun _ => .nil, fun _ => .nil⟩

theorem Stocked.later {now' : ℚ} (h : Stocked throttle windows now) (hnow : now ≤ now') :
    Stocked throttle windows now' :=
  ⟨fun key => (h.ip key).later hnow, fun key => (h.account key).later hnow⟩

theorem Stocked.perform (h : Stocked throttle windows call.time) :
    Stocked throttle (throttle.perform windows call).2 call.time := by
  rw [perform_windows]
  split_ifs with hallowed
  · rw [perform_decision, decision_allowed] at hallowed
    obtain ⟨hip, haccount⟩ := hallowed
    refine ⟨h.ip.keep.append ?_, h.account.keep.append ?_⟩
    · rw [Buckets.keep_self]
      exact hip
    · rw [Buckets.keep_self]
      exact haccount
  · exact ⟨h.ip.keep, h.account.keep⟩

theorem stocked_after (h : InOrder ResetCall.time calls now) :
    Stocked throttle (throttle.windowsAfter calls) now := by
  induction calls using List.reverseRecOn generalizing now with
  | nil => exact .empty throttle now
  | append_singleton calls call ih =>
    rw [windowsAfter_snoc]
    have hcall : call.time ≤ now := h.of_snoc.2
    exact ((ih (.of_append h.pairwise)).perform).later hcall

/-- Python's `int`, made one greater where it has cut something off, rounds upward. -/
theorem truncated_up (q : ℚ) :
    (if (truncated q : ℚ) < q then truncated q + 1 else truncated q) = ⌈q⌉ := by
  unfold truncated
  have hfloor : q.floor = ⌊q⌋ := rfl
  have hceil : q.ceil = ⌈q⌉ := Rat.ceil_eq_neg_floor_neg q
  rw [hfloor, hceil]
  symm
  split_ifs with hpos hless hless
  · rw [Int.ceil_eq_iff]
    push_cast
    exact ⟨by linarith, (Int.lt_floor_add_one q).le⟩
  · rw [Int.ceil_eq_iff]
    exact ⟨by linarith [Int.floor_le q], not_lt.mp hless⟩
  · exact absurd (Int.le_ceil q) (not_le.mpr hless)
  · rfl

theorem foldl_max_le_iff {first bound : ℚ} {rest : List ℚ} :
    rest.foldl max first ≤ bound ↔ ∀ q ∈ first :: rest, q ≤ bound := by
  induction rest generalizing first with
  | nil => simp
  | cons next rest ih =>
    rw [List.foldl_cons, ih]
    simp only [List.forall_mem_cons, max_le_iff, and_assoc]

/-- The whole number of seconds after which every blocked bucket has let its oldest entry go. -/
theorem retryAfter_le_iff {ip account : List ℚ} {ipBlocked accountBlocked : Bool} {seconds : ℤ}
    (hpos : 1 ≤ seconds) :
    throttle.retryAfter now ip account ipBlocked accountBlocked ≤ seconds ↔
      ∀ q ∈ remainingWindow now ipBlocked ip throttle.ipWindowSeconds ++
        remainingWindow now accountBlocked account throttle.accountWindowSeconds,
          q ≤ seconds := by
  unfold retryAfter
  split
  · rename_i hnone
    rw [hnone]
    exact iff_of_true hpos nofun
  · rename_i first rest hsome
    dsimp only
    rw [hsome, truncated_up, ← foldl_max_le_iff, max_le_iff, Int.ceil_le]
    exact and_iff_right hpos

/-- A bucket has room at the first moment at which its oldest entry is outside the window. -/
theorem prune_room_iff {bucket : List ℚ} {capacity window : ℕ} {later : ℚ}
    (h : Holds bucket capacity now) (hcapacity : 0 < capacity) :
    (prune bucket (later - window)).length < capacity ↔
      ∀ q ∈ remainingWindow now (decide (capacity ≤ bucket.length)) bucket window,
        q ≤ later - now := by
  by_cases hfull : capacity ≤ bucket.length
  · obtain _ | ⟨oldest, rest⟩ := bucket
    · exact absurd hfull (not_le.mpr hcapacity)
    · rw [decide_eq_true hfull]
      refine (h.room_iff hfull).trans ?_
      simp only [remainingWindow, List.forall_mem_singleton]
      constructor
      · intro hold
        linarith
      · intro hq
        linarith
  · rw [decide_eq_false hfull]
    refine iff_of_true ?_ nofun
    exact (length_prune_le bucket _).trans_lt (not_le.mp hfull)

def remaining (throttle : PasswordResetThrottle) (windows : PasswordResetWindows)
    (call : ResetCall) : List ℚ :=
  remainingWindow call.time
    (decide (throttle.ipMaxRequests ≤ (throttle.ipBucket windows call).length))
    (throttle.ipBucket windows call) throttle.ipWindowSeconds ++
  remainingWindow call.time
    (decide (throttle.accountMaxRequests ≤ (throttle.accountBucket windows call).length))
    (throttle.accountBucket windows call) throttle.accountWindowSeconds

/-- Made again, a call that was denied is allowed when everything that it waits for is over. -/
theorem perform_again (h : Stocked throttle windows call.time)
    (hdenied : (throttle.perform windows call).1.allowed = false) (later : ℚ) :
    (throttle.perform (throttle.perform windows call).2 { call with time := later }).1.allowed =
      true ↔ ∀ q ∈ throttle.remaining windows call, q ≤ later - call.time := by
  have hwindows := perform_windows throttle windows call
  dsimp only at hwindows
  rw [if_neg (by rw [hdenied]; exact Bool.false_ne_true)] at hwindows
  have hholds : Holds (throttle.ipBucket windows call) throttle.ipMaxRequests call.time :=
    (h.ip _).prune _
  have hholds' :
      Holds (throttle.accountBucket windows call) throttle.accountMaxRequests call.time :=
    (h.account _).prune _
  have hip : throttle.ipBucket (throttle.perform windows call).2 { call with time := later } =
      prune (throttle.ipBucket windows call) (later - throttle.ipWindowSeconds) := by
    rw [hwindows]
    exact congrArg (prune · _) (Buckets.keep_self ..)
  have haccount :
      throttle.accountBucket (throttle.perform windows call).2 { call with time := later } =
        prune (throttle.accountBucket windows call) (later - throttle.accountWindowSeconds) := by
    rw [hwindows]
    exact congrArg (prune · _) (Buckets.keep_self ..)
  rw [perform_decision, decision_allowed, hip, haccount,
    prune_room_iff hholds throttle.ipMaxRequests_pos,
    prune_room_iff hholds' throttle.accountMaxRequests_pos]
  exact List.forall_mem_append.symm

/-- A denial names the least whole number of seconds in which everything waited for is over. -/
theorem perform_denied (h : (throttle.perform windows call).1.allowed = false) :
    ∃ seconds : ℤ, (throttle.perform windows call).1.retryAfterSeconds = some seconds ∧
      1 ≤ seconds ∧ ∀ enough : ℤ, 1 ≤ enough →
        (seconds ≤ enough ↔ ∀ q ∈ throttle.remaining windows call, q ≤ enough) := by
  rw [perform_decision] at h ⊢
  unfold decision at h ⊢
  dsimp only at h ⊢
  split at h
  · rename_i hblocked
    rw [if_pos hblocked]
    exact ⟨_, rfl, throttle.one_le_retryAfter _ _ _ _ _, fun _ => retryAfter_le_iff⟩
  · exact absurd h.symm Bool.false_ne_true

/-- **Retry-After.** After the seconds that a denial names, the call is allowed whenever it is made;
one whole second or more before that, it is denied again. -/
theorem retry_after_honest_least (throttle : PasswordResetThrottle) {calls : List ResetCall}
    {call : ResetCall}
    (horder : (calls ++ [call]).Pairwise fun first second => first.time ≤ second.time)
    (hdenied : (throttle.decisionAfter calls call).allowed = false) :
    ∃ seconds : ℤ, (throttle.decisionAfter calls call).retryAfterSeconds = some seconds ∧
      1 ≤ seconds ∧
      (∀ later, call.time + seconds ≤ later → (throttle.decisionAfter (calls ++ [call])
        { call with time := later }).allowed = true) ∧
      ∀ fewer : ℤ, 1 ≤ fewer → fewer < seconds → (throttle.decisionAfter (calls ++ [call])
        { call with time := call.time + fewer }).allowed = false := by
  have hstocked : Stocked throttle (throttle.windowsAfter calls) call.time :=
    stocked_after (.of_append horder)
  have hagain (later : ℚ) :
      (throttle.decisionAfter (calls ++ [call]) { call with time := later }).allowed = true ↔
        ∀ q ∈ throttle.remaining (throttle.windowsAfter calls) call, q ≤ later - call.time := by
    rw [decisionAfter, windowsAfter_snoc]
    exact perform_again hstocked hdenied later
  obtain ⟨seconds, hseconds, hone, hleast⟩ := perform_denied hdenied
  refine ⟨seconds, hseconds, hone, fun later hlater => ?_, fun fewer hfewer hless => ?_⟩
  · have hover := (hleast seconds hone).mp le_rfl
    refine (hagain later).mpr fun q hq => (hover q hq).trans ?_
    linarith
  · rw [← Bool.not_eq_true, hagain]
    intro hover
    refine absurd hless (not_lt.mpr ((hleast fewer hfewer).mpr fun q hq => ?_))
    exact (hover q hq).trans_eq (add_sub_cancel_left ..)

theorem bobCall_denied : (oneEach.decisionAfter [adaCall] bobCall).allowed = false := by
  decide +kernel

theorem retry_after_bobCall :
    ∃ seconds : ℤ, (oneEach.decisionAfter [adaCall] bobCall).retryAfterSeconds = some seconds ∧
      1 ≤ seconds ∧
      (∀ later, bobCall.time + seconds ≤ later → (oneEach.decisionAfter ([adaCall] ++ [bobCall])
        { bobCall with time := later }).allowed = true) ∧
      ∀ fewer : ℤ, 1 ≤ fewer → fewer < seconds → (oneEach.decisionAfter ([adaCall] ++ [bobCall])
        { bobCall with time := bobCall.time + fewer }).allowed = false :=
  retry_after_honest_least oneEach adaCall_bobCall_order bobCall_denied

end PasswordResetThrottle

end OpsFlow.Auth
