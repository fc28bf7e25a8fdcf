import OpsFlow.Text
import OpsFlow.Library.SlidingWindow
import Mathlib.Data.Rat.Floor
import Mathlib.Logic.Function.Basic

namespace OpsFlow.Auth

/-! ## Sliding windows -/

/-- A dictionary of deques; a key that is not there has an empty one. -/
abbrev Buckets := String → List ℚ

/-- `_prune`: the entries at the front that are not after the cutoff are popped. -/
def prune (entries : List ℚ) (cutoff : ℚ) : List ℚ := entries.dropWhile fun e => decide (e ≤ cutoff)

/-- `_get_active_entries` stores the pruned deque, and the caller appends to it. -/
def Buckets.keep (storage : Buckets) (key : String) (now : ℚ) (windowSeconds : ℕ) : Buckets :=
  Function.update storage key (prune (storage key) (now - windowSeconds))

def Buckets.append (storage : Buckets) (key : String) (now : ℚ) : Buckets :=
  Function.update storage key (storage key ++ [now])

@[simp] theorem Buckets.keep_self (storage : Buckets) (key : String) (now : ℚ) (window : ℕ) :
    storage.keep key now window key = prune (storage key) (now - window) := Function.update_self ..

@[simp] theorem Buckets.append_self (storage : Buckets) (key : String) (now : ℚ) :
    storage.append key now key = storage key ++ [now] := Function.update_self ..

/-- Nothing after the cutoff is pruned. -/
theorem countP_prune (entries : List ℚ) (cutoff : ℚ) {p : ℚ → Bool}
    (h : ∀ e, p e = true → cutoff < e) : (prune entries cutoff).countP p = entries.countP p := by
  induction entries with
  | nil => rfl
  | cons e entries ih =>
    by_cases he : e ≤ cutoff
    · have hp : ¬ p e = true := fun hp => absurd (h e hp) (not_lt.mpr he)
      have hdrop : prune (e :: entries) cutoff = prune entries cutoff :=
        List.dropWhile_cons_of_pos (decide_eq_true he)
      rw [hdrop, ih, List.countP_cons_of_neg hp]
    · have hkeep : prune (e :: entries) cutoff = e :: entries :=
        List.dropWhile_cons_of_neg (by simpa using he)
      rw [hkeep]

theorem length_prune_le (entries : List ℚ) (cutoff : ℚ) :
    (prune entries cutoff).length ≤ entries.length :=
  (List.dropWhile_sublist _).length_le

section Windows

open SlidingWindow

variable {storage : Buckets} {key : String} {now : ℚ} {window : ℕ}

theorem Buckets.keep_of_ne {k : String} (h : k ≠ key) : storage.keep key now window k = storage k :=
  Function.update_of_ne h ..

theorem Buckets.append_of_ne {k : String} (h : k ≠ key) : storage.append key now k = storage k :=
  Function.update_of_ne h ..

/-- Pruning one deque leaves every deque what its log asks for. -/
theorem Buckets.keep_follows {k : String} {log : List ℚ}
    (h : Follows (storage k) log (now - window) now) :
    Follows (storage.keep key now window k) log (now - window) now := by
  by_cases hk : k = key
  · subst hk
    rw [keep_self]
    exact h.prune
  · rw [keep_of_ne hk]
    exact h

theorem Buckets.append_follows {k : String} {log : List ℚ} {cutoff : ℚ}
    (h : Follows (storage k) log cutoff now) :
    Follows (storage.append key now k) (if k = key then log ++ [now] else log) cutoff now := by
  by_cases hk : k = key
  · subst hk
    rw [append_self, if_pos rfl]
    exact h.snoc
  · rw [append_of_ne hk, if_neg hk]
    exact h

/-- Every deque has at most `capacity` entries, in order and not later than now. -/
def Buckets.AllHold (storage : Buckets) (capacity : ℕ) (now : ℚ) : Prop :=
  ∀ key, Holds (storage key) capacity now

theorem Buckets.AllHold.keep {capacity : ℕ} (h : storage.AllHold capacity now) :
    (storage.keep key now window).AllHold capacity now := by
  intro k
  by_cases hk : k = key
  · subst hk
    rw [keep_self]
    exact (h k).prune _
  · rw [keep_of_ne hk]
    exact h k

theorem Buckets.AllHold.append {capacity : ℕ} (h : storage.AllHold capacity now)
    (hroom : (storage key).length < capacity) : (storage.append key now).AllHold capacity now := by
  intro k
  by_cases hk : k = key
  · subst hk
    rw [append_self]
    exact (h k).snoc hroom
  · rw [append_of_ne hk]
    exact h k

end Windows

/-- How the throttles derive their keys: Python's `str.lower` and a keyed hash. -/
structure ThrottleKeys where
  lower : String → String
  hexdigest : String → String

def ThrottleKeys.normalize (keys : ThrottleKeys) (value : String) : String :=
  keys.lower (stripped pythonSpace value)

/-! ## Login attempts -/

inductive ThrottleReason
  | ip
  | account
  deriving DecidableEq

structure LoginThrottleDecision where
  allowed : Bool
  blockedBy : Option ThrottleReason := none
  deriving DecidableEq

structure LoginThrottle where
  keys : ThrottleKeys
  ipMaxAttempts : ℕ
  ipWindowSeconds : ℕ
  accountMaxFailures : ℕ
  accountWindowSeconds : ℕ
  ipMaxAttempts_pos : 0 < ipMaxAttempts
  ipWindowSeconds_pos : 0 < ipWindowSeconds
  accountMaxFailures_pos : 0 < accountMaxFailures
  accountWindowSeconds_pos : 0 < accountWindowSeconds

structure LoginWindows where
  ipAttempts : Buckets
  accountFailures : Buckets

def LoginWindows.empty : LoginWindows := ⟨fun _ => [], fun _ => []⟩

namespace LoginThrottle

def opaqueKey (throttle : LoginThrottle) (scope value : String) : String :=
  throttle.keys.hexdigest (scope ++ ":" ++ value)

def accountKey (throttle : LoginThrottle) (accountIdentifier : String) : String :=
  throttle.opaqueKey "account" (throttle.keys.normalize accountIdentifier)

def beginAttempt (throttle : LoginThrottle) (windows : LoginWindows) (now : ℚ)
    (clientAddress accountIdentifier : String) : LoginThrottleDecision × LoginWindows :=
  let ipKey := throttle.opaqueKey "ip" clientAddress
  let accountKey := throttle.accountKey accountIdentifier
  let ipAttempts := windows.ipAttempts.keep ipKey now throttle.ipWindowSeconds
  if throttle.ipMaxAttempts ≤ (ipAttempts ipKey).length then
    (⟨false, some .ip⟩, { windows with ipAttempts := ipAttempts })
  else
    -- the submission counts, also when the account is blocked
    let counted := ipAttempts.append ipKey now
    let accountFailures := windows.accountFailures.keep accountKey now throttle.accountWindowSeconds
    if throttle.accountMaxFailures ≤ (accountFailures accountKey).length then
      (⟨false, some .account⟩, ⟨counted, accountFailures⟩)
    else (⟨true, none⟩, ⟨counted, accountFailures⟩)

theorem beginAttempt_of_room {throttle : LoginThrottle} {windows : LoginWindows} {now : ℚ}
    {clientAddress identifier : String}
    (hip : (windows.ipAttempts (throttle.opaqueKey "ip" clientAddress)).length <
      throttle.ipMaxAttempts)
    (haccount : (windows.accountFailures (throttle.accountKey identifier)).length <
      throttle.accountMaxFailures) :
    throttle.beginAttempt windows now clientAddress identifier =
      (⟨true, none⟩,
        ⟨(windows.ipAttempts.keep (throttle.opaqueKey "ip" clientAddress) now
            throttle.ipWindowSeconds).append (throttle.opaqueKey "ip" clientAddress) now,
          windows.accountFailures.keep (throttle.accountKey identifier) now
            throttle.accountWindowSeconds⟩) := by
  have hips := length_prune_le (windows.ipAttempts (throttle.opaqueKey "ip" clientAddress))
    (now - throttle.ipWindowSeconds)
  have haccounts := length_prune_le (windows.accountFailures (throttle.accountKey identifier))
    (now - throttle.accountWindowSeconds)
  unfold beginAttempt
  simp only [Buckets.keep_self]
  rw [if_neg (by omega), if_neg (by omega)]

def recordFailure (throttle : LoginThrottle) (windows : LoginWindows) (now : ℚ)
    (accountIdentifier : String) : LoginWindows :=
  let accountKey := throttle.accountKey accountIdentifier
  { windows with
    accountFailures :=
      (windows.accountFailures.keep accountKey now throttle.accountWindowSeconds).append
        accountKey now }

def recordSuccess (throttle : LoginThrottle) (windows : LoginWindows)
    (accountIdentifier : String) : LoginWindows :=
  { windows with
    accountFailures :=
      Function.update windows.accountFailures (throttle.accountKey accountIdentifier) [] }

end LoginThrottle

/-! ## Requests for a password reset -/

inductive PasswordResetThrottleBlockReason
  | ip
  | account
  | ipAndAccount
  deriving DecidableEq

structure PasswordResetThrottleDecision where
  allowed : Bool
  blockedBy : Option PasswordResetThrottleBlockReason
  retryAfterSeconds : Option ℤ
  deriving DecidableEq

structure PasswordResetThrottle where
  keys : ThrottleKeys
  ipMaxRequests : ℕ
  ipWindowSeconds : ℕ
  accountMaxRequests : ℕ
  accountWindowSeconds : ℕ
  ipMaxRequests_pos : 0 < ipMaxRequests
  ipWindowSeconds_pos : 0 < ipWindowSeconds
  accountMaxRequests_pos : 0 < accountMaxRequests
  accountWindowSeconds_pos : 0 < accountWindowSeconds

structure PasswordResetWindows where
  ipRequests : Buckets
  accountRequests : Buckets

def PasswordResetWindows.empty : PasswordResetWindows := ⟨fun _ => [], fun _ => []⟩

/-- Python's `int` of a float. -/
def truncated (q : ℚ) : ℤ := if 0 ≤ q then q.floor else q.ceil

namespace PasswordResetThrottle

def normalizeClientAddress (throttle : PasswordResetThrottle) (clientAddress : String) : String :=
  let normalized := throttle.keys.normalize clientAddress
  if normalized = "" then "unknown" else normalized

def accountKey (throttle : PasswordResetThrottle) (accountIdentifier : String) : String :=
  throttle.keys.hexdigest (throttle.keys.normalize accountIdentifier)

def blockReason (ipBlocked accountBlocked : Bool) : PasswordResetThrottleBlockReason :=
  if ipBlocked ∧ accountBlocked then .ipAndAccount else if ipBlocked then .ip else .account

def remainingWindow (now : ℚ) (blocked : Bool) (bucket : List ℚ) (windowSeconds : ℕ) : List ℚ :=
  match blocked, bucket with
  | true, oldest :: _ => [oldest + windowSeconds - now]
  | _, _ => []

def retryAfter (throttle : PasswordResetThrottle) (now : ℚ) (ipBucket accountBucket : List ℚ)
    (ipBlocked accountBlocked : Bool) : ℤ :=
  match remainingWindow now ipBlocked ipBucket throttle.ipWindowSeconds ++
      remainingWindow now accountBlocked accountBucket throttle.accountWindowSeconds with
  | [] => 1
  | first :: rest =>
    let longestRemaining := rest.foldl max first
    let wholeSeconds := truncated longestRemaining
    max 1 (if (wholeSeconds : ℚ) < longestRemaining then wholeSeconds + 1 else wholeSeconds)

def checkAndRecord (throttle : PasswordResetThrottle) (windows : PasswordResetWindows) (now : ℚ)
    (clientAddress accountIdentifier : String) :
    PasswordResetThrottleDecision × PasswordResetWindows :=
  let ipKey := throttle.normalizeClientAddress clientAddress
  let accountKey := throttle.accountKey accountIdentifier
  let ipRequests := windows.ipRequests.keep ipKey now throttle.ipWindowSeconds
  let accountRequests := windows.accountRequests.keep accountKey now throttle.accountWindowSeconds
  let ipBlocked := decide (throttle.ipMaxRequests ≤ (ipRequests ipKey).length)
  let accountBlocked := decide (throttle.accountMaxRequests ≤ (accountRequests accountKey).length)
  if ipBlocked ∨ accountBlocked then
    -- a request that is denied is added to neither bucket
    (⟨false, some (blockReason ipBlocked accountBlocked),
      some (throttle.retryAfter now (ipRequests ipKey) (accountRequests accountKey) ipBlocked
        accountBlocked)⟩, ⟨ipRequests, accountRequests⟩)
  else
    (⟨true, none, none⟩, ⟨ipRequests.append ipKey now, accountRequests.append accountKey now⟩)

theorem one_le_retryAfter (throttle : PasswordResetThrottle) (now : ℚ) (ip account : List ℚ)
    (ipBlocked accountBlocked : Bool) :
    1 ≤ throttle.retryAfter now ip account ipBlocked accountBlocked := by
  unfold retryAfter
  split
  · exact le_refl 1
  · exact le_max_left _ _

end PasswordResetThrottle

end OpsFlow.Auth
