import OpsFlow.Auth.Throttles
import OpsFlow.Library.Transition
import Mathlib.Tactic.Linarith

namespace OpsFlow.Auth
open Transition

/-! ## Logins of one account, at the same time -/

inductive LoginPhase
  | admitted
  | refuted
  | accepted
  deriving DecidableEq

/-- A login under way, with the account as its user has written it. -/
structure LoginFlight where
  accountIdentifier : String
  phase : LoginPhase

/-- `failures` are the moments at which a password has been found wrong, and `successes` those at
which a success has been recorded. -/
structure LoginRace where
  windows : LoginWindows
  now : ℚ
  inFlight : List LoginFlight
  failures : List ℚ
  successes : List ℚ

def LoginRace.start : LoginRace := ⟨.empty, 0, [], [], []⟩

inductive LoginAction
  | tick (now : ℚ)
  | begin (clientAddress accountIdentifier : String)
  | refute
  | accept
  | recordFailure
  | recordSuccess
  | abandon

variable {throttle : LoginThrottle} {account : String} {s s' : LoginRace} {a : LoginAction}

/-- One step of one of the logins of an account. A login is abandoned by an error that is neither a
wrong password nor a right one. -/
inductive LoginRace.Step (throttle : LoginThrottle) (account : String) :
    LoginRace → LoginAction → LoginRace → Prop
  | tick {s : LoginRace} {now : ℚ} : s.now ≤ now →
    Step throttle account s (.tick now) { s with now := now }
  | blocked {s : LoginRace} {clientAddress identifier : String} {windows : LoginWindows}
      {reason : Option ThrottleReason} :
        throttle.accountKey identifier = throttle.accountKey account →
      throttle.beginAttempt s.windows s.now clientAddress identifier = (⟨false, reason⟩, windows) →
      Step throttle account s (.begin clientAddress identifier) { s with windows := windows }
  | admitted {s : LoginRace} {clientAddress identifier : String} {windows : LoginWindows}
      {reason : Option ThrottleReason} :
        throttle.accountKey identifier = throttle.accountKey account →
      throttle.beginAttempt s.windows s.now clientAddress identifier = (⟨true, reason⟩, windows) →
      Step throttle account s (.begin clientAddress identifier)
        { s with windows := windows, inFlight := ⟨identifier, .admitted⟩ :: s.inFlight }
  | refute {s : LoginRace} {before after : List LoginFlight} {identifier : String} :
      s.inFlight = before ++ ⟨identifier, .admitted⟩ :: after →
      Step throttle account s .refute
        { s with
          inFlight := before ++ ⟨identifier, .refuted⟩ :: after
          failures := s.now :: s.failures }
  | accept {s : LoginRace} {before after : List LoginFlight} {identifier : String} :
      s.inFlight = before ++ ⟨identifier, .admitted⟩ :: after →
      Step throttle account s .accept
        { s with inFlight := before ++ ⟨identifier, .accepted⟩ :: after }
  | recordFailure {s : LoginRace} {before after : List LoginFlight} {identifier : String} :
      s.inFlight = before ++ ⟨identifier, .refuted⟩ :: after →
      Step throttle account s .recordFailure
        { s with
          windows := throttle.recordFailure s.windows s.now identifier
          inFlight := before ++ after }
  | recordSuccess {s : LoginRace} {before after : List LoginFlight} {identifier : String} :
      s.inFlight = before ++ ⟨identifier, .accepted⟩ :: after →
      Step throttle account s .recordSuccess
        { s with
          windows := throttle.recordSuccess s.windows identifier
          inFlight := before ++ after
          successes := s.now :: s.successes }
  | abandon {s : LoginRace} {before after : List LoginFlight} {identifier : String} :
      s.inFlight = before ++ ⟨identifier, .admitted⟩ :: after →
      Step throttle account s .abandon { s with inFlight := before ++ after }

/-- In every window without a success at most `account_max_failures` passwords are found wrong. -/
def LoginRace.Bounded (throttle : LoginThrottle) (s : LoginRace) : Prop :=
  ∀ t₀ : ℚ, (∀ t ∈ s.successes, ¬ (t₀ ≤ t ∧ t < t₀ + throttle.accountWindowSeconds)) →
    (s.failures.countP fun t => t₀ ≤ t ∧ t < t₀ + throttle.accountWindowSeconds) ≤
      throttle.accountMaxFailures

def LoginRace.activeFailures (throttle : LoginThrottle) (account : String) (s : LoginRace) :
    List ℚ :=
  prune (s.windows.accountFailures (throttle.accountKey account))
    (s.now - throttle.accountWindowSeconds)

def LoginRace.flying (s : LoginRace) (phase : LoginPhase) : ℕ :=
  s.inFlight.countP fun flight => flight.phase = phase

/-- A login that neither limit holds back finds a place among the failures that count, one that the
logins whose password is not yet checked, or is wrong and not yet recorded, do not need. -/
def LoginRace.Reserved (throttle : LoginThrottle) (account : String) (s : LoginRace) :
    LoginAction → Prop
  | .begin clientAddress _ =>
    (prune (s.windows.ipAttempts (throttle.opaqueKey "ip" clientAddress))
        (s.now - throttle.ipWindowSeconds)).length < throttle.ipMaxAttempts →
      (s.activeFailures throttle account).length < throttle.accountMaxFailures →
      (s.activeFailures throttle account).length + (s.flying .refuted + s.flying .admitted) <
        throttle.accountMaxFailures
  | _ => True

/-! ## What a step does to the failures of the account -/

theorem LoginThrottle.beginAttempt_admitted {windows windows' : LoginWindows} {now : ℚ}
    {clientAddress identifier : String} {reason : Option ThrottleReason}
    (h : throttle.beginAttempt windows now clientAddress identifier = (⟨true, reason⟩, windows')) :
    (prune (windows.ipAttempts (throttle.opaqueKey "ip" clientAddress))
      (now - throttle.ipWindowSeconds)).length < throttle.ipMaxAttempts ∧
    (prune (windows.accountFailures (throttle.accountKey identifier))
      (now - throttle.accountWindowSeconds)).length < throttle.accountMaxFailures := by
  unfold LoginThrottle.beginAttempt at h
  simp only [Buckets.keep_self] at h
  split_ifs at h with hip haccount
  · simp at h
  · simp at h
  · exact ⟨Nat.lt_of_not_le hip, Nat.lt_of_not_le haccount⟩

/-- Whatever is decided, the failures of the account are pruned or left as they are. -/
theorem LoginThrottle.accountFailures_beginAttempt {windows : LoginWindows} {now : ℚ}
    {clientAddress identifier : String} {result : LoginThrottleDecision × LoginWindows}
    (h : throttle.beginAttempt windows now clientAddress identifier = result) :
    result.2.accountFailures = windows.accountFailures ∨
      result.2.accountFailures = windows.accountFailures.keep (throttle.accountKey identifier) now
        throttle.accountWindowSeconds := by
  subst h
  unfold LoginThrottle.beginAttempt
  simp only [Buckets.keep_self]
  split_ifs
  · exact .inl rfl
  · exact .inr rfl
  · exact .inr rfl

namespace LoginRace

def recordedSince (throttle : LoginThrottle) (account : String) (s : LoginRace) (t₀ : ℚ) : ℕ :=
  (s.windows.accountFailures (throttle.accountKey account)).countP fun t => t₀ ≤ t

def failedSince (s : LoginRace) (t₀ : ℚ) : ℕ := s.failures.countP fun t => t₀ ≤ t

/-- The window that starts here is still open, and nothing has succeeded in it. -/
def Quiet (throttle : LoginThrottle) (s : LoginRace) (t₀ : ℚ) : Prop :=
  s.now < t₀ + throttle.accountWindowSeconds ∧ ∀ t ∈ s.successes, t < t₀

def OfAccount (throttle : LoginThrottle) (account : String) (flights : List LoginFlight) : Prop :=
  ∀ flight ∈ flights, throttle.accountKey flight.accountIdentifier = throttle.accountKey account

/-- A failure that counts is recorded or about to be; a login that is let in has its place. -/
structure Inv (throttle : LoginThrottle) (account : String) (s : LoginRace) : Prop where
  ofAccount : OfAccount throttle account s.inFlight
  failed : ∀ t ∈ s.failures, t ≤ s.now
  succeeded : ∀ t ∈ s.successes, t ≤ s.now
  recorded : ∀ t₀, s.Quiet throttle t₀ →
    s.failedSince t₀ ≤ s.recordedSince throttle account t₀ + s.flying .refuted
  placed : ∀ t₀, s.Quiet throttle t₀ →
    s.failedSince t₀ + s.flying .admitted ≤ throttle.accountMaxFailures
  bounded : s.Bounded throttle

theorem recordedSince_keep (windows : LoginWindows) {t₀ : ℚ} {identifier : String}
    (hkey : throttle.accountKey identifier = throttle.accountKey account)
    (hquiet : s.Quiet throttle t₀)
    (h : windows.accountFailures = s.windows.accountFailures ∨
      windows.accountFailures =
        s.windows.accountFailures.keep (throttle.accountKey identifier) s.now
        throttle.accountWindowSeconds) :
    recordedSince throttle account { s with windows := windows } t₀ =
      s.recordedSince throttle account t₀ := by
  unfold recordedSince
  obtain h | h := h
  · rw [h]
  · dsimp only
    rw [h, hkey, Buckets.keep_self]
    apply countP_prune
    intro t ht
    have hafter : t₀ ≤ t := of_decide_eq_true ht
    linarith [hquiet.1]

theorem recordedSince_recordFailure {windows : LoginWindows} {t₀ : ℚ} {identifier : String}
    (hkey : throttle.accountKey identifier = throttle.accountKey account)
    (hwindows : throttle.recordFailure s.windows s.now identifier = windows)
    (hquiet : s.Quiet throttle t₀) :
    recordedSince throttle account { s with windows := windows } t₀ =
      s.recordedSince throttle account t₀ + if t₀ ≤ s.now then 1 else 0 := by
  subst hwindows
  have hkept := recordedSince_keep { s.windows with
    accountFailures := s.windows.accountFailures.keep (throttle.accountKey identifier) s.now
      throttle.accountWindowSeconds } hkey hquiet (.inr rfl)
  rw [← hkept]
  unfold recordedSince LoginThrottle.recordFailure
  dsimp only
  rw [hkey, Buckets.append_self, List.countP_append, List.countP_singleton]
  simp only [decide_eq_true_eq]

/-- In a window that is still to come nothing has failed. -/
theorem Inv.failedSince_eq_zero (h : s.Inv throttle account) {t₀ : ℚ} (hlater : s.now < t₀) :
    s.failedSince t₀ = 0 := by
  unfold failedSince
  rw [List.countP_eq_zero]
  intro t ht hlate
  exact absurd (le_trans (of_decide_eq_true hlate) (h.failed t ht)) (not_le.mpr hlater)

theorem failedSince_le (h : s.Inv throttle account) {t₀ : ℚ} (hquiet : s.Quiet throttle t₀) :
    s.failedSince t₀ + s.flying .admitted ≤
      (s.activeFailures throttle account).length + (s.flying .refuted + s.flying .admitted) := by
  have hrecorded := h.recorded t₀ hquiet
  have hactive : s.recordedSince throttle account t₀ ≤
      (s.activeFailures throttle account).length := by
    unfold recordedSince activeFailures
    rw [← countP_prune _ (s.now - throttle.accountWindowSeconds)]
    · exact List.countP_le_length
    · intro t ht
      have hafter : t₀ ≤ t := of_decide_eq_true ht
      linarith [hquiet.1]
  omega

/-! ## One step, and a run -/

variable {windows : LoginWindows} {flights before after : List LoginFlight} {identifier : String}
  {phase : LoginPhase}

theorem flying_split (h : s.inFlight = before ++ ⟨identifier, phase⟩ :: after)
    (counted : LoginPhase) : s.flying counted =
      flying { s with inFlight := before ++ after } counted + if phase = counted then 1 else 0 := by
  unfold flying
  rw [h]
  simp only [List.countP_append, List.countP_cons, decide_eq_true_eq]
  omega

theorem flying_replaced (h : s.inFlight = before ++ ⟨identifier, phase⟩ :: after)
    (phase' counted : LoginPhase) :
    flying { s with inFlight := before ++ ⟨identifier, phase'⟩ :: after } counted +
        (if phase = counted then 1 else 0) =
      s.flying counted + if phase' = counted then 1 else 0 := by
  unfold flying
  rw [h]
  simp only [List.countP_append, List.countP_cons, decide_eq_true_eq]
  omega

/-- A login keeps the account that it is about. -/
theorem OfAccount.replaced (phase' : LoginPhase)
    (h : OfAccount throttle account (before ++ ⟨identifier, phase⟩ :: after)) :
    OfAccount throttle account (before ++ ⟨identifier, phase'⟩ :: after) := by
  intro flight hflight
  obtain hflight | hflight := List.mem_append.mp hflight
  · exact h flight (List.mem_append_left _ hflight)
  · obtain rfl | hflight := List.mem_cons.mp hflight
    · exact h ⟨identifier, phase⟩ (List.mem_append_right _ List.mem_cons_self)
    · exact h flight (List.mem_append_right _ (List.mem_cons_of_mem _ hflight))

theorem OfAccount.left (h : OfAccount throttle account (before ++ ⟨identifier, phase⟩ :: after)) :
    OfAccount throttle account (before ++ after) := by
  intro flight hflight
  apply h flight
  obtain hflight | hflight := List.mem_append.mp hflight
  · exact List.mem_append_left _ hflight
  · exact List.mem_append_right _ (List.mem_cons_of_mem _ hflight)

/-- Passing of time. -/
theorem Inv.tick (h : s.Inv throttle account) {now : ℚ} (hnow : s.now ≤ now) :
    Inv throttle account { s with now := now } := by
  have hquiet : ∀ t₀, Quiet throttle { s with now := now } t₀ → s.Quiet throttle t₀ :=
    fun t₀ hq => ⟨lt_of_le_of_lt hnow hq.1, hq.2⟩
  exact ⟨h.ofAccount, fun t ht => le_trans (h.failed t ht) hnow,
    fun t ht => le_trans (h.succeeded t ht) hnow,
    fun t₀ hq => h.recorded t₀ (hquiet t₀ hq),
    fun t₀ hq => h.placed t₀ (hquiet t₀ hq), h.bounded⟩

/-- An attempt that is blocked. -/
theorem Inv.blocked (h : s.Inv throttle account)
    (hkey : throttle.accountKey identifier = throttle.accountKey account)
    (hkeep : windows.accountFailures = s.windows.accountFailures ∨
      windows.accountFailures =
        s.windows.accountFailures.keep (throttle.accountKey identifier) s.now
        throttle.accountWindowSeconds) :
    Inv throttle account { s with windows := windows } := by
  refine ⟨h.ofAccount, h.failed, h.succeeded, fun t₀ hq => ?_, h.placed, h.bounded⟩
  have hopen : s.Quiet throttle t₀ := hq
  rw [recordedSince_keep windows hkey hopen hkeep]
  exact h.recorded t₀ hq

/-- A place that was free is taken. -/
theorem Inv.admits (h : s.Inv throttle account)
    (hkey : throttle.accountKey identifier = throttle.accountKey account)
    (hroom : (s.activeFailures throttle account).length +
      (s.flying .refuted + s.flying .admitted) < throttle.accountMaxFailures) :
    Inv throttle account { s with inFlight := ⟨identifier, .admitted⟩ :: s.inFlight } := by
  refine ⟨fun flight hflight => ?_, h.failed, h.succeeded, fun t₀ hq => ?_, fun t₀ hq => ?_,
    h.bounded⟩
  · obtain rfl | hflight := List.mem_cons.mp hflight
    · exact hkey
    · exact h.ofAccount flight hflight
  · have hold := h.recorded t₀ hq
    have hflying : flying { s with inFlight := ⟨identifier, .admitted⟩ :: s.inFlight } .refuted =
        s.flying .refuted := List.countP_cons_of_neg (by simp)
    rw [hflying]
    exact hold
  · have hplaces := failedSince_le h hq
    have hflying : flying { s with inFlight := ⟨identifier, .admitted⟩ :: s.inFlight } .admitted =
        s.flying .admitted + 1 := List.countP_cons_of_pos (by simp)
    rw [hflying]
    change s.failedSince t₀ + (s.flying .admitted + 1) ≤ _
    omega

/-- A wrong password uses the place that its login has. -/
theorem Inv.refute (h : s.Inv throttle account)
    (hflight : s.inFlight = before ++ ⟨identifier, .admitted⟩ :: after) :
    Inv throttle account { s with
      inFlight := before ++ ⟨identifier, .refuted⟩ :: after
      failures := s.now :: s.failures } := by
  have hrefuted := flying_replaced hflight .refuted .refuted
  have hadmitted := flying_replaced hflight .refuted .admitted
  simp only [reduceCtorEq, if_false, if_true, Nat.add_zero] at hrefuted hadmitted
  have hcount : ∀ t₀, failedSince { s with failures := s.now :: s.failures } t₀ ≤
      s.failedSince t₀ + 1 := by
    intro t₀
    unfold failedSince
    rw [List.countP_cons]
    split_ifs <;> omega
  have hof := h.ofAccount
  rw [hflight] at hof
  refine ⟨hof.replaced .refuted, fun t ht => ?_, h.succeeded, fun t₀ hq => ?_, fun t₀ hq => ?_,
    fun t₀ hclean => ?_⟩
  · obtain rfl | ht := List.mem_cons.mp ht
    · exact le_refl _
    · exact h.failed t ht
  · have hold := h.recorded t₀ hq
    have hnew := hcount t₀
    change failedSince { s with failures := s.now :: s.failures } t₀ ≤
      s.recordedSince throttle account t₀ +
        flying { s with inFlight := before ++ ⟨identifier, .refuted⟩ :: after } .refuted
    omega
  · have hold := h.placed t₀ hq
    have hnew := hcount t₀
    change failedSince { s with failures := s.now :: s.failures } t₀ +
      flying { s with inFlight := before ++ ⟨identifier, .refuted⟩ :: after } .admitted ≤ _
    omega
  · by_cases hin : t₀ ≤ s.now ∧ s.now < t₀ + throttle.accountWindowSeconds
    · -- the window is open: its failures are all the failures since its start
      have hq : s.Quiet throttle t₀ := by
        refine ⟨hin.2, fun t ht => ?_⟩
        by_contra hlate
        exact hclean t ht ⟨not_lt.mp hlate, lt_of_le_of_lt (h.succeeded t ht) hin.2⟩
      have hold := h.placed t₀ hq
      have hnew := hcount t₀
      have hsub : (s.now :: s.failures).countP
          (fun t => t₀ ≤ t ∧ t < t₀ + throttle.accountWindowSeconds) ≤
          (s.now :: s.failures).countP fun t => t₀ ≤ t := by
        apply List.countP_mono_left
        intro t _ ht
        exact decide_eq_true (of_decide_eq_true ht).1
      change _ ≤ failedSince { s with failures := s.now :: s.failures } t₀ at hsub
      change (s.now :: s.failures).countP _ ≤ _
      omega
    · change (s.now :: s.failures).countP _ ≤ _
      rw [List.countP_cons_of_neg (by simpa using hin)]
      exact h.bounded t₀ hclean

theorem Inv.accept (h : s.Inv throttle account)
    (hflight : s.inFlight = before ++ ⟨identifier, .admitted⟩ :: after) :
    Inv throttle account { s with inFlight := before ++ ⟨identifier, .accepted⟩ :: after } := by
  have hrefuted := flying_replaced hflight .accepted .refuted
  have hadmitted := flying_replaced hflight .accepted .admitted
  simp only [reduceCtorEq, if_false, if_true, Nat.add_zero] at hrefuted hadmitted
  have hof := h.ofAccount
  rw [hflight] at hof
  refine ⟨hof.replaced .accepted, h.failed, h.succeeded, fun t₀ hq => ?_,
    fun t₀ hq => ?_, h.bounded⟩
  · rw [hrefuted]
    exact h.recorded t₀ hq
  · have hold := h.placed t₀ hq
    change s.failedSince t₀ + _ ≤ _
    omega

/-- What was about to be recorded is. -/
theorem Inv.recordFailure (h : s.Inv throttle account)
    (hwindows : throttle.recordFailure s.windows s.now identifier = windows)
    (hflight : s.inFlight = before ++ ⟨identifier, .refuted⟩ :: after) :
    Inv throttle account { s with
      windows := windows
      inFlight := before ++ after } := by
  have hrefuted := flying_split hflight .refuted
  have hadmitted := flying_split hflight .admitted
  simp only [reduceCtorEq, if_false, if_true, Nat.add_zero] at hrefuted hadmitted
  have hof := h.ofAccount
  rw [hflight] at hof
  have hkey : throttle.accountKey identifier = throttle.accountKey account :=
    hof ⟨identifier, .refuted⟩ (List.mem_append_right _ List.mem_cons_self)
  refine ⟨hof.left, h.failed, h.succeeded, fun t₀ hq => ?_, fun t₀ hq => ?_,
    h.bounded⟩
  · have hopen : s.Quiet throttle t₀ := hq
    have hold := h.recorded t₀ hopen
    have hnew := recordedSince_recordFailure hkey hwindows hopen
    change s.failedSince t₀ ≤ recordedSince throttle account
      { s with windows := windows } t₀ +
        flying { s with inFlight := before ++ after } .refuted
    by_cases hin : t₀ ≤ s.now
    · rw [if_pos hin] at hnew
      omega
    · -- a window that is still to come has no failure in it
      have hnone := h.failedSince_eq_zero (not_le.mp hin)
      omega
  · have hold := h.placed t₀ hq
    change s.failedSince t₀ + flying { s with inFlight := before ++ after } .admitted ≤ _
    omega

/-- A success empties the bucket, and no window before it counts any more. -/
theorem Inv.recordSuccess (h : s.Inv throttle account)
    (hflight : s.inFlight = before ++ ⟨identifier, .accepted⟩ :: after) :
    Inv throttle account { s with
      windows := throttle.recordSuccess s.windows identifier
      inFlight := before ++ after
      successes := s.now :: s.successes } := by
  have hadmitted := flying_split hflight .admitted
  simp only [reduceCtorEq, if_false, Nat.add_zero] at hadmitted
  -- a window that is quiet after the success begins after it
  have hquiet : ∀ t₀, Quiet throttle { s with successes := s.now :: s.successes } t₀ →
      s.Quiet throttle t₀ ∧ s.now < t₀ :=
    fun t₀ hq => ⟨⟨hq.1, fun t ht => hq.2 t (List.mem_cons_of_mem _ ht)⟩,
      hq.2 s.now List.mem_cons_self⟩
  have hof := h.ofAccount
  rw [hflight] at hof
  refine ⟨hof.left, h.failed, fun t ht => ?_, fun t₀ hq => ?_, fun t₀ hq => ?_, fun t₀ hclean => ?_⟩
  · obtain rfl | ht := List.mem_cons.mp ht
    · exact le_refl _
    · exact h.succeeded t ht
  · have hnone := h.failedSince_eq_zero (hquiet t₀ hq).2
    change s.failedSince t₀ ≤ _
    omega
  · have hold := h.placed t₀ (hquiet t₀ hq).1
    change s.failedSince t₀ + flying { s with inFlight := before ++ after } .admitted ≤ _
    omega
  · exact h.bounded t₀ fun t ht => hclean t (List.mem_cons_of_mem _ ht)

theorem Inv.abandon (h : s.Inv throttle account)
    (hflight : s.inFlight = before ++ ⟨identifier, .admitted⟩ :: after) :
    Inv throttle account { s with inFlight := before ++ after } := by
  have hrefuted := flying_split hflight .refuted
  have hadmitted := flying_split hflight .admitted
  simp only [reduceCtorEq, if_false, if_true, Nat.add_zero] at hrefuted hadmitted
  have hof := h.ofAccount
  rw [hflight] at hof
  refine ⟨hof.left, h.failed, h.succeeded, fun t₀ hq => ?_, fun t₀ hq => ?_,
    h.bounded⟩
  · rw [← hrefuted]
    exact h.recorded t₀ hq
  · have hold := h.placed t₀ hq
    change s.failedSince t₀ + _ ≤ _
    omega

/-- One step in which a login finds its place. -/
theorem Inv.step (h : s.Inv throttle account) (hstep : s.Step throttle account a s')
    (hplace : s.Reserved throttle account a) : s'.Inv throttle account := by
  cases hstep with
  | tick hnow => exact h.tick hnow
  | blocked hkey hbegin =>
    exact h.blocked hkey (LoginThrottle.accountFailures_beginAttempt hbegin)
  | @admitted clientAddress identifier windows reason hkey hbegin =>
    obtain ⟨hip, haccount⟩ := LoginThrottle.beginAttempt_admitted hbegin
    rw [hkey] at haccount
    have hroom := hplace hip haccount
    exact (h.admits hkey hroom).blocked hkey (LoginThrottle.accountFailures_beginAttempt hbegin)
  | refute hflight => exact h.refute hflight
  | accept hflight => exact h.accept hflight
  | recordFailure hflight => exact h.recordFailure rfl hflight
  | recordSuccess hflight => exact h.recordSuccess hflight
  | abandon hflight => exact h.abandon hflight

theorem Inv.start (throttle : LoginThrottle) (account : String) :
    LoginRace.start.Inv throttle account where
  ofAccount _ hflight := by contradiction
  failed _ ht := by contradiction
  succeeded _ ht := by contradiction
  recorded _ _ := Nat.zero_le _
  placed _ _ := Nat.zero_le _
  bounded _ _ := Nat.zero_le _

end LoginRace

/-- Where every login that is let in finds a place, no window without a success has more wrong
passwords in it than the limit. -/
theorem login_failures_bounded (throttle : LoginThrottle) (account : String) (s : LoginRace)
    (as : List LoginAction)
    (hrun : Run (fun s a s' => s.Step throttle account a s' ∧ s.Reserved throttle account a)
      LoginRace.start as s) : s.Bounded throttle := by
  have hinv : s.Inv throttle account :=
    hrun.invariant (fun _ _ _ h hstep => h.step hstep.1 hstep.2) (.start throttle account)
  exact hinv.bounded

/-! ## Four logins, and three failures allowed -/

def threeFailures : LoginThrottle :=
  ⟨⟨id, id⟩, 20, 60, 3, 300, Nat.succ_pos 19, Nat.succ_pos 59, Nat.succ_pos 2, Nat.succ_pos 299⟩

def countAttempt (windows : LoginWindows) : LoginWindows :=
  (threeFailures.beginAttempt windows 0 "10.0.0.1" "ada").2

def admittedLogins (n : ℕ) : LoginRace :=
  ⟨countAttempt^[n] .empty, 0, List.replicate n ⟨"ada", .admitted⟩, [], []⟩

theorem beginAttempt_countAttempt {windows : LoginWindows}
    (hip : (windows.ipAttempts (threeFailures.opaqueKey "ip" "10.0.0.1")).length < 20)
    (haccount : windows.accountFailures (threeFailures.accountKey "ada") = []) :
    threeFailures.beginAttempt windows 0 "10.0.0.1" "ada" = (⟨true, none⟩, countAttempt windows) ∧
      ((countAttempt windows).ipAttempts (threeFailures.opaqueKey "ip" "10.0.0.1")).length ≤
        (windows.ipAttempts (threeFailures.opaqueKey "ip" "10.0.0.1")).length + 1 ∧
      (countAttempt windows).accountFailures (threeFailures.accountKey "ada") = [] := by
  have hbegin := @LoginThrottle.beginAttempt_of_room threeFailures windows 0 "10.0.0.1" "ada" hip
    (by rw [haccount]; decide)
  unfold countAttempt
  rw [hbegin]
  simp only [Buckets.append_self, Buckets.keep_self, List.length_append, List.length_singleton,
    haccount]
  refine ⟨trivial, ?_, rfl⟩
  apply Nat.succ_le_succ
  exact length_prune_le _ _

/-- Attempts alone leave no failure behind. -/
theorem countAttempt_iterate (n : ℕ) (h : n ≤ 20) :
    ((countAttempt^[n] .empty).ipAttempts (threeFailures.opaqueKey "ip" "10.0.0.1")).length ≤ n ∧
      (countAttempt^[n] .empty).accountFailures (threeFailures.accountKey "ada") = [] := by
  induction n with
  | zero => exact ⟨Nat.le_refl 0, rfl⟩
  | succ n ih =>
    obtain ⟨hip, haccount⟩ := ih (by omega)
    obtain ⟨-, hlength, hnone⟩ := beginAttempt_countAttempt (by omega) haccount
    rw [Function.iterate_succ_apply']
    exact ⟨by omega, hnone⟩

theorem run_admittedLogins (n : ℕ) (h : n ≤ 20) :
    Run (LoginRace.Step threeFailures "ada") .start
      (List.replicate n (.begin "10.0.0.1" "ada")) (admittedLogins n) := by
  induction n with
  | zero => exact .nil _
  | succ n ih =>
    obtain ⟨hip, haccount⟩ := countAttempt_iterate n (by omega)
    obtain ⟨hbegin, -, -⟩ := beginAttempt_countAttempt (by omega) haccount
    rw [List.replicate_succ']
    refine (ih (by omega)).snoc ?_
    unfold admittedLogins
    rw [List.replicate_succ, Function.iterate_succ_apply']
    exact .admitted rfl hbegin

/-- The fourth login is let in before the failure of the first one is recorded. -/
theorem login_race : ¬ ∀ (throttle : LoginThrottle) (account : String) (s : LoginRace)
    (as : List LoginAction), Run (LoginRace.Step throttle account) LoginRace.start as s →
      s.Bounded throttle := by
  intro h
  have h₀ := run_admittedLogins 4 (by decide)
  have h₁ := h₀.snoc (@LoginRace.Step.refute threeFailures "ada" _ []
    [⟨"ada", .admitted⟩, ⟨"ada", .admitted⟩, ⟨"ada", .admitted⟩] "ada" rfl)
  have h₂ := h₁.snoc (@LoginRace.Step.refute threeFailures "ada" _ [⟨"ada", .refuted⟩]
    [⟨"ada", .admitted⟩, ⟨"ada", .admitted⟩] "ada" rfl)
  have h₃ := h₂.snoc (@LoginRace.Step.refute threeFailures "ada" _
    [⟨"ada", .refuted⟩, ⟨"ada", .refuted⟩] [⟨"ada", .admitted⟩] "ada" rfl)
  have h₄ := h₃.snoc (@LoginRace.Step.refute threeFailures "ada" _
    [⟨"ada", .refuted⟩, ⟨"ada", .refuted⟩, ⟨"ada", .refuted⟩] [] "ada" rfl)
  have hbound := h _ _ _ _ h₄ 0 fun t ht => by contradiction
  simp [admittedLogins, threeFailures] at hbound

/-- A login is let in while the failures and the logins under way are fewer than three. -/
theorem begin_of_room (s : LoginRace)
    (hip : (s.windows.ipAttempts (threeFailures.opaqueKey "ip" "10.0.0.1")).length < 20)
    (haccount : (s.windows.accountFailures (threeFailures.accountKey "ada")).length +
      (s.flying .refuted + s.flying .admitted) < 3) :
    ∃ windows : LoginWindows,
      (LoginRace.Step threeFailures "ada" s (.begin "10.0.0.1" "ada")
          { s with windows := windows, inFlight := ⟨"ada", .admitted⟩ :: s.inFlight } ∧
        s.Reserved threeFailures "ada" (.begin "10.0.0.1" "ada")) ∧
      (windows.ipAttempts (threeFailures.opaqueKey "ip" "10.0.0.1")).length ≤
        (s.windows.ipAttempts (threeFailures.opaqueKey "ip" "10.0.0.1")).length + 1 ∧
      (windows.accountFailures (threeFailures.accountKey "ada")).length ≤
        (s.windows.accountFailures (threeFailures.accountKey "ada")).length := by
  have hbegin := @LoginThrottle.beginAttempt_of_room threeFailures s.windows s.now "10.0.0.1" "ada"
    hip (show _ < 3 by omega)
  have hactive := length_prune_le (s.windows.accountFailures (threeFailures.accountKey "ada"))
    (s.now - threeFailures.accountWindowSeconds)
  refine ⟨_, ⟨.admitted rfl hbegin, fun _ _ => ?_⟩, ?_, ?_⟩
  · change (prune _ _).length + _ < 3
    omega
  · simp only [Buckets.append_self, Buckets.keep_self, List.length_append, List.length_singleton]
    exact Nat.succ_le_succ (length_prune_le _ _)
  · simp only [Buckets.keep_self]
    exact hactive

/-- A failure is recorded beside those that are kept. -/
theorem recordFailure_counts (windows : LoginWindows) (now : ℚ) :
    (threeFailures.recordFailure windows now "ada").ipAttempts = windows.ipAttempts ∧
    ((threeFailures.recordFailure windows now "ada").accountFailures
      (threeFailures.accountKey "ada")).length ≤
        (windows.accountFailures (threeFailures.accountKey "ada")).length + 1 := by
  refine ⟨rfl, ?_⟩
  unfold LoginThrottle.recordFailure
  simp only [Buckets.append_self, Buckets.keep_self, List.length_append, List.length_singleton]
  exact Nat.succ_le_succ (length_prune_le _ _)

/-- Two logins at the same time, of which one fails and is recorded; then a third one; all fail. -/
theorem concurrent_logins_bounded : ∃ s : LoginRace,
    Run (LoginRace.Step threeFailures "ada") .start
      [.begin "10.0.0.1" "ada", .begin "10.0.0.1" "ada", .refute, .recordFailure,
        .begin "10.0.0.1" "ada", .refute, .refute] s ∧
    s.failures.length = 3 ∧ s.Bounded threeFailures := by
  let R : LoginRace → LoginAction → LoginRace → Prop := fun s a s' =>
    LoginRace.Step threeFailures "ada" s a s' ∧ s.Reserved threeFailures "ada" a
  have h₀ : Run R .start [] .start := .nil _
  obtain ⟨w₁, hbegin₁, hip₁, hfailures₁⟩ := begin_of_room .start (by decide) (by decide)
  have h₁ := h₀.snoc hbegin₁
  change _ ≤ 1 at hip₁
  change _ ≤ 0 at hfailures₁
  obtain ⟨w₂, hbegin₂, hip₂, hfailures₂⟩ := begin_of_room ⟨w₁, 0, [⟨"ada", .admitted⟩], [], []⟩
    (lt_of_le_of_lt hip₁ (by decide))
    (Nat.add_lt_add_of_le_of_lt hfailures₁ (show 0 + 1 < 3 by decide))
  have h₂ := h₁.snoc hbegin₂
  have h₃ :=
    h₂.snoc ⟨@LoginRace.Step.refute threeFailures "ada" _ [] [⟨"ada", .admitted⟩] "ada" rfl,
    trivial⟩
  have h₄ := h₃.snoc ⟨@LoginRace.Step.recordFailure threeFailures "ada" _ [] [⟨"ada", .admitted⟩]
    "ada" rfl, trivial⟩
  -- one failure is recorded, and one login is still under way
  obtain ⟨hip, hrecorded⟩ := recordFailure_counts w₂ 0
  have hip₃ := (congrArg (fun ipAttempts : Buckets =>
    (ipAttempts (threeFailures.opaqueKey "ip" "10.0.0.1")).length) hip).trans_le hip₂
  have hfailures₃ := hrecorded.trans (Nat.succ_le_succ (hfailures₂.trans hfailures₁))
  obtain ⟨w₃, hbegin₃, -, -⟩ := begin_of_room
    ⟨threeFailures.recordFailure w₂ 0 "ada", 0, [⟨"ada", .admitted⟩], [0], []⟩
    (lt_of_le_of_lt (hip₃.trans (Nat.succ_le_succ hip₁)) (by decide))
    (Nat.add_lt_add_of_le_of_lt hfailures₃ (show 0 + 1 < 2 by decide))
  have h₅ := h₄.snoc hbegin₃
  have h₆ :=
    h₅.snoc ⟨@LoginRace.Step.refute threeFailures "ada" _ [] [⟨"ada", .admitted⟩] "ada" rfl,
    trivial⟩
  have h₇ := h₆.snoc ⟨@LoginRace.Step.refute threeFailures "ada" _ [⟨"ada", .refuted⟩] [] "ada" rfl,
    trivial⟩
  exact ⟨_, h₇.mono fun _ _ _ h => h.1, rfl, login_failures_bounded threeFailures "ada" _ _ h₇⟩

end OpsFlow.Auth
