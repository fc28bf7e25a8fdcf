import OpsFlow.Auth.AnonymousRoutes
import OpsFlow.Library.Unwinding

namespace OpsFlow.Auth

variable {app : App} {store store' : UserStore app.hasher}

/-! ## What a caller may know -/

def App.CorrectPassword (app : App) (user : UserModel) (password : String) : Prop :=
  ∃ salt, user.hashedPassword = app.hasher.hashPassword salt password

/-- The request is not a login with the correct password of an active account. -/
def AnonymousRequest.Uncredentialed (request : AnonymousRequest) (store : UserStore app.hasher) :
    Prop :=
  match request.submission with
  | .login username password => ∀ row ∈ store.rows, row.2.email = app.sec.normalizeEmail username →
      row.2.isActive = true → ¬ app.CorrectPassword row.2 password
  | .passwordReset _ => True

def ServerState.SameWindows (s s' : ServerState) : Prop :=
  s.loginWindows = s'.loginWindows ∧ s.resetWindows = s'.resetWindows

/-! ## Login -/

theorem UserStore.correctPassword_of_verifyPassword {row : Uuid × UserModel} {password : String}
    (hrow : row ∈ store.rows)
    (h : app.sec.verifyPassword password row.2.hashedPassword = true) :
    app.CorrectPassword row.2 password := by
  obtain ⟨salt, stored, hhash⟩ := store.hashed row hrow
  rw [hhash, app.hasher.verify_hash, decide_eq_true_eq] at h
  subst h
  exact ⟨salt, hhash⟩

theorem authenticate_uncredentialed {username password : String}
    (h : ∀ row ∈ store.rows, row.2.email = app.sec.normalizeEmail username →
      row.2.isActive = true → ¬ app.CorrectPassword row.2 password) :
    ∃ error, authenticate app.sec password
      (store.rows.find? fun row => row.2.email = app.sec.normalizeEmail username) =
        .error error := by
  cases hfind : store.rows.find? fun row => row.2.email = app.sec.normalizeEmail username with
  | none => exact ⟨_, rfl⟩
  | some row =>
    obtain ⟨userId, user⟩ := row
    have hmem := List.mem_of_find?_eq_some hfind
    have hemail : user.email = app.sec.normalizeEmail username := by
      simpa using List.find?_some hfind
    unfold authenticate
    dsimp only
    by_cases hright : app.sec.verifyPassword password user.hashedPassword = true
    · by_cases hactive : user.isActive = true
      · exact absurd (UserStore.correctPassword_of_verifyPassword hmem hright)
          (h _ hmem hemail hactive)
      · rw [if_neg (not_not.mpr hright), if_pos hactive]
        exact ⟨_, rfl⟩
    · rw [if_pos hright]
      exact ⟨_, rfl⟩

/-- A login that fails, in terms of the throttle alone. -/
def App.failedLogin (app : App) (windows : LoginWindows) (client : Option String)
    (now failedAt : ℚ) (username : String) :
    LoginThrottleDecision × Except Raised HttpResponse × LoginWindows :=
  let (decision, windows) :=
    app.loginThrottle.beginAttempt windows now (client.getD "unknown") username
  if ¬ decision.allowed then (decision, .error loginThrottledException, windows)
  else if app.bindable (app.sec.normalizeEmail username) then
    (decision, .error loginCredentialsException,
      app.loginThrottle.recordFailure windows failedAt username)
  else (decision, .error .unhandled, windows)

/-- Without the right password the accounts have no part in a login. -/
theorem loginForAccessToken_uncredentialed {s : ServerState} {client : Option String}
    {now failedAt : ℚ} {username password : String} {chance : Chance}
    (h : ∀ row ∈ store.rows, row.2.email = app.sec.normalizeEmail username →
      row.2.isActive = true → ¬ app.CorrectPassword row.2 password) :
    app.loginForAccessToken store s client now failedAt username password chance =
      ((app.failedLogin s.loginWindows client now failedAt username).1,
        (app.failedLogin s.loginWindows client now failedAt username).2.1,
        { s with
          loginWindows := (app.failedLogin s.loginWindows client now failedAt username).2.2 }) := by
  obtain ⟨error, herror⟩ := authenticate_uncredentialed h
  unfold App.loginForAccessToken App.failedLogin App.authenticateByEmail App.authRecordByEmail
  generalize app.loginThrottle.beginAttempt s.loginWindows now (client.getD "unknown") username =
    checked
  obtain ⟨decision, windows⟩ := checked
  dsimp only
  by_cases hallowed : decision.allowed = true
  · by_cases hbind : app.bindable (app.sec.normalizeEmail username) = true
    · simp only [hallowed, hbind, if_true, not_true_eq_false, if_false, herror, Except.mapError]
    · simp only [hallowed, hbind, not_true_eq_false, if_false, Bool.false_eq_true]
  · simp only [hallowed, Bool.false_eq_true, not_false_eq_true, if_true]

/-! ## Request of a password reset -/

/-- Nothing that the issuance and the delivery of a token do can be seen in the response. -/
theorem respond_requestPasswordReset {s : ServerState} {client : Option String} {now : ℚ}
    {email : String} {chance : Chance} {arrival : Arrival} :
    let checked := app.passwordResetThrottle.checkAndRecord s.resetWindows now
      (client.getD "unknown") email
    (app.requestPasswordReset store s client now email chance).1 = checked.1 ∧
      app.respond arrival (app.requestPasswordReset store s client now email chance).2.1 =
        app.respond arrival
          (if ¬ checked.1.allowed then
            .error (passwordResetThrottledException checked.1.retryAfterSeconds)
          else if app.bindable (app.sec.normalizeEmail email) then .ok passwordResetRequestResponse
          else .error .unhandled) ∧
      (app.requestPasswordReset store s client now email chance).2.2.resetWindows = checked.2 ∧
      (app.requestPasswordReset store s client now email chance).2.2.loginWindows =
        s.loginWindows := by
  intro checked
  have hchecked : app.passwordResetThrottle.checkAndRecord s.resetWindows now
      (client.getD "unknown") email = checked := rfl
  unfold App.requestPasswordReset
  rw [hchecked]
  dsimp only
  by_cases hallowed : checked.1.allowed = true
  · simp only [hallowed, not_true_eq_false, if_false]
    unfold App.requestReset App.authRecordByEmail
    by_cases hbind : app.bindable (app.sec.normalizeEmail email) = true
    · simp only [hbind, if_true]
      cases store.rows.find? fun row => row.2.email = app.sec.normalizeEmail email with
      | none => exact ⟨rfl, rfl, rfl, rfl⟩
      | some row =>
        obtain ⟨userId, user⟩ := row
        dsimp only
        by_cases hactive : user.isActive = true
        · simp only [hactive, not_true_eq_false, if_false]
          -- the link is built, and the provider fails or does not
          unfold App.deliver App.buildResetUrl
          rw [if_neg chance.rawToken_ne]
          cases chance.delivered
          · exact ⟨rfl, rfl, rfl, rfl⟩
          · exact ⟨rfl, rfl, rfl, rfl⟩
        · rw [if_pos hactive]
          exact ⟨rfl, rfl, rfl, rfl⟩
    · rw [if_neg hbind, if_neg hbind]
      exact ⟨rfl, rfl, rfl, rfl⟩
  · rw [if_pos hallowed, if_pos hallowed]
    exact ⟨rfl, rfl, rfl, rfl⟩

/-! ## One request, and any number of them -/

/-- The same request in both runs, without the right password in either one. The clocks of the
services, the drawn values and the mail provider may differ. -/
def SameRequest (store store' : UserStore app.hasher) (x x' : AnonymousRequest × Chance) : Prop :=
  x.1 = x'.1 ∧ x.1.Uncredentialed store ∧ x.1.Uncredentialed store'

theorem serve_unwinds : Unwinding.Unwinds (app.serve store) (app.serve store')
    ServerState.SameWindows (SameRequest store store') := by
  rintro s s' ⟨request, chance⟩ ⟨_, chance'⟩ ⟨hlogin, hreset⟩ ⟨rfl, hwrong, hwrong'⟩
  unfold App.serve
  dsimp only at hwrong hwrong' ⊢
  cases browserTrust app.frontendOrigin request.arrival with
  | some message => exact ⟨rfl, hlogin, hreset⟩
  | none =>
    dsimp only
    unfold AnonymousRequest.Uncredentialed at hwrong hwrong'
    cases hsubmission : request.submission with
    | login username password =>
      rw [hsubmission] at hwrong hwrong'
      dsimp only
      cases app.formRejection username password with
      | some detail => exact ⟨rfl, hlogin, hreset⟩
      | none =>
        dsimp only
        rw [loginForAccessToken_uncredentialed hwrong, loginForAccessToken_uncredentialed hwrong',
          hlogin]
        exact ⟨rfl, rfl, hreset⟩
    | passwordReset email =>
      dsimp only
      by_cases hclient : request.sesClientBuilt = true
      · by_cases hemail : resetEmailAccepted email = true
        · simp only [hclient, hemail, not_true_eq_false, if_false]
          obtain ⟨hdecision, hresponse, hwindows, hother⟩ :=
            @respond_requestPasswordReset app store s request.arrival.client request.now email
              chance request.arrival
          obtain ⟨hdecision', hresponse', hwindows', hother'⟩ :=
            @respond_requestPasswordReset app store' s' request.arrival.client request.now email
              chance' request.arrival
          rw [hreset] at hdecision hresponse hwindows
          refine ⟨?_, ?_, ?_⟩
          · rw [hdecision, hdecision', hresponse, hresponse']
          · rw [hother, hother', hlogin]
          · rw [hwindows, hwindows']
        · simp only [hclient, hemail, not_true_eq_false, if_false, not_false_eq_true, if_true,
            Bool.false_eq_true]
          exact ⟨trivial, hlogin, hreset⟩
      · rw [if_pos hclient, if_pos hclient]
        exact ⟨rfl, hlogin, hreset⟩

theorem forall₂_sameRequest {xs xs' : List (AnonymousRequest × Chance)}
    (hsame : xs.map Prod.fst = xs'.map Prod.fst)
    (hwrong : ∀ x ∈ xs, x.1.Uncredentialed store ∧ x.1.Uncredentialed store') :
    List.Forall₂ (SameRequest store store') xs xs' := by
  induction xs generalizing xs' with
  | nil =>
    obtain rfl := List.map_eq_nil_iff.mp hsame.symm
    exact .nil
  | cons x xs ih =>
    cases xs' with
    | nil => contradiction
    | cons x' xs' =>
      rw [List.map_cons, List.map_cons] at hsame
      obtain ⟨hhead, htail⟩ := List.cons.inj hsame
      refine .cons ⟨hhead, hwrong x List.mem_cons_self⟩ (ih htail fun y hy => ?_)
      exact hwrong y (List.mem_cons_of_mem x hy)

/-- Logins without the right password and requests for a reset do not tell which accounts exist,
which of them are active and what their passwords are: the throttles decide alike and the responses
are the same. -/
theorem account_existence_noninterference (app : App) (store store' : UserStore app.hasher)
    (s s' : ServerState) (hwindows : s.SameWindows s') (xs xs' : List (AnonymousRequest × Chance))
    (hsame : xs.map Prod.fst = xs'.map Prod.fst)
    (hwrong : ∀ x ∈ xs, x.1.Uncredentialed store ∧ x.1.Uncredentialed store') :
    Unwinding.outputs (app.serve store) s xs = Unwinding.outputs (app.serve store') s' xs' :=
  (serve_unwinds.run hwindows (forall₂_sameRequest hsame hwrong)).1

/-! ## An account that exists, and one that does not -/

def adaStore : UserStore App.clear.hasher where
  rows := [(1, ⟨"ada", true, "secret"⟩)]
  hashed row hrow := by
    obtain rfl := List.mem_singleton.mp hrow
    exact ⟨"", "secret", rfl⟩

def emptyStore : UserStore App.clear.hasher where
  rows := []
  hashed _ hrow := by contradiction

def guesses : List AnonymousRequest :=
  let arrival (path : String) : Arrival :=
    ⟨some "10.0.0.1", path, none, 0, none, none, none, "http://localhost:8000"⟩
  [⟨arrival "/api/v1/auth/token", .login "ada" "wrong", 0, 1, true⟩,
    ⟨arrival "/api/v1/auth/password-reset/request", .passwordReset "ada", 2, 2, true⟩]

def guessesWith (delivered : Bool) : List (AnonymousRequest × Chance) :=
  guesses.map fun request => (request, ⟨0, 0, 0, 1, 2, 3, "", 4, "token", by decide, delivered⟩)

theorem ada_unseen :
    Unwinding.outputs (App.clear.serve adaStore) .start (guessesWith false) =
      Unwinding.outputs (App.clear.serve emptyStore) .start (guessesWith true) := by
  refine account_existence_noninterference App.clear adaStore emptyStore .start .start ⟨rfl, rfl⟩
    _ _ rfl fun x hx => ⟨?_, ?_⟩
  · obtain rfl | rfl := List.mem_pair.mp hx
    · intro row hrow _ _ hcorrect
      obtain rfl := List.mem_singleton.mp hrow
      obtain ⟨salt, hhash⟩ := hcorrect
      have hother : "secret" ≠ "wrong" := by decide
      exact hother hhash
    · trivial
  · obtain rfl | rfl := List.mem_pair.mp hx
    · intro row hrow
      contradiction
    · trivial

end OpsFlow.Auth
