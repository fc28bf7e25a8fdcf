import OpsFlow.Auth.Domain
import OpsFlow.Library.RowStore
import OpsFlow.Library.Transition

namespace OpsFlow.Auth
open RowStore

/-! ## What a request is after -/

/-- What a password replacement rests on; for a reset token, the row as it was locked and the
clock reading at which it was found usable. -/
inductive Authority
  | proof (claims : ReauthenticationToken)
  | resetToken (token : PasswordResetToken) (now : Timestamp)
  deriving DecidableEq

def Authority.credentialFingerprint : Authority → String
  | .proof claims => claims.credentialFingerprint
  | .resetToken token _ => token.credentialFingerprint

structure Replacement where
  userId : Uuid
  expected : String
  replacement : String
  authority : Authority
  deriving DecidableEq

/-- A session with its first token, and the hash that its login verified. -/
structure Login where
  sessionId : Uuid
  refreshTokenId : Uuid
  userId : Uuid
  verified : String
  deriving DecidableEq

structure Issuance where
  userId : Uuid
  hashedPassword : String
  now : Timestamp

inductive Presentation
  | rotation
  | logout
  deriving DecidableEq

inductive Answer
  | loggedIn (login : Login)
  | rotated (sessionId previous next : Uuid)
  | reuse (kind : Presentation) (sessionId : Uuid)
  | loggedOut (sessionId : Uuid)
  | loggedOutAll (userId : Uuid)
  | replaced (r : Replacement)
  | resetRequested (tokenId : Option Uuid)
  | reauthenticated
  | purged
  deriving DecidableEq

/-- Why all sessions of a user are ended. -/
inductive EndCause
  | logoutAll (userId : Uuid)
  | replaced (r : Replacement)

def EndCause.userId : EndCause → Uuid
  | .logoutAll userId => userId
  | .replaced r => r.userId

def EndCause.answer : EndCause → Answer
  | .logoutAll userId => .loggedOutAll userId
  | .replaced r => .replaced r

/-- What a bearer of an access token asks for. -/
inductive Purpose
  | logoutAll
  | reauthenticate (password : String)
  | changePassword (reauthToken : Option ReauthenticationToken) (newPassword : String)

inductive AfterInvalidation
  | issue (issuance : Issuance)
  | endSessions (r : Replacement)

structure Invalidation where
  userId : Uuid
  invalidatedAt : Timestamp
  excludeTokenId : Option Uuid
  next : AfterInvalidation

/-- How far a request has come; it is one transaction. `todo` are the rows of a many-row UPDATE or
DELETE that are still to be locked and looked at again. -/
inductive Tx
  | idle
  | authenticated (userId : Uuid) (verified : String)
  | presented (kind : Presentation) (claims : RefreshToken)
  | replayed (kind : Presentation) (session : AuthSession) (now : Timestamp)
  | current (kind : Presentation) (claims : RefreshToken) (session : AuthSession) (now : Timestamp)
  | resolved (kind : Presentation) (claims : RefreshToken) (session : AuthSession)
      (now : Timestamp)
  | identified (userId : Uuid) (email : String) (purpose : Purpose)
  | proved (userId : Uuid) (email : String) (claims : ReauthenticationToken) (newPassword : String)
  | tokenLocked (token : PasswordResetToken) (now : Timestamp) (newPassword : String)
  | recovering (token : PasswordResetToken) (email : String) (now : Timestamp)
      (newPassword : String)
  | checked (r : Replacement)
  | swapped (r : Replacement)
  | consumed (r : Replacement)
  | eligible (issuance : Issuance)
  | issuing (issuance : Issuance)
  | invalidating (i : Invalidation) (todo : List Uuid)
  | ending (cause : EndCause) (reason : String) (now : Timestamp)
  | revoking (cause : EndCause) (reason : String) (now : Timestamp) (todo : List Uuid)
  | purging (cutoff : Timestamp) (todo : List Uuid)
  | done (answer : Answer)
  | refused (error : AuthError) (commits : Bool)
  | committed (answer : Answer)
  | rejected (error : AuthError)
  | aborted

def Tx.inProgress : Tx → Prop
  | .idle | .committed _ | .rejected _ | .aborted => False
  | _ => True

/-! ## The checks between the statements -/

/-- Logout answers an authentication error with an ordinary response, so that its transaction is
committed; every other error leaves the route. -/
def Presentation.commits : Presentation → AuthError → Bool
  | .rotation, _ => false
  | .logout, error => error.isAuthenticationError

/-- `AuthenticationService.authenticate`, from the record with the given address on. -/
def authenticate (sec : Security) (password : String) :
    Option (Uuid × UserModel) → Except AuthError (Uuid × String)
  | none => .error (.invalidCredentials "Invalid credentials.")
  | some (userId, user) =>
    if ¬ sec.verifyPassword password user.hashedPassword then
      .error (.invalidCredentials "Invalid credentials.")
    else if ¬ user.isActive then .error .inactive
    else .ok (userId, user.hashedPassword)

def resolveActiveUser : Option UserModel → Except AuthError UserModel
  | none => .error (.invalidCredentials "The authenticated user no longer exists.")
  | some user => if user.isActive then .ok user else .error .inactive

def reauthenticate (sec : Security) (userId : Uuid) (password : String) :
    Option (Uuid × UserModel) → Except AuthError String
  | none => .error (.reauthentication "Reauthentication failed.")
  | some (recordId, record) =>
    if ¬ sec.verifyPassword password record.hashedPassword ∨ recordId ≠ userId then
      .error (.reauthentication "Reauthentication failed.")
    else .ok record.hashedPassword

def checkProof (sec : Security) (userId : Uuid) (claims : ReauthenticationToken)
    (newPassword : String) : Option (Uuid × UserModel) → Except AuthError String
  | none => .error (.reauthentication "Reauthentication proof cannot be validated.")
  | some (recordId, record) =>
    if recordId ≠ userId then
      .error (.reauthentication "Reauthentication proof cannot be validated.")
    else if sec.credentialFingerprint record.hashedPassword ≠ claims.credentialFingerprint then
      .error (.reauthentication "Reauthentication proof is stale.")
    else
      match validateNewPassword newPassword with
      | .error message => .error (.passwordChange message)
      | .ok () =>
        if sec.verifyPassword newPassword record.hashedPassword then
          .error (.passwordChange "The new password must differ from the current password.")
        else .ok record.hashedPassword

def checkResetToken (sec : Security) (token : PasswordResetToken) (newPassword : String) :
    Option (Uuid × UserModel) → Except AuthError String
  | none => .error (.invalidPasswordResetCredential "Password reset credential is invalid.")
  | some (recordId, record) =>
    if recordId ≠ token.userId then
      .error (.invalidPasswordResetCredential "Password reset credential is invalid.")
    else if sec.credentialFingerprint record.hashedPassword ≠ token.credentialFingerprint then
      .error (.invalidPasswordResetCredential "Password reset credential is stale.")
    else
      match validateNewPassword newPassword with
      | .error message => .error (.passwordReset message)
      | .ok () =>
        if sec.verifyPassword newPassword record.hashedPassword then
          .error (.passwordReset "The new password must differ from the current password.")
        else .ok record.hashedPassword

def Authority.staleError : Authority → AuthError
  | .proof _ => .reauthentication "The credential changed while the operation was in progress."
  | .resetToken _ _ => .invalidPasswordResetCredential
      "The credential changed while the reset was in progress."

def proceed {α : Type} (commits : AuthError → Bool) (next : α → Tx) : Except AuthError α → Tx
  | .error error => .refused error (commits error)
  | .ok a => next a

/-- What holds of a refusal and of every way on holds after the check. -/
theorem proceed_induction {α : Type} {commits : AuthError → Bool} {next : α → Tx} {P : Tx → Prop}
    {result : Except AuthError α} (hrefused : ∀ error committed, P (.refused error committed))
    (hnext : ∀ a, P (next a)) : P (proceed commits next result) := by
  cases result with
  | ok a => exact hnext a
  | error e => exact hrefused e (commits e)

def escapes (_ : AuthError) : Bool := false

/-- A usable session is rotated or closed with its current token, and revoked with any other. -/
def judged (kind : Presentation) (claims : RefreshToken) (session : AuthSession)
    (now : Timestamp) : Tx :=
  if session.currentJti ≠ claims.tokenId then .replayed kind session now
  else .current kind claims session now

/-- After the compare-and-set. The change of a password reads the clock only now. -/
def Replacement.swappedTx (r : Replacement) (now : Timestamp) : Tx :=
  match r.authority with
  | .proof _ => .ending (.replaced r) "password_changed" now
  | .resetToken _ _ => .swapped r

/-! ## The database and the requests over it -/

/-- `refreshTokens` and `proofs` are the JWTs ever signed, `hashes` the password hashes ever made,
and `log` what has been committed, in this order; `scanned` is the length of the log at the
snapshot of the last many-row UPDATE of the sessions by a transaction. -/
structure State (τ : Type) where
  users : Table τ Uuid UserModel
  sessions : Table τ Uuid AuthSession
  resetTokens : Table τ Uuid PasswordResetToken
  advisory : ℤ → Option τ
  txs : τ → Tx
  refreshTokens : List RefreshToken
  proofs : List ReauthenticationToken
  hashes : List String
  log : List Answer
  scanned : τ → ℕ

variable {τ : Type} [DecidableEq τ]

namespace State

def advance (s : State τ) (t : τ) (x : Tx) : State τ :=
  { s with txs := Function.update s.txs t x }

def release (s : State τ) (t : τ) : ℤ → Option τ :=
  fun key => if s.advisory key = some t then none else s.advisory key

def commit (s : State τ) (t : τ) (x : Tx) : State τ :=
  { s with
    users := s.users.commit t
    sessions := s.sessions.commit t
    resetTokens := s.resetTokens.commit t
    advisory := s.release t
    txs := Function.update s.txs t x }

def rollback (s : State τ) (t : τ) (x : Tx) : State τ :=
  { s with
    users := s.users.rollback t
    sessions := s.sessions.rollback t
    resetTokens := s.resetTokens.rollback t
    advisory := s.release t
    txs := Function.update s.txs t x }

/-- `get_auth_record_by_email`, with the address that is stored. -/
def Finds (s : State τ) (t : τ) (email : String) : Option (Uuid × UserModel) → Prop
  | none => ∀ userId user, s.users.view t userId = some user → user.email ≠ email
  | some (userId, user) => s.users.view t userId = some user ∧ user.email = email

end State

def AuthSession.RevocableFor (session : AuthSession) (userId : Uuid) : Prop :=
  session.userId = userId ∧ session.revokedAt = none

def Invalidation.Matches (i : Invalidation) (token : PasswordResetToken) : Prop :=
  token.userId = i.userId ∧ token.Active ∧ ∀ id ∈ i.excludeTokenId, token.id ≠ id

def newSession (id userId currentJti : Uuid) (now expiresAt : Timestamp) : AuthSession :=
  ⟨id, userId, currentJti, now, now, expiresAt, none, none⟩

def newResetToken (sec : Security) (issuance : Issuance) (id : Uuid) (rawToken : String) :
    PasswordResetToken :=
  { id := id
    userId := issuance.userId
    tokenDigest := sec.digestToken rawToken
    credentialFingerprint := sec.credentialFingerprint issuance.hashedPassword
    createdAt := issuance.now
    expiresAt := issuance.now + sec.tokenTtl
    usedAt := none
    invalidatedAt := none }

/-- One statement of a transaction, with the checks that follow it, or the end of one. A statement
on a row that another transaction holds waits; the snapshot of a many-row statement fixes which
rows it visits, and each of them is looked at again once it is locked. -/
inductive Step (sec : Security) : State τ → τ → State τ → Prop
  -- login
  | authenticate {s : State τ} {t : τ} {email password : String}
      {record : Option (Uuid × UserModel)} :
      s.txs t = .idle → s.Finds t (sec.normalizeEmail email) record →
      Step sec s t (s.advance t (proceed escapes (fun (u, h) => .authenticated u h)
        (authenticate sec password record)))
  | issueSession {s : State τ} {t : τ} {userId sessionId jti : Uuid} {verified : String}
      {now issuedNow : Timestamp} :
      s.txs t = .authenticated userId verified →
      s.sessions.committed sessionId = none → s.sessions.holder sessionId = none →
      (∀ token ∈ s.refreshTokens, token.sessionId ≠ sessionId ∧ token.tokenId ≠ jti) →
      Step sec s t (State.advance
        { s with
          sessions := s.sessions.write t sessionId
            (some (newSession sessionId userId jti now (now + sec.refreshTokenExpire)))
          refreshTokens := s.refreshTokens ++ [createRefreshToken userId sessionId jti
            (now + sec.refreshTokenExpire) issuedNow] } t
        (.done (.loggedIn ⟨sessionId, jti, userId, verified⟩)))
  -- rotation and logout
  | present {s : State τ} {t : τ} {kind : Presentation} {cookies : RefreshCookies}
      {now : Timestamp} :
      s.txs t = .idle → (∀ token ∈ cookies.token, token ∈ s.refreshTokens) →
      Step sec s t (s.advance t (proceed kind.commits (.presented kind)
        (decodeRefreshTokenWithCsrf sec cookies now)))
  | sessionMissing {s : State τ} {t : τ} {kind : Presentation} {claims : RefreshToken} :
      s.txs t = .presented kind claims → s.sessions.view t claims.sessionId = none →
      Step sec s t (s.advance t (.refused
        (.invalidCredentials "The authentication session does not exist.")
        (kind.commits (.invalidCredentials "The authentication session does not exist."))))
  | lockSession {s : State τ} {t : τ} {kind : Presentation} {claims : RefreshToken}
      {session : AuthSession} {now : Timestamp} :
      s.txs t = .presented kind claims → s.sessions.Free t claims.sessionId →
      s.sessions.view t claims.sessionId = some session →
      Step sec s t (State.advance
        { s with sessions := s.sessions.acquire t claims.sessionId } t
        (proceed kind.commits (fun () => judged kind claims session now)
          (requireUsableSession session claims now)))
  | revokeReplayed {s : State τ} {t : τ} {kind : Presentation} {session row : AuthSession}
      {now : Timestamp} :
      s.txs t = .replayed kind session now → s.sessions.Free t session.id →
      s.sessions.view t session.id = some row →
      Step sec s t (State.advance
        { s with
          sessions := s.sessions.write t session.id
            (some (row.revoke now "refresh_token_reuse")) } t
        (.done (.reuse kind session.id)))
  | resolveUser {s : State τ} {t : τ} {kind : Presentation} {claims : RefreshToken}
      {session : AuthSession} {now : Timestamp} :
      s.txs t = .current kind claims session now →
      Step sec s t (s.advance t (proceed kind.commits (fun _ => .resolved kind claims session now)
        (resolveActiveUser (s.users.view t claims.userId))))
  | rotate {s : State τ} {t : τ} {claims : RefreshToken} {session row : AuthSession}
      {now issuedNow : Timestamp} {jti : Uuid} :
      s.txs t = .resolved .rotation claims session now → s.sessions.Free t session.id →
      s.sessions.view t session.id = some row →
      (∀ token ∈ s.refreshTokens, token.tokenId ≠ jti) →
      Step sec s t (State.advance
        { s with
          sessions := s.sessions.write t session.id (some (row.withToken jti now))
          refreshTokens := s.refreshTokens ++ [createRefreshToken claims.userId session.id jti
            session.expiresAt issuedNow] } t
        (.done (.rotated session.id claims.tokenId jti)))
  | logout {s : State τ} {t : τ} {claims : RefreshToken} {session row : AuthSession}
      {now : Timestamp} :
      s.txs t = .resolved .logout claims session now → s.sessions.Free t session.id →
      s.sessions.view t session.id = some row →
      Step sec s t (State.advance
        { s with sessions := s.sessions.write t session.id (some (row.revoke now "logout")) } t
        (.done (.loggedOut session.id)))
  -- requests with an access token
  | identify {s : State τ} {t : τ} {userId : Uuid} {purpose : Purpose} :
      s.txs t = .idle →
      Step sec s t (s.advance t (proceed escapes (fun user => .identified userId user.email purpose)
        (resolveActiveUser (s.users.view t userId))))
  | logoutAll {s : State τ} {t : τ} {userId : Uuid} {email : String} {now : Timestamp} :
      s.txs t = .identified userId email .logoutAll →
      Step sec s t (s.advance t (.ending (.logoutAll userId) "logout_all" now))
  | reauthenticateFails {s : State τ} {t : τ} {userId : Uuid} {email password : String}
      {record : Option (Uuid × UserModel)} {error : AuthError} :
      s.txs t = .identified userId email (.reauthenticate password) →
      s.Finds t (sec.normalizeEmail email) record →
      reauthenticate sec userId password record = .error error →
      Step sec s t (s.advance t (.refused error false))
  | reauthenticate {s : State τ} {t : τ} {userId tokenId : Uuid} {email password hash : String}
      {record : Option (Uuid × UserModel)} {now expiresAt : Timestamp} :
      s.txs t = .identified userId email (.reauthenticate password) →
      s.Finds t (sec.normalizeEmail email) record →
      reauthenticate sec userId password record = .ok hash →
      Step sec s t (State.advance
        { s with
          proofs := s.proofs ++ [⟨userId, tokenId, sec.credentialFingerprint hash,
            jwtSeconds now, jwtSeconds expiresAt⟩] } t
        (.done .reauthenticated))
  -- change of a password
  | prove {s : State τ} {t : τ} {userId : Uuid} {email newPassword : String}
      {reauthToken : Option ReauthenticationToken} {now : Timestamp} :
      s.txs t = .identified userId email (.changePassword reauthToken newPassword) →
      (∀ token ∈ reauthToken, token ∈ s.proofs) →
      Step sec s t (s.advance t (proceed escapes
        (fun claims =>
          if claims.userId ≠ userId then
            .refused (.reauthentication
              "Reauthentication proof does not belong to this user.") false
          else .proved userId email claims newPassword)
        (decodeReauthenticationToken reauthToken now)))
  | checkProof {s : State τ} {t : τ} {userId : Uuid} {email newPassword replacement : String}
      {claims : ReauthenticationToken} {record : Option (Uuid × UserModel)} :
      s.txs t = .proved userId email claims newPassword →
      s.Finds t (sec.normalizeEmail email) record → replacement ∉ s.hashes →
      Step sec s t (State.advance { s with hashes := s.hashes ++ [replacement] } t
        (proceed escapes (fun hash => .checked ⟨userId, hash, replacement, .proof claims⟩)
          (checkProof sec userId claims newPassword record)))
  -- reset of a password
  | tokenMissing {s : State τ} {t : τ} {rawToken : String} :
      s.txs t = .idle →
      (∀ k token, s.resetTokens.view t k = some token →
        token.tokenDigest ≠ sec.digestToken rawToken) →
      Step sec s t (s.advance t
        (.refused (.invalidPasswordResetCredential "Password reset credential is invalid.") false))
  | lockToken {s : State τ} {t : τ} {k : Uuid} {rawToken newPassword : String}
      {token : PasswordResetToken} {now : Timestamp} :
      s.txs t = .idle → s.resetTokens.Free t k → s.resetTokens.view t k = some token →
      token.tokenDigest = sec.digestToken rawToken →
      Step sec s t (State.advance { s with resetTokens := s.resetTokens.acquire t k } t
        (proceed escapes (fun () => .tokenLocked token now newPassword)
          (requireUsableToken token now)))
  | findUser {s : State τ} {t : τ} {token : PasswordResetToken} {now : Timestamp}
      {newPassword : String} :
      s.txs t = .tokenLocked token now newPassword →
      Step sec s t (s.advance t
        (match s.users.view t token.userId with
          | some user =>
            if user.isActive then .recovering token user.email now newPassword
            else .refused (.invalidPasswordResetCredential
              "Password reset credential is invalid.") false
          | none => .refused (.invalidPasswordResetCredential
              "Password reset credential is invalid.") false))
  | checkResetToken {s : State τ} {t : τ} {token : PasswordResetToken} {now : Timestamp}
      {email newPassword replacement : String} {record : Option (Uuid × UserModel)} :
      s.txs t = .recovering token email now newPassword →
      s.Finds t (sec.normalizeEmail email) record → replacement ∉ s.hashes →
      Step sec s t (State.advance { s with hashes := s.hashes ++ [replacement] } t
        (proceed escapes
          (fun hash => .checked ⟨token.userId, hash, replacement, .resetToken token now⟩)
          (checkResetToken sec token newPassword record)))
  -- the compare-and-set of both
  | swap {s : State τ} {t : τ} {r : Replacement} {user : UserModel} {now : Timestamp} :
      s.txs t = .checked r → s.users.Free t r.userId →
      s.users.view t r.userId = some user → user.hashedPassword = r.expected →
      Step sec s t (State.advance
        { s with
          users := s.users.write t r.userId
            (some { user with hashedPassword := r.replacement }) } t
        (r.swappedTx now))
  | swapStale {s : State τ} {t : τ} {r : Replacement} :
      s.txs t = .checked r → s.users.Free t r.userId →
      (∀ user, s.users.view t r.userId = some user → user.hashedPassword ≠ r.expected) →
      Step sec s t (s.advance t (.refused r.authority.staleError false))
  | markUsed {s : State τ} {t : τ} {r : Replacement} {token row : PasswordResetToken}
      {now : Timestamp} :
      s.txs t = .swapped r → r.authority = .resetToken token now →
      s.resetTokens.Free t token.id → s.resetTokens.view t token.id = some row → row.Active →
      Step sec s t (State.advance
        { s with
          resetTokens := s.resetTokens.write t token.id
            (some { row with usedAt := some now }) } t
        (.consumed r))
  | notMarked {s : State τ} {t : τ} {r : Replacement} {token : PasswordResetToken}
      {now : Timestamp} :
      s.txs t = .swapped r → r.authority = .resetToken token now →
      s.resetTokens.Free t token.id →
      (∀ row, s.resetTokens.view t token.id = some row → ¬ row.Active) →
      Step sec s t (s.advance t (.refused (.invalidPasswordResetCredential
        "Password reset credential could not be consumed.") false))
  -- request of a reset
  | requestReset {s : State τ} {t : τ} {email : String} {record : Option (Uuid × UserModel)}
      {now : Timestamp} :
      s.txs t = .idle → s.Finds t (sec.normalizeEmail email) record →
      Step sec s t (s.advance t
        (match record with
          | some (userId, user) =>
            if user.isActive then .eligible ⟨userId, user.hashedPassword, now⟩
            else .done (.resetRequested none)
          | none => .done (.resetRequested none)))
  | acquireIssuanceLock {s : State τ} {t : τ} {issuance : Issuance} :
      s.txs t = .eligible issuance →
      (∀ t', s.advisory (issuanceLockKey sec issuance.userId) = some t' → t' = t) →
      Step sec s t (State.advance
        { s with
          advisory := Function.update s.advisory (issuanceLockKey sec issuance.userId)
            (some t) } t
        (.issuing issuance))
  | insertToken {s : State τ} {t : τ} {i : Invalidation} {issuance : Issuance} {id : Uuid}
      {rawToken : String} :
      s.txs t = .invalidating i [] → i.next = .issue issuance →
      s.resetTokens.committed id = none → s.resetTokens.holder id = none →
      (∀ k token, s.resetTokens.Version k token →
        token.tokenDigest ≠ sec.digestToken rawToken) →
      Step sec s t (State.advance
        { s with
          resetTokens := s.resetTokens.write t id
            (some (newResetToken sec issuance id rawToken)) } t
        (.done (.resetRequested (some id))))
  -- `invalidate_active_for_user`
  | scanTokens {s : State τ} {t : τ} {issuance : Issuance} {todo : List Uuid} :
      s.txs t = .issuing issuance →
      (∀ k, k ∈ todo ↔ ∃ token, s.resetTokens.view t k = some token ∧
        Invalidation.Matches ⟨issuance.userId, issuance.now, none, .issue issuance⟩ token) →
      Step sec s t (s.advance t (.invalidating
        ⟨issuance.userId, issuance.now, none, .issue issuance⟩ todo))
  | scanSiblings {s : State τ} {t : τ} {r : Replacement} {token : PasswordResetToken}
      {now : Timestamp} {todo : List Uuid} :
      s.txs t = .consumed r → r.authority = .resetToken token now →
      (∀ k, k ∈ todo ↔ ∃ row, s.resetTokens.view t k = some row ∧
        Invalidation.Matches ⟨r.userId, now, some token.id, .endSessions r⟩ row) →
      Step sec s t (s.advance t (.invalidating
        ⟨r.userId, now, some token.id, .endSessions r⟩ todo))
  | invalidateRow {s : State τ} {t : τ} {i : Invalidation} {k : Uuid} {todo : List Uuid}
      {token : PasswordResetToken} :
      s.txs t = .invalidating i (k :: todo) → s.resetTokens.Free t k →
      s.resetTokens.view t k = some token → i.Matches token →
      Step sec s t (State.advance
        { s with
          resetTokens := s.resetTokens.write t k
            (some { token with invalidatedAt := some i.invalidatedAt }) } t
        (.invalidating i todo))
  | passToken {s : State τ} {t : τ} {i : Invalidation} {k : Uuid} {todo : List Uuid} :
      s.txs t = .invalidating i (k :: todo) → s.resetTokens.Free t k →
      (∀ token, s.resetTokens.view t k = some token → ¬ i.Matches token) →
      Step sec s t (s.advance t (.invalidating i todo))
  | siblingsInvalidated {s : State τ} {t : τ} {i : Invalidation} {r : Replacement} :
      s.txs t = .invalidating i [] → i.next = .endSessions r →
      Step sec s t (s.advance t (.ending (.replaced r) "password_reset" i.invalidatedAt))
  -- `revoke_all_for_user`
  | scanSessions {s : State τ} {t : τ} {cause : EndCause} {reason : String} {now : Timestamp}
      {todo : List Uuid} :
      s.txs t = .ending cause reason now →
      (∀ k, k ∈ todo ↔ ∃ session, s.sessions.view t k = some session ∧
        session.RevocableFor cause.userId) →
      Step sec s t (State.advance
        { s with scanned := Function.update s.scanned t s.log.length } t
        (.revoking cause reason now todo))
  | revokeRow {s : State τ} {t : τ} {cause : EndCause} {k : Uuid} {reason : String}
      {now : Timestamp} {todo : List Uuid} {session : AuthSession} :
      s.txs t = .revoking cause reason now (k :: todo) → s.sessions.Free t k →
      s.sessions.view t k = some session → session.RevocableFor cause.userId →
      Step sec s t (State.advance
        { s with sessions := s.sessions.write t k (some (session.revoke now reason)) } t
        (.revoking cause reason now todo))
  | passSession {s : State τ} {t : τ} {cause : EndCause} {k : Uuid} {reason : String}
      {now : Timestamp} {todo : List Uuid} :
      s.txs t = .revoking cause reason now (k :: todo) → s.sessions.Free t k →
      (∀ session, s.sessions.view t k = some session → ¬ session.RevocableFor cause.userId) →
      Step sec s t (s.advance t (.revoking cause reason now todo))
  | sessionsRevoked {s : State τ} {t : τ} {cause : EndCause} {reason : String} {now : Timestamp} :
      s.txs t = .revoking cause reason now [] →
      Step sec s t (s.advance t (.done cause.answer))
  -- `delete_expired_before`
  | purge {s : State τ} {t : τ} {cutoff : Timestamp} {todo : List Uuid} :
      s.txs t = .idle →
      (∀ k, k ∈ todo ↔ ∃ session, s.sessions.view t k = some session ∧
        session.expiresAt < cutoff) →
      Step sec s t (s.advance t (.purging cutoff todo))
  | purgeRow {s : State τ} {t : τ} {k : Uuid} {cutoff : Timestamp} {todo : List Uuid}
      {session : AuthSession} :
      s.txs t = .purging cutoff (k :: todo) → s.sessions.Free t k →
      s.sessions.view t k = some session → session.expiresAt < cutoff →
      Step sec s t (State.advance { s with sessions := s.sessions.write t k none } t
        (.purging cutoff todo))
  | passPurge {s : State τ} {t : τ} {k : Uuid} {cutoff : Timestamp} {todo : List Uuid} :
      s.txs t = .purging cutoff (k :: todo) → s.sessions.Free t k →
      (∀ session, s.sessions.view t k = some session → ¬ session.expiresAt < cutoff) →
      Step sec s t (s.advance t (.purging cutoff todo))
  | purged {s : State τ} {t : τ} {cutoff : Timestamp} :
      s.txs t = .purging cutoff [] → Step sec s t (s.advance t (.done .purged))
  -- the end of a request
  | commit {s : State τ} {t : τ} {answer : Answer} :
      s.txs t = .done answer →
      Step sec s t { s.commit t (.committed answer) with log := s.log ++ [answer] }
  | refuse {s : State τ} {t : τ} {error : AuthError} {commits : Bool} :
      s.txs t = .refused error commits →
      Step sec s t
        (if commits then s.commit t (.rejected error) else s.rollback t (.rejected error))
  | abort {s : State τ} {t : τ} :
      (s.txs t).inProgress → Step sec s t (s.rollback t .aborted)

inductive State.Ends (s : State τ) (t : τ) : State τ → Prop
  | commit {answer : Answer} : s.txs t = .done answer →
      Ends s t { s.commit t (.committed answer) with log := s.log ++ [answer] }
  | close {error : AuthError} : s.txs t = .refused error true →
      Ends s t (s.commit t (.rejected error))
  | rollback {x : Tx} : (x = .aborted ∨ ∃ error, x = .rejected error) → Ends s t (s.rollback t x)

theorem State.Ends.txs_eq {s s' : State τ} {t : τ} (h : s.Ends t s') :
    ∃ x, s'.txs = Function.update s.txs t x ∧
      (x = .aborted ∨ (∃ error, x = .rejected error) ∨ ∃ answer, x = .committed answer) := by
  cases h with
  | commit _ => exact ⟨_, rfl, .inr (.inr ⟨_, rfl⟩)⟩
  | close _ => exact ⟨_, rfl, .inr (.inl ⟨_, rfl⟩)⟩
  | rollback hx => exact ⟨_, rfl, hx.imp_right .inl⟩

/-- The accounts before the first request, and the hashes that have been made until then. -/
structure Accounts where
  users : Uuid → Option UserModel
  hashes : List String
  stored : ∀ userId user, users userId = some user → user.hashedPassword ∈ hashes

def State.start (accounts : Accounts) : State τ :=
  { users := .of accounts.users
    sessions := .of fun _ => none
    resetTokens := .of fun _ => none
    advisory := fun _ => none
    txs := fun _ => .idle
    refreshTokens := []
    proofs := []
    hashes := accounts.hashes
    log := []
    scanned := fun _ => 0 }

/-! ## A world in which runs can be computed -/

def Security.clear : Security where
  verifyPassword password hashedPassword := decide (password = hashedPassword)
  credentialFingerprint := id
  csrfSignature _ nonce := nonce
  digestToken := id
  sha256 _ := 0
  normalizeEmail := id
  refreshTokenExpire := 1000000000
  tokenTtl := 1000000000

def Accounts.single (userId : Uuid) (email password : String) : Accounts where
  users := Function.update (fun _ => none) userId (some ⟨email, true, password⟩)
  hashes := [password]
  stored k user h := by
    by_cases hk : k = userId
    · subst hk
      rw [Function.update_self] at h
      obtain rfl := Option.some.inj h
      exact List.mem_singleton_self _
    · rw [Function.update_of_ne hk] at h
      contradiction

end OpsFlow.Auth
