import OpsFlow.Values

namespace OpsFlow.Auth

/-- The columns of a user that authentication reads; the row is stored under its identifier. -/
structure UserModel where
  email : String
  isActive : Bool
  hashedPassword : String

/-- One refresh-token family. -/
structure AuthSession where
  id : Uuid
  userId : Uuid
  currentJti : Uuid
  createdAt : Timestamp
  lastUsedAt : Timestamp
  expiresAt : Timestamp
  revokedAt : Option Timestamp
  revocationReason : Option String
  deriving DecidableEq

structure PasswordResetToken where
  id : Uuid
  userId : Uuid
  tokenDigest : String
  credentialFingerprint : String
  createdAt : Timestamp
  expiresAt : Timestamp
  usedAt : Option Timestamp
  invalidatedAt : Option Timestamp
  deriving DecidableEq

def PasswordResetToken.Active (token : PasswordResetToken) : Prop :=
  token.usedAt = none ∧ token.invalidatedAt = none

instance (token : PasswordResetToken) : Decidable token.Active :=
  inferInstanceAs (Decidable (_ ∧ _))

/-! ## Cryptography and settings -/

/-- The password hasher, the keyed hashes and the settings. -/
structure Security where
  verifyPassword : String → String → Bool
  /-- `create_reauthentication_fingerprint`. -/
  credentialFingerprint : String → String
  csrfSignature : Uuid → String → String
  /-- SHA-256 of a raw reset token, in hexadecimal. -/
  digestToken : String → String
  /-- SHA-256 of the bytes of an identifier. -/
  sha256 : Uuid → BitVec 256
  /-- `email.strip().lower()`. -/
  normalizeEmail : String → String
  refreshTokenExpire : ℤ
  tokenTtl : ℤ

/-- `_issuance_lock_key`: the first eight bytes of the digest, as a signed number. -/
def issuanceLockKey (sec : Security) (userId : Uuid) : ℤ :=
  ((sec.sha256 userId).extractLsb' 192 64).toInt

/-! ## Errors -/

inductive AuthError
  | invalidCredentials (message : String)
  | inactiveUser (message : String)
  | invalidCsrfToken (message : String)
  | reauthentication (message : String)
  | passwordChange (message : String)
  | invalidPasswordResetCredential (message : String)
  | passwordReset (message : String)
  deriving DecidableEq

def AuthError.inactive : AuthError := .inactiveUser "The user account is inactive."

def AuthError.isAuthenticationError : AuthError → Bool
  | .invalidCredentials _ | .inactiveUser _ | .reauthentication _ | .passwordChange _ => true
  | .invalidCsrfToken _ | .invalidPasswordResetCredential _ | .passwordReset _ => false

/-! ## Signed tokens -/

/-- The whole seconds of an instant, as a JWT writes it. -/
def jwtSeconds (t : Timestamp) : ℤ := t / 1000000

/-- The claims of a refresh JWT that the server has signed. -/
structure RefreshToken where
  userId : Uuid
  sessionId : Uuid
  tokenId : Uuid
  issuedAt : ℤ
  expiresAt : ℤ
  deriving DecidableEq

def createRefreshToken (userId sessionId tokenId : Uuid) (expiresAt now : Timestamp) :
    RefreshToken :=
  ⟨userId, sessionId, tokenId, jwtSeconds now, jwtSeconds expiresAt⟩

structure ReauthenticationToken where
  userId : Uuid
  tokenId : Uuid
  credentialFingerprint : String
  issuedAt : ℤ
  expiresAt : ℤ
  deriving DecidableEq

/-- A signed token is taken from its time of issue on until it expires. -/
def jwtTimely (issuedAt expiresAt : ℤ) (now : Timestamp) : Prop :=
  issuedAt * 1000000 ≤ now ∧ now < expiresAt * 1000000

instance (issuedAt expiresAt : ℤ) (now : Timestamp) :
    Decidable (jwtTimely issuedAt expiresAt now) :=
  inferInstanceAs (Decidable (_ ∧ _))

/-- The token that a cookie holds; `none` stands for a text that the server has not signed. -/
def decodeRefreshToken (presented : Option RefreshToken) (now : Timestamp) :
    Except AuthError RefreshToken :=
  match presented with
  | none => .error (.invalidCredentials "Invalid refresh token.")
  | some token =>
    if jwtTimely token.issuedAt token.expiresAt now then .ok token
    else .error (.invalidCredentials "Invalid refresh token.")

def decodeReauthenticationToken (presented : Option ReauthenticationToken) (now : Timestamp) :
    Except AuthError ReauthenticationToken :=
  match presented with
  | none => .error (.reauthentication "Reauthentication proof is invalid.")
  | some token =>
    if jwtTimely token.issuedAt token.expiresAt now ∧ token.credentialFingerprint.length = 64 then
      .ok token
    else .error (.reauthentication "Reauthentication proof is invalid.")

/-! ## CSRF -/

def validateCsrfToken (sec : Security) (sessionId : Uuid) (csrfToken : String) : Bool :=
  let nonce := csrfToken.toList.takeWhile (· ≠ '.')
  match csrfToken.toList.dropWhile (· ≠ '.') with
  | [] => false
  | _ :: signature =>
    nonce ≠ [] ∧ signature ≠ [] ∧
      signature = (sec.csrfSignature sessionId (String.ofList nonce)).toList

def validateCsrf (sec : Security) (sessionId : Uuid) (csrfCookie csrfHeader : Option String) :
    Except AuthError Unit :=
  match csrfCookie, csrfHeader with
  | some cookie, some header =>
    if cookie ≠ header then .error (.invalidCsrfToken "CSRF proof does not match.")
    else if validateCsrfToken sec sessionId cookie then .ok ()
    else .error (.invalidCsrfToken "CSRF token signature is invalid.")
  | _, _ => .error (.invalidCsrfToken "CSRF proof is missing.")

structure RefreshCookies where
  token : Option RefreshToken
  csrfCookie : Option String
  csrfHeader : Option String

def decodeRefreshTokenWithCsrf (sec : Security) (cookies : RefreshCookies) (now : Timestamp) :
    Except AuthError RefreshToken := do
  let claims ← decodeRefreshToken cookies.token now
  validateCsrf sec claims.sessionId cookies.csrfCookie cookies.csrfHeader
  return claims

/-! ## The checks of the services -/

def requireUsableSession (session : AuthSession) (claims : RefreshToken) (now : Timestamp) :
    Except AuthError Unit :=
  if session.revokedAt ≠ none then
    .error (.invalidCredentials "The authentication session has been revoked.")
  else if session.expiresAt ≤ now then
    .error (.invalidCredentials "The authentication session has expired.")
  else if session.userId ≠ claims.userId then
    .error (.invalidCredentials "The refresh token does not belong to this session.")
  else .ok ()

def requireUsableToken (token : PasswordResetToken) (now : Timestamp) : Except AuthError Unit :=
  if token.usedAt ≠ none then
    .error (.invalidPasswordResetCredential "Password reset credential has already been used.")
  else if token.invalidatedAt ≠ none then
    .error (.invalidPasswordResetCredential "Password reset credential has been invalidated.")
  else if token.expiresAt ≤ now then
    .error (.invalidPasswordResetCredential "Password reset credential has expired.")
  else .ok ()

/-- The core password policy; an error is its message. -/
def validateNewPassword (password : String) : Except String Unit :=
  if password.length < 15 then
    .error "The new password must contain at least 15 characters."
  else if 128 < password.length then
    .error "The new password must not exceed 128 characters."
  else .ok ()

/-! ## Writing back -/

/-- `UPDATE ... SET revoked_at, revocation_reason WHERE revoked_at IS NULL`. -/
def AuthSession.revoke (session : AuthSession) (revokedAt : Timestamp) (reason : String) :
    AuthSession :=
  if session.revokedAt = none then
    { session with revokedAt := some revokedAt, revocationReason := some reason }
  else session

def AuthSession.withToken (session : AuthSession) (currentJti : Uuid) (lastUsedAt : Timestamp) :
    AuthSession :=
  { session with currentJti := currentJti, lastUsedAt := lastUsedAt }

theorem requireUsableSession_eq_ok {session : AuthSession} {claims : RefreshToken}
    {now : Timestamp} : requireUsableSession session claims now = .ok () ↔
      session.revokedAt = none ∧ now < session.expiresAt ∧ session.userId = claims.userId := by
  unfold requireUsableSession
  split_ifs with hrevoked hexpired huser
  · simp [hrevoked]
  · refine iff_of_false (by simp) fun h => ?_
    exact Int.not_lt.mpr hexpired h.2.1
  · simp [huser]
  · exact iff_of_true rfl ⟨not_not.mp hrevoked, Int.not_le.mp hexpired, not_not.mp huser⟩

theorem requireUsableToken_eq_ok {token : PasswordResetToken} {now : Timestamp} :
    requireUsableToken token now = .ok () ↔ token.Active ∧ now < token.expiresAt := by
  unfold requireUsableToken PasswordResetToken.Active
  split_ifs with hused hinvalidated hexpired
  · simp [hused]
  · simp [hinvalidated]
  · refine iff_of_false (by simp) fun h => ?_
    exact Int.not_lt.mpr hexpired h.2
  · exact iff_of_true rfl ⟨⟨not_not.mp hused, not_not.mp hinvalidated⟩, Int.not_le.mp hexpired⟩

theorem decodeRefreshTokenWithCsrf_eq_ok {sec : Security} {cookies : RefreshCookies}
    {now : Timestamp} {claims : RefreshToken}
    (h : decodeRefreshTokenWithCsrf sec cookies now = .ok claims) :
    cookies.token = some claims ∧ jwtTimely claims.issuedAt claims.expiresAt now := by
  unfold decodeRefreshTokenWithCsrf decodeRefreshToken at h
  cases htoken : cookies.token with
  | none =>
    rw [htoken] at h
    contradiction
  | some token =>
    rw [htoken] at h
    by_cases htimely : jwtTimely token.issuedAt token.expiresAt now
    · simp only [htimely, if_true, bind, Except.bind] at h
      split at h
      · contradiction
      · obtain rfl : token = claims := Except.ok.inj h
        exact ⟨rfl, htimely⟩
    · simp only [htimely, if_false, bind, Except.bind] at h
      contradiction

@[simp] theorem AuthSession.revoke_id (session : AuthSession) (now : Timestamp) (reason : String) :
    (session.revoke now reason).id = session.id := by
  unfold AuthSession.revoke
  split_ifs <;> rfl

theorem AuthSession.currentJti_revoke (session : AuthSession) (now : Timestamp)
    (reason : String) : (session.revoke now reason).currentJti = session.currentJti := by
  unfold AuthSession.revoke
  split_ifs <;> rfl

theorem AuthSession.userId_revoke (session : AuthSession) (now : Timestamp) (reason : String) :
    (session.revoke now reason).userId = session.userId := by
  unfold AuthSession.revoke
  split_ifs <;> rfl

/-- A revocation is never overwritten. -/
theorem AuthSession.revoke_of_revoked {session : AuthSession} (h : session.revokedAt ≠ none)
    (now : Timestamp) (reason : String) : session.revoke now reason = session := if_neg h

theorem AuthSession.revokedAt_revoke (session : AuthSession) (now : Timestamp) (reason : String) :
    (session.revoke now reason).revokedAt ≠ none := by
  unfold AuthSession.revoke
  split_ifs with h
  · simp
  · exact h

end OpsFlow.Auth
