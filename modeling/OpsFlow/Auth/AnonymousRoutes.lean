import OpsFlow.Auth.System
import OpsFlow.Auth.Throttles
import OpsFlow.Auth.Cookies

namespace OpsFlow.Auth

/-! ## Accounts and settings -/

/-- `hash_password` draws a salt; `verify_password` accepts the password that has been hashed and no
other one. -/
structure PasswordHasher (sec : Security) where
  hashPassword : String → String → String
  verify_hash : ∀ presented salt password,
    sec.verifyPassword presented (hashPassword salt password) = decide (presented = password)

/-- The rows of the users, with hashes that `hash_password` has made. -/
structure UserStore {sec : Security} (hasher : PasswordHasher sec) where
  rows : List (Uuid × UserModel)
  hashed : ∀ row ∈ rows, ∃ salt password, row.2.hashedPassword = hasher.hashPassword salt password

inductive HttpContent
  | json (value : Json)
  | text (value : String)

structure HttpResponse where
  status : ℕ
  headers : List (String × String)
  content : HttpContent

/-- A request as the middleware sees it. `refererOrigin` is what `_extract_origin` makes of the
header, and `requestOrigin` the scheme and host that the request was sent to. -/
structure Arrival where
  client : Option String
  path : String
  requestId : Option String
  freshRequestId : Uuid
  fetchSite : Option String
  origin : Option String
  refererOrigin : Option (Option String)
  requestOrigin : String

/-- The application. What FastAPI, Starlette, PyJWT and the database driver decide is a
parameter. -/
structure App where
  sec : Security
  hasher : PasswordHasher sec
  loginThrottle : LoginThrottle
  passwordResetThrottle : PasswordResetThrottle
  cookies : CookieSettings
  frontendOrigin : String
  /-- The database driver takes the text as a parameter. -/
  bindable : String → Bool
  /-- The answer to a form or a body that validation rejects. -/
  formRejection : String → String → Option Json
  bodyRejection : String → Json
  /-- The reset URL with the token in its query. -/
  resetUrl : String → String
  renderCookie : SetCookie → String
  encodeRefreshToken : RefreshToken → String
  encodeAccessToken : Uuid → Uuid → Timestamp → String
  cors : Arrival → HttpResponse → HttpResponse

inductive Raised
  | httpException (status : ℕ) (detail : String) (headers : List (String × String))
  | passwordResetDeliveryError
  | unhandled

inductive AuthErrorCode
  | loginCredentialsInvalid
  | loginThrottled
  | passwordResetThrottled

def AuthErrorCode.value : AuthErrorCode → String
  | .loginCredentialsInvalid => "AUTH_LOGIN_CREDENTIALS_INVALID"
  | .loginThrottled => "AUTH_LOGIN_THROTTLED"
  | .passwordResetThrottled => "AUTH_PASSWORD_RESET_THROTTLED"

def authErrorHeaders (code : AuthErrorCode) (additionalHeaders : List (String × String)) :
    List (String × String) :=
  additionalHeaders ++ [("X-Auth-Error-Code", code.value)]

def loginThrottledException : Raised :=
  .httpException 429 "Too many authentication attempts. Please try again later."
    (authErrorHeaders .loginThrottled [])

def loginCredentialsException : Raised :=
  .httpException 401 "Incorrect email or password."
    (authErrorHeaders .loginCredentialsInvalid [("WWW-Authenticate", "Bearer")])

def passwordResetThrottledException (retryAfterSeconds : Option ℤ) : Raised :=
  .httpException 429 "Too many password reset requests. Please try again later."
    (authErrorHeaders .passwordResetThrottled
      [("Retry-After", (retryAfterSeconds.map toString).getD "None")])

def passwordResetRequestAcceptedMessage : String :=
  "If an eligible account exists, password reset instructions will be sent."

def passwordResetRequestResponse : HttpResponse :=
  ⟨202, [], .json (.object [("message", .string passwordResetRequestAcceptedMessage)])⟩

def passwordResetDeliveryErrorHandler : HttpResponse :=
  ⟨202, [], .json (.object [("message", .string passwordResetRequestAcceptedMessage)])⟩

/-! ## The services -/

/-- What the clocks, the random sources and the mail provider contribute to one request. -/
structure Chance where
  now : Timestamp
  tokensNow : Timestamp
  cookieNow : Timestamp
  sessionId : Uuid
  refreshTokenId : Uuid
  accessTokenId : Uuid
  nonce : String
  resetTokenId : Uuid
  rawToken : String
  rawToken_ne : rawToken ≠ ""
  delivered : Bool

structure ServerState where
  loginWindows : LoginWindows
  resetWindows : PasswordResetWindows
  sessions : List AuthSession
  resetTokens : List PasswordResetToken

inductive ServiceFailure
  | authentication (error : AuthError)
  | unhandled

namespace App

variable (app : App)

/-- `get_auth_record_by_email`; the driver raises for a text that it cannot bind. -/
def authRecordByEmail (store : UserStore app.hasher) (email : String) :
    Except ServiceFailure (Option (Uuid × UserModel)) :=
  if app.bindable email then .ok (store.rows.find? fun row => row.2.email = email)
  else .error .unhandled

/-- `AuthenticationService.authenticate`. Without a record the password is verified against a dummy
hash, and the answer of that is thrown away. -/
def authenticateByEmail (store : UserStore app.hasher) (email password : String) :
    Except ServiceFailure (Uuid × String) :=
  match app.authRecordByEmail store (app.sec.normalizeEmail email) with
  | .error failure => .error failure
  | .ok record => (authenticate app.sec password record).mapError .authentication

structure AuthenticationResult where
  session : AuthSession
  refreshToken : RefreshToken
  csrfToken : String
  accessToken : String

def issueAuthenticationResult (userId : Uuid) (chance : Chance) : AuthenticationResult :=
  let expiresAt := chance.now + app.sec.refreshTokenExpire
  { session := newSession chance.sessionId userId chance.refreshTokenId chance.now expiresAt
    refreshToken := createRefreshToken userId chance.sessionId chance.refreshTokenId expiresAt
      chance.tokensNow
    csrfToken := chance.nonce ++ "." ++ app.sec.csrfSignature chance.sessionId chance.nonce
    accessToken := app.encodeAccessToken userId chance.accessTokenId chance.tokensNow }

structure PasswordResetIssueResult where
  userId : Uuid
  email : String
  rawToken : String
  expiresAt : Timestamp

def invalidateActiveForUser (tokens : List PasswordResetToken) (userId : Uuid) (now : Timestamp) :
    List PasswordResetToken :=
  tokens.map fun token =>
    if token.userId = userId ∧ token.Active then { token with invalidatedAt := some now } else token

/-- `PasswordResetService.request_reset`; the drawn identifier and token are new. -/
def requestReset (store : UserStore app.hasher) (tokens : List PasswordResetToken) (email : String)
    (chance : Chance) :
    Except ServiceFailure (Option PasswordResetIssueResult × List PasswordResetToken) :=
  match app.authRecordByEmail store (app.sec.normalizeEmail email) with
  | .error failure => .error failure
  | .ok none => .ok (none, tokens)
  | .ok (some (userId, user)) =>
    if ¬ user.isActive then .ok (none, tokens)
    else
      let token := newResetToken app.sec ⟨userId, user.hashedPassword, chance.now⟩
        chance.resetTokenId chance.rawToken
      .ok (some ⟨userId, user.email, chance.rawToken, token.expiresAt⟩,
        invalidateActiveForUser tokens userId chance.now ++ [token])

structure PasswordResetDeliveryMessage where
  recipientEmail : String
  resetUrl : String
  expiresAt : Timestamp

def buildResetUrl (rawToken : String) : Except Raised String :=
  if rawToken = "" then .error .unhandled else .ok (app.resetUrl rawToken)

/-- `PasswordResetDeliveryCoordinator.deliver`: the message that is handed to the provider, unless
the provider fails. -/
def deliver (issuance : PasswordResetIssueResult) (delivered : Bool) :
    Except Raised PasswordResetDeliveryMessage := do
  let resetUrl ← app.buildResetUrl issuance.rawToken
  if delivered then return ⟨issuance.email, resetUrl, issuance.expiresAt⟩
  else .error .passwordResetDeliveryError

/-! ## The routes -/

/-- The end of a successful login. An exception undoes the insertion of the session. -/
def completeLogin (s : ServerState) (userId : Uuid) (chance : Chance) :
    Except Raised HttpResponse × ServerState :=
  let result := app.issueAuthenticationResult userId chance
  match setRefreshCookie app.cookies result.refreshToken
    (app.encodeRefreshToken result.refreshToken)
      chance.tokensNow chance.cookieNow with
  | .error _ => (.error .unhandled, s)
  | .ok refreshCookie =>
    let csrfCookie := setCsrfCookie app.cookies result.csrfToken
    (.ok ⟨200, [("set-cookie", app.renderCookie refreshCookie),
        ("set-cookie", app.renderCookie csrfCookie)],
      .json (.object [("access_token", .string result.accessToken),
        ("token_type", .string "bearer")])⟩,
      { s with sessions := s.sessions ++ [result.session] })

/-- `login_for_access_token`; the clock of the throttle is read at the start and at a failure. -/
def loginForAccessToken (store : UserStore app.hasher) (s : ServerState) (client : Option String)
    (now failedAt : ℚ) (username password : String) (chance : Chance) :
    LoginThrottleDecision × Except Raised HttpResponse × ServerState :=
  let (decision, windows) :=
    app.loginThrottle.beginAttempt s.loginWindows now (client.getD "unknown") username
  let s := { s with loginWindows := windows }
  if ¬ decision.allowed then (decision, .error loginThrottledException, s)
  else
    match app.authenticateByEmail store username password with
    | .error .unhandled => (decision, .error .unhandled, s)
    | .error (.authentication _) =>
      (decision, .error loginCredentialsException,
        { s with loginWindows := app.loginThrottle.recordFailure s.loginWindows failedAt username })
    | .ok (userId, _) =>
      (decision, app.completeLogin
        { s with loginWindows := app.loginThrottle.recordSuccess s.loginWindows username }
        userId chance)

/-- `request_password_reset`. The transaction is rolled back when an exception escapes. -/
def requestPasswordReset (store : UserStore app.hasher) (s : ServerState) (client : Option String)
    (now : ℚ) (email : String) (chance : Chance) :
    PasswordResetThrottleDecision × Except Raised HttpResponse × ServerState :=
  let (decision, windows) :=
    app.passwordResetThrottle.checkAndRecord s.resetWindows now (client.getD "unknown") email
  let s := { s with resetWindows := windows }
  if ¬ decision.allowed then
    (decision, .error (passwordResetThrottledException decision.retryAfterSeconds), s)
  else
    match app.requestReset store s.resetTokens email chance with
    | .error _ => (decision, .error .unhandled, s)
    | .ok (none, tokens) =>
      (decision, .ok passwordResetRequestResponse, { s with resetTokens := tokens })
    | .ok (some issuance, tokens) =>
      match app.deliver issuance chance.delivered with
      | .error raised => (decision, .error raised, s)
      | .ok _ => (decision, .ok passwordResetRequestResponse, { s with resetTokens := tokens })

end App

/-! ## The application around the routes -/

def HttpResponse.setHeader (response : HttpResponse) (header : String × String) : HttpResponse :=
  { response with
    headers :=
      if response.headers.any fun old => old.1 = header.1 then
        response.headers.map fun old => if old.1 = header.1 then header else old
      else response.headers ++ [header] }

def withoutTrailingSlash (url : String) : String :=
  String.ofList (url.toList.rdropWhile (· = '/'))

/-- `BrowserTrustBoundaryMiddleware.dispatch` for a POST request: the message of a rejection. -/
def browserTrust (frontendOrigin : String) (arrival : Arrival) : Option String :=
  let allowed (origin : String) : Bool :=
    withoutTrailingSlash origin = withoutTrailingSlash frontendOrigin ∨
      withoutTrailingSlash origin = withoutTrailingSlash arrival.requestOrigin
  if arrival.fetchSite = some "cross-site" then
    some "Cross-site state-changing request rejected."
  else
    match arrival.origin, arrival.refererOrigin with
    | some origin, _ => if allowed origin then none else some "Request origin is not trusted."
    | none, some none => some "Request referer is not trusted."
    | none, some (some refererOrigin) =>
      if allowed refererOrigin then none else some "Request referer is not trusted."
    | none, none => none

def isAuthPath (apiV1Prefix path : String) : Bool :=
  let authPrefix := withoutTrailingSlash apiV1Prefix ++ "/auth"
  path = authPrefix ∨ (authPrefix ++ "/").isPrefixOf path

def authCacheControl : String := "no-store, no-cache, must-revalidate"

def securityHeaders (isProduction authResponse : Bool) : List (String × String) :=
  [("X-Content-Type-Options", "nosniff"), ("X-Frame-Options", "DENY"),
    ("Referrer-Policy", "strict-origin-when-cross-origin"),
    ("Permissions-Policy", "camera=(), microphone=(), geolocation=()"),
    ("X-Permitted-Cross-Domain-Policies", "none")] ++
  (if authResponse then [("Cache-Control", authCacheControl), ("Pragma", "no-cache")] else []) ++
  (if isProduction then [("Strict-Transport-Security", "max-age=31536000; includeSubDomains")]
    else [])

def resolveRequestId (supplied : Option String) (fresh : Uuid) : String :=
  let accepted (text : String) : Bool :=
    text.length ≤ 128 ∧ (∃ c ∈ text.toList.head?, c.isAlphanum) ∧
      ∀ c ∈ text.toList, c.isAlphanum ∨ c ∈ ['.', '_', ':', '-']
  match supplied with
  | some text => if accepted text then text else fresh.str
  | none => fresh.str

def internalServerError : HttpResponse :=
  ⟨500, [], .text "Internal Server Error"⟩

namespace App

variable (app : App)

def throughMiddleware (arrival : Arrival) (response : HttpResponse) : HttpResponse :=
  let secured := (securityHeaders app.cookies.isProduction
    (isAuthPath app.cookies.apiV1Prefix arrival.path)).foldl .setHeader (app.cors arrival response)
  secured.setHeader ("X-Request-ID", resolveRequestId arrival.requestId arrival.freshRequestId)

/-- The exception handlers; what they do not know passes all middleware and is answered last. -/
def respond (arrival : Arrival) : Except Raised HttpResponse → HttpResponse
  | .ok response => app.throughMiddleware arrival response
  | .error (.httpException status detail headers) =>
    app.throughMiddleware arrival
      ⟨status, headers, .json (.object [("detail", .string detail)])⟩
  | .error .passwordResetDeliveryError =>
    app.throughMiddleware arrival passwordResetDeliveryErrorHandler
  | .error .unhandled => internalServerError

def reject (arrival : Arrival) (status : ℕ) (content : Json) : HttpResponse :=
  app.throughMiddleware arrival ⟨status, [], .json content⟩

end App

/-! ## The requests -/

inductive Submission
  | login (username password : String)
  | passwordReset (email : String)

/-- A request of a client without credentials, with the readings of the monotonic clock that the
throttles make, and with what the dependency of the mail client does. -/
structure AnonymousRequest where
  arrival : Arrival
  submission : Submission
  now : ℚ
  failedAt : ℚ
  sesClientBuilt : Bool

inductive ThrottleDecision
  | login (decision : LoginThrottleDecision)
  | passwordReset (decision : PasswordResetThrottleDecision)

structure Reply where
  decision : Option ThrottleDecision
  response : HttpResponse

def resetEmailAccepted (email : String) : Bool := 3 ≤ email.length ∧ email.length ≤ 320

/-- One request, from the outermost middleware to the response. -/
def App.serve (app : App) (store : UserStore app.hasher) (s : ServerState)
    (exchange : AnonymousRequest × Chance) : Reply × ServerState :=
  let (request, chance) := exchange
  let arrival := request.arrival
  match browserTrust app.frontendOrigin arrival with
  | some message => (⟨none, app.reject arrival 403 (.object [("detail", .string message)])⟩, s)
  | none =>
    match request.submission with
    | .login username password =>
      match app.formRejection username password with
      | some detail => (⟨none, app.reject arrival 422 detail⟩, s)
      | none =>
        let (decision, result, s') := app.loginForAccessToken store s arrival.client request.now
          request.failedAt username password chance
        (⟨some (.login decision), app.respond arrival result⟩, s')
    | .passwordReset email =>
      -- the dependencies are resolved before the body is validated
      if ¬ request.sesClientBuilt then
        (⟨none, app.respond arrival (.error .passwordResetDeliveryError)⟩, s)
      else if ¬ resetEmailAccepted email then
        (⟨none, app.reject arrival 422 (app.bodyRejection email)⟩, s)
      else
        let (decision, result, s') := app.requestPasswordReset store s arrival.client request.now
          email chance
        (⟨some (.passwordReset decision), app.respond arrival result⟩, s')

/-! ## A world in which requests can be computed -/

def ServerState.start : ServerState := ⟨.empty, .empty, [], []⟩

/-- Passwords in the clear, five attempts or three requests in a minute. -/
def App.clear : App where
  sec := .clear
  hasher := { hashPassword := fun _ password => password, verify_hash := fun _ _ _ => rfl }
  loginThrottle := ⟨⟨id, id⟩, 5, 60, 5, 60, by decide, by decide, by decide, by decide⟩
  passwordResetThrottle := ⟨⟨id, id⟩, 3, 60, 3, 60, by decide, by decide, by decide, by decide⟩
  cookies := ⟨"opsflow_refresh_token", "opsflow_csrf", "lax", "/api/v1", false⟩
  frontendOrigin := "http://localhost:5173"
  bindable _ := true
  formRejection _ _ := none
  bodyRejection _ := .null
  resetUrl rawToken := "http://localhost:5173/reset?token=" ++ rawToken
  renderCookie cookie := cookie.key ++ "=" ++ cookie.value
  encodeRefreshToken token := token.tokenId.str
  encodeAccessToken userId _ _ := userId.str
  cors _ response := response

end OpsFlow.Auth
