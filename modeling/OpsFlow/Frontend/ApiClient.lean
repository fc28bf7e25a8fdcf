import OpsFlow.Values

namespace OpsFlow.Frontend

/-! ## Answers of the backend -/

inductive AuthErrorCode
  | accessCredentialsInvalid
  | loginCredentialsInvalid
  | loginThrottled
  | refreshCredentialsInvalid
  | csrfValidationFailed
  | reauthenticationFailed
  | reauthenticationRequired
  | passwordChangeRejected
  | passwordResetThrottled
  | passwordResetCredentialInvalid
  | passwordResetPasswordRejected
  deriving DecidableEq

def AuthErrorCode.value : AuthErrorCode → String
  | accessCredentialsInvalid => "AUTH_ACCESS_CREDENTIALS_INVALID"
  | loginCredentialsInvalid => "AUTH_LOGIN_CREDENTIALS_INVALID"
  | loginThrottled => "AUTH_LOGIN_THROTTLED"
  | refreshCredentialsInvalid => "AUTH_REFRESH_CREDENTIALS_INVALID"
  | csrfValidationFailed => "AUTH_CSRF_VALIDATION_FAILED"
  | reauthenticationFailed => "AUTH_REAUTHENTICATION_FAILED"
  | reauthenticationRequired => "AUTH_REAUTHENTICATION_REQUIRED"
  | passwordChangeRejected => "AUTH_PASSWORD_CHANGE_REJECTED"
  | passwordResetThrottled => "AUTH_PASSWORD_RESET_THROTTLED"
  | passwordResetCredentialInvalid => "AUTH_PASSWORD_RESET_CREDENTIAL_INVALID"
  | passwordResetPasswordRejected => "AUTH_PASSWORD_RESET_PASSWORD_REJECTED"

def knownAuthErrorCodes : List AuthErrorCode :=
  [.accessCredentialsInvalid, .loginCredentialsInvalid, .loginThrottled, .refreshCredentialsInvalid,
    .csrfValidationFailed, .reauthenticationFailed, .reauthenticationRequired,
    .passwordChangeRejected, .passwordResetThrottled, .passwordResetCredentialInvalid,
    .passwordResetPasswordRejected]

/-- A response, with what its header `X-Auth-Error-Code` holds. -/
structure Response where
  status : ℕ
  authErrorCode : Option String
  deriving DecidableEq

def Response.ok (response : Response) : Bool := 200 ≤ response.status && response.status ≤ 299

def readAuthErrorCode (response : Response) : Option AuthErrorCode :=
  response.authErrorCode.bind fun rawCode => knownAuthErrorCodes.find? fun code =>
    code.value = rawCode

def accessTokenOf : Option Json → Option String
  | some (.object members) =>
    match members.lookup "access_token" with
    | some (.string token) => if token = "" then none else some token
    | _ => none
  | _ => none

/-- The bearer credential: an empty text is none. -/
def bearer (token : Option String) : Option String := token.filter (· ≠ "")

/-! ## Asynchronous calls, by the place where each is suspended -/

/-- A call of `performAccessTokenRefresh`, which is a promise. -/
inductive Refresh
  | fetching
  | reading
  | settled (result : Option String)

inductive RefreshCaller
  | apiFetch (fetch : ℕ)
  | page
  deriving DecidableEq

structure RefreshCall where
  caller : RefreshCaller
  promise : ℕ
  creator : Bool
  received : Option (Option String)

inductive FetchPhase
  | sent
  | refreshing (response : Response) (call : ℕ)
  | retried
  | settled (answer : Option Response)

structure ApiFetch where
  currentToken : Option String
  phase : FetchPhase

inductive Login
  | requested
  | reading
  | gettingUser (fetch : ℕ)
  | readingUser
  | cleaning (fetch : ℕ)
  | settled (loggedIn : Bool)

inductive Logout
  | requested (fetch : ℕ)
  | settled (resolved : Bool)

inductive Restoration
  | refreshing (call : ℕ)
  | gettingUser (fetch : ℕ)
  | readingUser
  | finished

inductive Sender
  | apiFetch (fetch : ℕ)
  | refresh (promise : ℕ)
  | login (login : ℕ)
  deriving DecidableEq

structure Request where
  sender : Sender
  token : Option String
  deriving DecidableEq

variable {User : Type}

/-- The page: the state of its modules, its calls, and the requests that `fetch` has sent. -/
structure Page (User : Type) where
  accessToken : Option String
  refreshPromise : Option ℕ
  user : Option User
  refreshes : List Refresh
  refreshCalls : List RefreshCall
  fetches : List ApiFetch
  logins : List Login
  logouts : List Logout
  restoration : Option Restoration
  requests : List Request

namespace Page

def start : Page User := ⟨none, none, none, [], [], [], [], [], none, []⟩

def setAccessToken (page : Page User) (token : String) : Page User :=
  { page with accessToken := some token }

def clearAccessToken (page : Page User) : Page User := { page with accessToken := none }

def clearLocalAuthentication (page : Page User) : Page User :=
  { page.clearAccessToken with user := none }

/-- The listener of `opsflow:unauthorized` runs before `dispatchEvent` returns. -/
def dispatchUnauthorized (page : Page User) : Page User := page.clearLocalAuthentication

def setRefresh (page : Page User) (promise : ℕ) (refresh : Refresh) : Page User :=
  { page with refreshes := page.refreshes.set promise refresh }

def setFetch (page : Page User) (i : ℕ) (fetch : ApiFetch) : Page User :=
  { page with fetches := page.fetches.set i fetch }

def setLogin (page : Page User) (l : ℕ) (login : Login) : Page User :=
  { page with logins := page.logins.set l login }

def setRestoration (page : Page User) (restoration : Restoration) : Page User :=
  { page with restoration := some restoration }

/-! ## The refresh -/

/-- Where the request cannot be built, as with a CSRF cookie that does not decode, the `catch` is
reached before anything is sent. -/
def performAccessTokenRefresh (page : Page User) (sendable : Bool) : Page User :=
  if sendable then
    { page with
      refreshes := page.refreshes ++ [.fetching]
      requests := page.requests ++ [⟨.refresh page.refreshes.length, none⟩] }
  else
    { page.clearAccessToken with refreshes := page.refreshes ++ [.settled none] }

def refreshAnswered (page : Page User) (promise : ℕ) : Option Response → Page User
  | some response =>
    if response.ok then page.setRefresh promise .reading
    else page.clearAccessToken.setRefresh promise (.settled none)
  | none => page.clearAccessToken.setRefresh promise (.settled none)

def refreshRead (page : Page User) (promise : ℕ) (body : Option Json) : Page User :=
  match accessTokenOf body with
  | some token => (page.setAccessToken token).setRefresh promise (.settled (some token))
  | none => page.clearAccessToken.setRefresh promise (.settled none)

def refreshAccessToken (page : Page User) (caller : RefreshCaller) (sendable : Bool) : Page User :=
  match page.refreshPromise with
  | some promise =>
    { page with refreshCalls := page.refreshCalls ++ [⟨caller, promise, false, none⟩] }
  | none =>
    { page.performAccessTokenRefresh sendable with
      refreshPromise := some page.refreshes.length
      refreshCalls := page.refreshCalls ++ [⟨caller, page.refreshes.length, true, none⟩] }

/-- A call goes on with what its promise has come to; its `finally` is the creator's. -/
def refreshReturned (page : Page User) (c : ℕ) (call : RefreshCall) (result : Option String) :
    Page User :=
  { page with
    refreshPromise := if call.creator then none else page.refreshPromise
    refreshCalls := page.refreshCalls.set c { call with received := some result } }

/-! ## Requests -/

def apiFetch (page : Page User) (sendable : Bool) : Page User :=
  if sendable then
    { page with
      fetches := page.fetches ++ [⟨page.accessToken, .sent⟩]
      requests := page.requests ++ [⟨.apiFetch page.fetches.length, bearer page.accessToken⟩] }
  else { page with fetches := page.fetches ++ [⟨page.accessToken, .settled none⟩] }

def settleFetch (page : Page User) (i : ℕ) (fetch : ApiFetch) (answer : Option Response) :
    Page User :=
  page.setFetch i { fetch with phase := .settled answer }

def fetchAnswered (page : Page User) (i : ℕ) (fetch : ApiFetch) (sendable : Bool) :
    Option Response → Page User
  | none => page.settleFetch i fetch none
  | some response =>
    if bearer fetch.currentToken = none then page.settleFetch i fetch (some response)
    else if response.status ≠ 401 then page.settleFetch i fetch (some response)
    else if readAuthErrorCode response ≠ some .accessCredentialsInvalid then
      page.clearAccessToken.dispatchUnauthorized.settleFetch i fetch (some response)
    else (page.refreshAccessToken (.apiFetch i) sendable).setFetch i
      { fetch with phase := .refreshing response page.refreshCalls.length }

def fetchRefreshed (page : Page User) (i : ℕ) (fetch : ApiFetch) (response : Response)
    (replacementToken : Option String) (sendable : Bool) : Page User :=
  if bearer replacementToken = none then
    page.clearAccessToken.dispatchUnauthorized.settleFetch i fetch (some response)
  else if sendable then
    { page.setFetch i { fetch with phase := .retried } with
      requests := page.requests ++ [⟨.apiFetch i, bearer replacementToken⟩] }
  else page.settleFetch i fetch none

def retryAnswered (page : Page User) (i : ℕ) (fetch : ApiFetch) : Option Response → Page User
  | none => page.settleFetch i fetch none
  | some response =>
    if response.status = 401 then
      page.clearAccessToken.dispatchUnauthorized.settleFetch i fetch (some response)
    else page.settleFetch i fetch (some response)

/-! ## Login, logout and the load of the page -/

def login (page : Page User) : Page User :=
  { page with
    logins := page.logins ++ [.requested]
    requests := page.requests ++ [⟨.login page.logins.length, none⟩] }

def loginAnswered (page : Page User) (l : ℕ) : Option Response → Page User
  | some response => page.setLogin l (if response.ok then .reading else .settled false)
  | none => page.setLogin l (.settled false)

/-- The token of the body is taken as the type of the body declares it, as a text. -/
def loginRead (page : Page User) (l : ℕ) (body : Option String) (sendable : Bool) : Page User :=
  match body with
  | some token =>
    ((page.setAccessToken token).apiFetch sendable).setLogin l (.gettingUser page.fetches.length)
  | none => page.setLogin l (.settled false)

/-- `logoutRequest`, in the `catch` of a login. -/
def cleanLogin (page : Page User) (l : ℕ) (sendable : Bool) : Page User :=
  (page.apiFetch sendable).setLogin l (.cleaning page.fetches.length)

def isOk (answer : Option Response) : Bool := answer.any Response.ok

def loginUserAnswered (page : Page User) (l : ℕ) (answer : Option Response) (sendable : Bool) :
    Page User :=
  if isOk answer then page.setLogin l .readingUser else page.cleanLogin l sendable

def loginUserRead (page : Page User) (l : ℕ) (user : Option User) (sendable : Bool) : Page User :=
  match user with
  | some user => { page.setLogin l (.settled true) with user := some user }
  | none => page.cleanLogin l sendable

def loginCleaned (page : Page User) (l : ℕ) : Page User :=
  page.clearLocalAuthentication.setLogin l (.settled false)

def logout (page : Page User) (sendable : Bool) : Page User :=
  { page.apiFetch sendable with logouts := page.logouts ++ [.requested page.fetches.length] }

def logoutAnswered (page : Page User) (o : ℕ) (answer : Option Response) : Page User :=
  { page.clearLocalAuthentication with logouts := page.logouts.set o (.settled (isOk answer)) }

def restoreAuthentication (page : Page User) (sendable : Bool) : Page User :=
  (page.refreshAccessToken .page sendable).setRestoration (.refreshing page.refreshCalls.length)

def restoreRefreshed (page : Page User) (token : Option String) (sendable : Bool) : Page User :=
  if bearer token = none then page.clearLocalAuthentication.setRestoration .finished
  else (page.apiFetch sendable).setRestoration (.gettingUser page.fetches.length)

def restoreUserAnswered (page : Page User) (answer : Option Response) : Page User :=
  if isOk answer then page.setRestoration .readingUser
  else page.clearLocalAuthentication.setRestoration .finished

def restoreUserRead (page : Page User) : Option User → Page User
  | some user => { page.setRestoration .finished with user := some user }
  | none => page.clearLocalAuthentication.setRestoration .finished

end Page

/-! ## The page, step by step -/

/-- What happens next: a call from the page, an answer of the network, or a call that goes on. Where
there is no answer, `fetch` or `response.json()` has been rejected; a request that is not sendable
cannot be built. -/
inductive Event (User : Type)
  | apiFetch (sendable : Bool)
  | refreshAccessToken (sendable : Bool)
  | login
  | logout (sendable : Bool)
  | restoreAuthentication (sendable : Bool)
  | refreshAnswered (promise : ℕ) (answer : Option Response)
  | refreshRead (promise : ℕ) (body : Option Json)
  | refreshReturned (call : ℕ)
  | fetchAnswered (fetch : ℕ) (answer : Option Response) (sendable : Bool)
  | fetchRefreshed (fetch : ℕ) (sendable : Bool)
  | retryAnswered (fetch : ℕ) (answer : Option Response)
  | loginAnswered (login : ℕ) (answer : Option Response)
  | loginRead (login : ℕ) (body : Option String) (sendable : Bool)
  | loginUserAnswered (login : ℕ) (sendable : Bool)
  | loginUserRead (login : ℕ) (user : Option User) (sendable : Bool)
  | loginCleaned (login : ℕ)
  | logoutAnswered (logout : ℕ)
  | restoreRefreshed (sendable : Bool)
  | restoreUserAnswered
  | restoreUserRead (user : Option User)

/-- Between two suspensions a call runs undisturbed; which of those that can go on does
so is open. -/
inductive Page.Step : Page User → Event User → Page User → Prop
  | apiFetch {page : Page User} (sendable : Bool) :
      Step page (.apiFetch sendable) (page.apiFetch sendable)
  | refreshAccessToken {page : Page User} (sendable : Bool) :
      Step page (.refreshAccessToken sendable) (page.refreshAccessToken .page sendable)
  | login {page : Page User} : Step page .login page.login
  | logout {page : Page User} (sendable : Bool) :
    Step page (.logout sendable) (page.logout sendable)
  | restoreAuthentication {page : Page User} (sendable : Bool) : page.restoration = none →
      Step page (.restoreAuthentication sendable) (page.restoreAuthentication sendable)
  | refreshAnswered {page : Page User} {p : ℕ} (answer : Option Response) :
      page.refreshes[p]? = some .fetching →
      Step page (.refreshAnswered p answer) (page.refreshAnswered p answer)
  | refreshRead {page : Page User} {p : ℕ} (body : Option Json) :
      page.refreshes[p]? = some .reading → Step page (.refreshRead p body) (page.refreshRead p body)
  | refreshReturned {page : Page User} {c : ℕ} {call : RefreshCall} {result : Option String} :
      page.refreshCalls[c]? = some call → call.received = none →
      page.refreshes[call.promise]? = some (.settled result) →
      Step page (.refreshReturned c) (page.refreshReturned c call result)
  | fetchAnswered {page : Page User} {i : ℕ} {fetch : ApiFetch} (answer : Option Response)
      (sendable : Bool) : page.fetches[i]? = some fetch → fetch.phase = .sent →
      Step page (.fetchAnswered i answer sendable) (page.fetchAnswered i fetch sendable answer)
  | fetchRefreshed {page : Page User} {i c : ℕ} {fetch : ApiFetch} {response : Response}
      {call : RefreshCall} {result : Option String} (sendable : Bool) :
      page.fetches[i]? = some fetch → fetch.phase = .refreshing response c →
      page.refreshCalls[c]? = some call → call.received = some result →
      Step page (.fetchRefreshed i sendable) (page.fetchRefreshed i fetch response result sendable)
  | retryAnswered {page : Page User} {i : ℕ} {fetch : ApiFetch} (answer : Option Response) :
      page.fetches[i]? = some fetch → fetch.phase = .retried →
      Step page (.retryAnswered i answer) (page.retryAnswered i fetch answer)
  | loginAnswered {page : Page User} {l : ℕ} (answer : Option Response) :
      page.logins[l]? = some .requested →
      Step page (.loginAnswered l answer) (page.loginAnswered l answer)
  | loginRead {page : Page User} {l : ℕ} (body : Option String) (sendable : Bool) :
      page.logins[l]? = some .reading →
      Step page (.loginRead l body sendable) (page.loginRead l body sendable)
  | loginUserAnswered {page : Page User} {l i : ℕ} {token : Option String}
    {answer : Option Response}
      (sendable : Bool) : page.logins[l]? = some (.gettingUser i) →
      page.fetches[i]? = some ⟨token, .settled answer⟩ →
      Step page (.loginUserAnswered l sendable) (page.loginUserAnswered l answer sendable)
  | loginUserRead {page : Page User} {l : ℕ} (user : Option User) (sendable : Bool) :
      page.logins[l]? = some .readingUser →
      Step page (.loginUserRead l user sendable) (page.loginUserRead l user sendable)
  | loginCleaned {page : Page User} {l i : ℕ} {token : Option String} {answer : Option Response} :
      page.logins[l]? = some (.cleaning i) → page.fetches[i]? = some ⟨token, .settled answer⟩ →
      Step page (.loginCleaned l) (page.loginCleaned l)
  | logoutAnswered {page : Page User} {o i : ℕ} {token : Option String} {answer : Option Response} :
      page.logouts[o]? = some (.requested i) → page.fetches[i]? = some ⟨token, .settled answer⟩ →
      Step page (.logoutAnswered o) (page.logoutAnswered o answer)
  | restoreRefreshed {page : Page User} {c : ℕ} {call : RefreshCall} {result : Option String}
      (sendable : Bool) : page.restoration = some (.refreshing c) →
      page.refreshCalls[c]? = some call → call.received = some result →
      Step page (.restoreRefreshed sendable) (page.restoreRefreshed result sendable)
  | restoreUserAnswered {page : Page User} {i : ℕ} {token : Option String}
    {answer : Option Response} :
      page.restoration = some (.gettingUser i) → page.fetches[i]? = some ⟨token, .settled answer⟩ →
      Step page .restoreUserAnswered (page.restoreUserAnswered answer)
  | restoreUserRead {page : Page User} (user : Option User) :
      page.restoration = some .readingUser →
        Step page (.restoreUserRead user) (page.restoreUserRead user)

end OpsFlow.Frontend
