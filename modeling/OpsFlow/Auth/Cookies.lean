import OpsFlow.Auth.Domain

namespace OpsFlow.Auth

/-- What `response.set_cookie` is called with. -/
structure SetCookie where
  key : String
  value : String
  httponly : Bool
  secure : Bool
  samesite : String
  path : String
  maxAge : Option ℤ
  deriving DecidableEq

structure CookieSettings where
  refreshCookieName : String
  csrfCookieName : String
  refreshCookieSamesite : String
  apiV1Prefix : String
  isProduction : Bool

def CookieSettings.refreshCookiePath (settings : CookieSettings) : String :=
  settings.apiV1Prefix ++ "/auth"

/-- `_refresh_cookie_max_age`: the token is decoded at one moment, and the clock is read again for
the whole seconds that are left. -/
def refreshCookieMaxAge (token : RefreshToken) (decodedAt now : Timestamp) :
    Except AuthError ℤ := do
  let claims ← decodeRefreshToken (some token) decodedAt
  return max 0 (Int.tdiv (claims.expiresAt * 1000000 - now) 1000000)

/-- `set_refresh_cookie`; `text` is the encoded token. -/
def setRefreshCookie (settings : CookieSettings) (token : RefreshToken) (text : String)
    (decodedAt now : Timestamp) : Except AuthError SetCookie := do
  let maxAge ← refreshCookieMaxAge token decodedAt now
  return { key := settings.refreshCookieName
           value := text
           httponly := true
           secure := settings.isProduction
           samesite := settings.refreshCookieSamesite
           path := settings.refreshCookiePath
           maxAge := some maxAge }

def setCsrfCookie (settings : CookieSettings) (token : String) : SetCookie :=
  { key := settings.csrfCookieName
    value := token
    httponly := false
    secure := settings.isProduction
    samesite := settings.refreshCookieSamesite
    path := "/"
    maxAge := none }

theorem refreshCookieMaxAge_eq_ok {token : RefreshToken} {decodedAt now : Timestamp} {age : ℤ}
    (h : refreshCookieMaxAge token decodedAt now = .ok age) :
    jwtTimely token.issuedAt token.expiresAt decodedAt ∧
      age = max 0 (Int.tdiv (token.expiresAt * 1000000 - now) 1000000) := by
  unfold refreshCookieMaxAge decodeRefreshToken at h
  by_cases htimely : jwtTimely token.issuedAt token.expiresAt decodedAt
  · simp only [htimely, if_true, bind, Except.bind] at h
    exact ⟨htimely, (Except.ok.inj h).symm⟩
  · simp only [htimely, if_false, bind, Except.bind] at h
    contradiction

end OpsFlow.Auth
