import OpsFlow.Text
import OpsFlow.Auth.Domain
import Mathlib.Data.Finset.Dedup
import Mathlib.Data.Rat.Floor

namespace OpsFlow.ServiceIdentity

/-! ## Scopes -/

/-- Both services define the same three. -/
inductive ServiceScope
  | incidentsRead
  | incidentsWrite
  | servicesRead
  deriving DecidableEq

def ServiceScope.value : ServiceScope → String
  | .incidentsRead => "incidents:read"
  | .incidentsWrite => "incidents:write"
  | .servicesRead => "services:read"

/-- `ServiceScope(scope_name)`; `none` is its `ValueError`. -/
def ServiceScope.ofValue? (name : String) : Option ServiceScope :=
  [.incidentsRead, .incidentsWrite, .servicesRead].find? fun scope => scope.value = name

/-! ## Moments -/

/-- `datetime.min` and `datetime.max`, in UTC. -/
def datetimeMin : ℤ := -62135596800000000
def datetimeMax : ℤ := 253402300799999999

/-- A timezone-aware `datetime`, as `astimezone(UTC)` leaves it: microseconds since 1970. -/
structure Datetime where
  instant : ℤ
  lower : datetimeMin ≤ instant
  upper : instant ≤ datetimeMax

/-- The `datetime` of a moment, if there is one. -/
def Datetime.of? (t : ℤ) : Option Datetime :=
  if h : datetimeMin ≤ t ∧ t ≤ datetimeMax then some ⟨t, h.1, h.2⟩ else none

/-- Of two numbers that are equally near, the even one. -/
def roundHalfEven (q : ℚ) : ℤ :=
  let rest := q - ⌊q⌋
  if rest < 1 / 2 then ⌊q⌋
  else if rest = 1 / 2 then (if Even ⌊q⌋ then ⌊q⌋ else ⌊q⌋ + 1)
  else ⌊q⌋ + 1

/-- `datetime.fromtimestamp(value, tz=UTC)`; `none` stands for its `OSError`, `OverflowError` and
`ValueError`. -/
def fromtimestamp (value : ℚ) : Option Datetime := Datetime.of? (roundHalfEven (value * 1000000))

/-! ## JWTs -/

/-- A value in a header or a payload; `json.loads` reads NaN and the infinities too. -/
inductive Claim
  | json (value : Json)
  | nonFinite

abbrev Claims := List (String × Claim)

def text? (claims : Claims) (name : String) : Option String :=
  match claims.lookup name with
  | some (.json (.string s)) => some s
  | _ => none

def text (s : String) : Claim := .json (.string s)

def number (n : ℤ) : Claim := .json (.number n)

/-- A token of three segments, with the private key that has signed it; `none` stands for a
signature of nobody. -/
structure Jws (PrivateKey : Type) where
  header : Claims
  payload : Claims
  signer : Option PrivateKey

/-- What the code tells apart in a `PyJWTError`. -/
inductive PyJwtError
  | invalidSignature
  | invalidIssuer
  | invalidAudience
  | other

/-- What PyJWT raises: of the exceptions of its `json.loads` it turns a `ValueError` into a
`DecodeError`, and no other one. -/
inductive PyJwtFailure
  | pyJwtError (error : PyJwtError)
  | recursionError

def requiredClaims : List String :=
  ["iss", "sub", "aud", "iat", "nbf", "exp", "jti", "token_use", "scope"]

/-- The header that `jwt.encode` writes, in the order of the names. -/
def serviceHeader (keyId : String) : Claims :=
  [("alg", text "RS256"), ("kid", text keyId), ("typ", text "JWT")]

/-- The registered claims are of the types that the library knows, and each of the required claims
is there. -/
structure Conforming (payload : Claims) (audience issuer : String) : Prop where
  issuer : payload.lookup "iss" = some (text issuer)
  audience : payload.lookup "aud" = some (text audience)
  subject : ∃ s, payload.lookup "sub" = some (text s)
  tokenId : ∃ s, payload.lookup "jti" = some (text s)
  dates : ∀ name ∈ ["iat", "nbf", "exp"], ∃ n, payload.lookup name = some (number n)
  others : ∀ name ∈ ["token_use", "scope"], ∃ s, payload.lookup name = some (text s)

/-- PyJWT with ideal RS256 signatures. `read` is what is written in a token whose header and payload
both load; the two functions refuse whatever they do not understand. `json.loads` gives up on a text
that is nested deeper than `recursionLimit`, and on no other one. -/
structure PyJwt (PrivateKey PublicKey : Type) where
  publicKey : PrivateKey → PublicKey
  encode : Jws PrivateKey → String
  read : String → Option (Jws PrivateKey)
  read_blank {token : String} : stripped pythonSpace token = "" → read token = none
  recursionLimit : ℕ
  /-- How deep the arrays and objects of the first segment are nested, and of the second one. -/
  headerDepth : String → ℕ
  payloadDepth : String → ℕ
  getUnverifiedHeader : String → Except PyJwtFailure Claims
  /-- `decode` with `algorithms=["RS256"]`, the required claims, and no check of the times. -/
  decode (token : String) (key : PublicKey) (audience issuer : String) : Except PyJwtFailure Claims
  header_of_recursion {token : String} : getUnverifiedHeader token = .error .recursionError →
    recursionLimit < headerDepth token
  decode_of_recursion {token audience issuer : String} {key : PublicKey} :
    decode token key audience issuer = .error .recursionError →
    recursionLimit < headerDepth token ∨ recursionLimit < payloadDepth token
  header_of_ok {token : String} {header : Claims} {jws : Jws PrivateKey} :
    getUnverifiedHeader token = .ok header → read token = some jws → jws.header = header
  header_of_read {token keyId : String} {jws : Jws PrivateKey} : read token = some jws →
    jws.header = serviceHeader keyId → getUnverifiedHeader token = .ok jws.header
  decode_of_ok {token audience issuer : String} {key : PublicKey} {payload : Claims} :
    decode token key audience issuer = .ok payload → ∃ jws, read token = some jws ∧
      jws.payload = payload ∧ text? jws.header "alg" = some "RS256" ∧
      ∃ signer ∈ jws.signer, publicKey signer = key
  decode_of_read {token keyId audience issuer : String} {jws : Jws PrivateKey}
    {signer : PrivateKey} : read token = some jws → jws.header = serviceHeader keyId →
    jws.signer = some signer → Conforming jws.payload audience issuer →
    decode token (publicKey signer) audience issuer = .ok jws.payload

/-- A token is read as what has been written. -/
def PyJwt.ReadsBack {PrivateKey PublicKey : Type} (jwt : PyJwt PrivateKey PublicKey)
    (jws : Jws PrivateKey) : Prop := jwt.read (jwt.encode jws) = some jws

/-! ## The issuer -/

inductive IssuerError
  | configuration (message : String)
  | creation (message : String)
  /-- `OverflowError`: there is no such `datetime`. -/
  | overflow

def requireNonEmptyText (value fieldName : String) : Except IssuerError String :=
  let normalizedValue := stripped pythonSpace value
  if normalizedValue = "" then .error (.configuration (fieldName ++ " must not be empty."))
  else .ok normalizedValue

def minimumServiceTokenTtlSeconds : ℤ := 30
def maximumServiceTokenTtlSeconds : ℤ := 120

/-- What its constructor lets through, in both services. -/
structure JwtServiceTokenProvider (PrivateKey : Type) where
  privateKey : PrivateKey
  keyId : String
  issuer : String
  ttlSeconds : ℤ
  keyId_ne : keyId ≠ ""
  issuer_ne : issuer ≠ ""
  ttl_lower : minimumServiceTokenTtlSeconds ≤ ttlSeconds
  ttl_upper : ttlSeconds ≤ maximumServiceTokenTtlSeconds

def scopeValue (scopes : List ServiceScope) : String :=
  " ".intercalate ((scopes.dedup.map ServiceScope.value).mergeSort fun a b => decide (a ≤ b))

namespace JwtServiceTokenProvider
variable {PrivateKey PublicKey : Type}

/-- What is signed; PyJWT writes a `datetime` as the whole seconds of it. -/
def jws (provider : JwtServiceTokenProvider PrivateKey) (audience : String)
    (scopes : List ServiceScope) (issuedAt expiresAt : Datetime) (tokenId : Uuid) :
    Jws PrivateKey where
  header := serviceHeader provider.keyId
  payload :=
    [("iss", text provider.issuer),
     ("sub", text provider.issuer),
     ("aud", text audience),
     ("iat", number (Auth.jwtSeconds issuedAt.instant)),
     ("nbf", number (Auth.jwtSeconds issuedAt.instant)),
     ("exp", number (Auth.jwtSeconds expiresAt.instant)),
     ("jti", text tokenId.str),
     ("token_use", text "service"),
     ("scope", text (scopeValue scopes))]
  signer := some provider.privateKey

/-- `create_token` before it signs, with the moment and the identifier that its clock and its
factory give. -/
def issue (provider : JwtServiceTokenProvider PrivateKey) (audience : String)
    (scopes : List ServiceScope) (issuedAt : Datetime) (tokenId : Uuid) :
    Except IssuerError (Jws PrivateKey) := do
  let normalizedAudience ← requireNonEmptyText audience "audience"
  if scopes = [] then
    throw (.creation "At least one service scope is required.")
  match Datetime.of? (issuedAt.instant + provider.ttlSeconds * 1000000) with
  | none => throw .overflow
  | some expiresAt => return provider.jws normalizedAudience scopes issuedAt expiresAt tokenId

def createToken (jwt : PyJwt PrivateKey PublicKey) (provider : JwtServiceTokenProvider PrivateKey)
    (audience : String) (scopes : List ServiceScope) (issuedAt : Datetime) (tokenId : Uuid) :
    Except IssuerError String :=
  (provider.issue audience scopes issuedAt tokenId).map jwt.encode

end JwtServiceTokenProvider

/-! ## The verifier -/

inductive ServiceAuthenticationFailureReason
  | malformedCredential
  | invalidAlgorithm
  | invalidTokenType
  | missingKeyId
  | unknownKey
  | invalidSignature
  | invalidIssuer
  | invalidAudience
  | invalidClaimContract
  | invalidTokenUse
  | invalidLifetime
  | invalidScopeContract
  deriving DecidableEq

inductive VerifierError
  | authentication (reason : ServiceAuthenticationFailureReason)
  /-- `OverflowError`: there is no such `datetime`. -/
  | overflow
  /-- `RecursionError`, as `json.loads` raises it in PyJWT. -/
  | recursion
  deriving DecidableEq

structure ServicePrincipal where
  issuer : String
  subject : String
  audience : String
  tokenId : Uuid
  issuedAt : Datetime
  notBefore : Datetime
  expiresAt : Datetime
  scopes : Finset ServiceScope

/-- What its constructor lets through, in both services: one key, or two during a rotation. -/
structure JwtServiceTokenVerifier (PublicKey : Type) where
  publicKeys : List (String × PublicKey)
  expectedIssuer : String
  expectedAudience : String
  clockSkewSeconds : ℤ
  keys_ne : publicKeys ≠ []
  keys_le : publicKeys.length ≤ 2
  skew_lower : 0 ≤ clockSkewSeconds
  skew_upper : clockSkewSeconds ≤ 30

def reject {α : Type} (reason : ServiceAuthenticationFailureReason) : Except VerifierError α :=
  .error (.authentication reason)

def Datetime.plus (d : Datetime) (seconds : ℤ) : Except VerifierError Datetime :=
  match Datetime.of? (d.instant + seconds * 1000000) with
  | some sum => .ok sum
  | none => .error .overflow

def numericDate (payload : Claims) (claimName : String) : Except VerifierError Datetime :=
  match payload.lookup claimName with
  | some (.json (.number value)) =>
    match fromtimestamp value with
    | some moment => .ok moment
    | none => reject .invalidClaimContract
  | _ => reject .invalidClaimContract

def scopes (payload : Claims) : Except VerifierError (Finset ServiceScope) :=
  match text? payload "scope" with
  | none => reject .invalidScopeContract
  | some scopeValue =>
    let scopeNames := words scopeValue
    if scopeNames = [] ∨ ¬ scopeNames.Nodup then reject .invalidScopeContract
    else
      match scopeNames.mapM ServiceScope.ofValue? with
      | some scopes => .ok scopes.toFinset
      | none => reject .invalidScopeContract

/-- The three dates of a payload, in the order of the checks on them. -/
def lifetime (payload : Claims) : Except VerifierError (Datetime × Datetime × Datetime) := do
  let issuedAt ← numericDate payload "iat"
  let notBefore ← numericDate payload "nbf"
  let expiresAt ← numericDate payload "exp"
  if notBefore.instant ≠ issuedAt.instant then
    reject .invalidLifetime
  let tokenLifetime := expiresAt.instant - issuedAt.instant
  if ¬ (minimumServiceTokenTtlSeconds * 1000000 ≤ tokenLifetime ∧
      tokenLifetime ≤ maximumServiceTokenTtlSeconds * 1000000) then
    reject .invalidLifetime
  return (issuedAt, notBefore, expiresAt)

namespace JwtServiceTokenVerifier
variable {PrivateKey PublicKey : Type}

def identity (verifier : JwtServiceTokenVerifier PublicKey) (payload : Claims) :
    Except VerifierError (String × String × String × Uuid) :=
  match text? payload "iss", text? payload "sub", text? payload "aud" with
  | some issuer, some subject, some audience =>
    if issuer ≠ verifier.expectedIssuer ∨ subject ≠ verifier.expectedIssuer ∨
        audience ≠ verifier.expectedAudience then
      reject .invalidClaimContract
    else if text? payload "token_use" ≠ some "service" then reject .invalidTokenUse
    else
      match (text? payload "jti").bind Uuid.parse? with
      | some tokenId => .ok (issuer, subject, audience, tokenId)
      | none => reject .invalidClaimContract
  | _, _, _ => reject .invalidClaimContract

/-- The moment is not before the token is valid, nor when it has expired, give or take the skew. -/
def withinWindow (verifier : JwtServiceTokenVerifier PublicKey)
    (issuedAt notBefore expiresAt now : Datetime) : Except VerifierError Unit := do
  let latest ← now.plus verifier.clockSkewSeconds
  if issuedAt.instant > latest.instant ∨ notBefore.instant > latest.instant then
    reject .invalidLifetime
  let ends ← expiresAt.plus verifier.clockSkewSeconds
  if now.instant ≥ ends.instant then
    reject .invalidLifetime

def principalFromPayload (verifier : JwtServiceTokenVerifier PublicKey) (payload : Claims)
    (now : Datetime) : Except VerifierError ServicePrincipal := do
  let (issuer, subject, audience, tokenId) ← verifier.identity payload
  let (issuedAt, notBefore, expiresAt) ← lifetime payload
  verifier.withinWindow issuedAt notBefore expiresAt now
  let scopes ← scopes payload
  return { issuer, subject, audience, tokenId, issuedAt, notBefore, expiresAt, scopes }

/-- The key that a header asks for. -/
def keyOf (verifier : JwtServiceTokenVerifier PublicKey) (header : Claims) :
    Except VerifierError PublicKey :=
  if text? header "alg" ≠ some "RS256" then reject .invalidAlgorithm
  else if text? header "typ" ≠ some "JWT" then reject .invalidTokenType
  else
    match text? header "kid" with
    | none | some "" => reject .missingKeyId
    | some keyId =>
      match verifier.publicKeys.lookup keyId with
      | some publicKey => .ok publicKey
      | none => reject .unknownKey

/-- How an exception of `jwt.decode` is passed on. -/
def reasonOf : PyJwtError → ServiceAuthenticationFailureReason
  | .invalidSignature => .invalidSignature
  | .invalidIssuer => .invalidIssuer
  | .invalidAudience => .invalidAudience
  | .other => .invalidClaimContract

/-- `verify_token`, at the moment that its clock gives. -/
def verifyToken (jwt : PyJwt PrivateKey PublicKey) (verifier : JwtServiceTokenVerifier PublicKey)
    (token : String) (now : Datetime) : Except VerifierError ServicePrincipal := do
  if stripped pythonSpace token = "" then
    reject .malformedCredential
  match jwt.getUnverifiedHeader token with
  | .error .recursionError => throw .recursion
  | .error (.pyJwtError _) => reject .malformedCredential
  | .ok header =>
    let publicKey ← verifier.keyOf header
    match jwt.decode token publicKey verifier.expectedAudience verifier.expectedIssuer with
    | .error .recursionError => throw .recursion
    | .error (.pyJwtError e) => reject (reasonOf e)
    | .ok payload => verifier.principalFromPayload payload now

end JwtServiceTokenVerifier

end OpsFlow.ServiceIdentity
