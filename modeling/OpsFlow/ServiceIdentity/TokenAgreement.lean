import OpsFlow.ServiceIdentity.Tokens
import Mathlib.Data.Set.List
import Mathlib.Tactic.Linarith

namespace OpsFlow.ServiceIdentity
variable {PrivateKey PublicKey : Type} {jwt : PyJwt PrivateKey PublicKey}
  {provider : JwtServiceTokenProvider PrivateKey} {verifier : JwtServiceTokenVerifier PublicKey}
  {payload : Claims} {now : Datetime}

/-! ## Moments -/

theorem Datetime.of?_of_bounds {t : ℤ} (hlower : datetimeMin ≤ t) (hupper : t ≤ datetimeMax) :
    Datetime.of? t = some ⟨t, hlower, hupper⟩ := dif_pos ⟨hlower, hupper⟩

theorem roundHalfEven_intCast (n : ℤ) : roundHalfEven n = n := by
  unfold roundHalfEven
  rw [Int.floor_intCast, sub_self, if_pos (by norm_num)]

/-- Whole seconds are read exactly. -/
theorem fromtimestamp_intCast (n : ℤ) : fromtimestamp n = Datetime.of? (n * 1000000) := by
  unfold fromtimestamp
  have hcast : (n : ℚ) * 1000000 = ((n * 1000000 : ℤ) : ℚ) := by push_cast; rfl
  rw [hcast, roundHalfEven_intCast]

theorem jwtSeconds_bounds (d : Datetime) : datetimeMin ≤ Auth.jwtSeconds d.instant * 1000000 ∧
    Auth.jwtSeconds d.instant * 1000000 ≤ datetimeMax := by
  have hfloor {t : ℤ} (hlower : -62135596800000000 ≤ t) (hupper : t ≤ 253402300799999999) :
      -62135596800000000 ≤ t / 1000000 * 1000000 ∧ t / 1000000 * 1000000 ≤ 253402300799999999 := by
    omega
  exact hfloor d.lower d.upper

def Datetime.floor (d : Datetime) : Datetime :=
  ⟨Auth.jwtSeconds d.instant * 1000000, (jwtSeconds_bounds d).1, (jwtSeconds_bounds d).2⟩

theorem numericDate_number {name : String} {d : Datetime}
    (h : payload.lookup name = some (number (Auth.jwtSeconds d.instant))) :
    numericDate payload name = .ok d.floor := by
  have hbounds := jwtSeconds_bounds d
  unfold numericDate
  rw [h]
  simp only [number, fromtimestamp_intCast, Datetime.of?_of_bounds hbounds.1 hbounds.2]
  rfl

/-! ## Scopes -/

theorem ServiceScope.ofValue?_value (scope : ServiceScope) :
    ServiceScope.ofValue? scope.value = some scope := by
  cases scope <;> decide

theorem ServiceScope.value_injective : Function.Injective ServiceScope.value := by
  intro a b h
  have hread := congrArg ServiceScope.ofValue? h
  rw [ofValue?_value, ofValue?_value] at hread
  exact Option.some.inj hread

theorem ServiceScope.value_ne (scope : ServiceScope) : scope.value ≠ "" := by
  cases scope <;> decide

theorem ServiceScope.value_plain (scope : ServiceScope) :
    ∀ c ∈ scope.value.toList, pythonSpace c = false := by
  cases scope <;> decide

def sortedNames (scopes : List ServiceScope) : List String :=
  (scopes.dedup.map ServiceScope.value).mergeSort fun a b => decide (a ≤ b)

theorem sortedNames_perm (scopes : List ServiceScope) :
    (sortedNames scopes).Perm (scopes.dedup.map ServiceScope.value) := List.mergeSort_perm ..

theorem words_scopeValue (scopes : List ServiceScope) :
    words (scopeValue scopes) = sortedNames scopes := by
  have hname {s : String} (h : s ∈ sortedNames scopes) : ∃ scope, ServiceScope.value scope = s := by
    obtain ⟨scope, -, heq⟩ := List.mem_map.mp ((sortedNames_perm scopes).mem_iff.mp h)
    exact ⟨scope, heq⟩
  apply words_join
  · intro s h
    obtain ⟨scope, rfl⟩ := hname h
    exact scope.value_ne
  · intro s h
    obtain ⟨scope, rfl⟩ := hname h
    exact scope.value_plain

/-- The names, whatever their order, are those of the scopes. -/
theorem scopes_of_sortedNames (scopes : List ServiceScope) :
    ∃ read, (sortedNames scopes).mapM ServiceScope.ofValue? = some read ∧
      read.toFinset = scopes.toFinset := by
  have hperm := sortedNames_perm scopes
  obtain ⟨read, hread⟩ : ∃ read, List.map ServiceScope.value read = sortedNames scopes := by
    have hrange : sortedNames scopes ∈ Set.range (List.map ServiceScope.value) := by
      rw [Set.range_list_map]
      intro s h
      obtain ⟨scope, -, heq⟩ := List.mem_map.mp (hperm.mem_iff.mp h)
      exact ⟨scope, heq⟩
    exact hrange
  refine ⟨read, by rw [← hread, mapM_eq_self fun scope _ => scope.ofValue?_value], ?_⟩
  ext scope
  have hmem : scope.value ∈ sortedNames scopes ↔
      scope.value ∈ scopes.dedup.map ServiceScope.value :=
    hperm.mem_iff
  rw [← hread, List.mem_map_of_injective ServiceScope.value_injective,
    List.mem_map_of_injective ServiceScope.value_injective] at hmem
  simpa using hmem

theorem scopes_scopeValue {scopes : List ServiceScope} (hne : scopes ≠ [])
    (h : payload.lookup "scope" = some (text (scopeValue scopes))) :
    ServiceIdentity.scopes payload = .ok scopes.toFinset := by
  obtain ⟨read, hread, hsame⟩ := scopes_of_sortedNames scopes
  have hperm := sortedNames_perm scopes
  have hnodup : (sortedNames scopes).Nodup :=
    hperm.nodup_iff.mpr ((List.nodup_dedup scopes).map ServiceScope.value_injective)
  have hsome : sortedNames scopes ≠ [] := by
    intro hnil
    rw [hnil] at hperm
    have hlength := hperm.length_eq
    cases scopes with
    | nil => exact hne rfl
    | cons scope scopes =>
      have hmem : scope ∈ (scope :: scopes).dedup := List.mem_dedup.mpr (List.mem_cons_self ..)
      rw [List.length_nil, List.length_map] at hlength
      exact absurd (List.length_pos_of_mem hmem) (by omega)
  unfold ServiceIdentity.scopes text?
  rw [h]
  simp only [text, words_scopeValue]
  rw [if_neg (by simp [hsome, hnodup]), hread]
  exact congrArg Except.ok hsame

/-! ## The window -/

/-- The moment is so far from the last `datetime` that no sum of the verifier leaves the range. -/
def JwtServiceTokenVerifier.FarFromMax (verifier : JwtServiceTokenVerifier PublicKey)
    (now : Datetime) : Prop :=
  now.instant + (2 * verifier.clockSkewSeconds + maximumServiceTokenTtlSeconds) * 1000000 ≤
    datetimeMax

theorem Datetime.plus_of_le {d : Datetime} {seconds : ℤ} (hseconds : 0 ≤ seconds)
    (h : d.instant + seconds * 1000000 ≤ datetimeMax) :
    ∃ sum, d.plus seconds = .ok sum ∧ sum.instant = d.instant + seconds * 1000000 := by
  have hlower : datetimeMin ≤ d.instant + seconds * 1000000 := by
    have hd := d.lower
    omega
  refine ⟨⟨_, hlower, h⟩, ?_, rfl⟩
  unfold Datetime.plus
  rw [Datetime.of?_of_bounds hlower h]

/-- Far from the end of time, the window is that of the skew. -/
theorem withinWindow_eq {issuedAt notBefore expiresAt : Datetime} (hfar : verifier.FarFromMax now)
    (hsame : notBefore.instant = issuedAt.instant)
    (hlifetime : expiresAt.instant - issuedAt.instant ≤ maximumServiceTokenTtlSeconds * 1000000) :
    verifier.withinWindow issuedAt notBefore expiresAt now =
      if issuedAt.instant ≤ now.instant + verifier.clockSkewSeconds * 1000000 ∧
          now.instant < expiresAt.instant + verifier.clockSkewSeconds * 1000000 then .ok ()
      else reject .invalidLifetime := by
  have hskew := verifier.skew_lower
  unfold JwtServiceTokenVerifier.FarFromMax maximumServiceTokenTtlSeconds at *
  obtain ⟨latest, hlatest, hlatestAt⟩ := now.plus_of_le hskew (by omega)
  unfold JwtServiceTokenVerifier.withinWindow
  simp only [hlatest, bind, Except.bind]
  by_cases hearly : issuedAt.instant > latest.instant
  · rw [if_pos (.inl hearly), if_neg (by omega)]
    rfl
  · obtain ⟨ends, hends, hendsAt⟩ := expiresAt.plus_of_le hskew (by omega)
    rw [if_neg (by omega)]
    simp only [hends, pure, Except.pure]
    by_cases hlate : now.instant ≥ ends.instant
    · rw [if_pos hlate, if_neg (by omega)]
    · rw [if_neg hlate, if_pos (by omega)]

/-! ## Errors -/

/-- A failure is a `ServiceAuthenticationError`. -/
def Authenticates {α : Type} (result : Except VerifierError α) : Prop :=
  ∀ e, result = .error e → ∃ reason, e = .authentication reason

theorem reject_ne_ok {α : Type} {reason : ServiceAuthenticationFailureReason} {a : α} :
    (reject reason : Except VerifierError α) ≠ .ok a := fun h => by cases h

theorem error_ne_ok {α β : Type} {e : VerifierError} {next : β → Except VerifierError α} {a : α} :
    (Except.error e >>= next) ≠ .ok a := fun h => by cases h

theorem authenticates_ok {α : Type} (a : α) : Authenticates (.ok a) := fun _ h => by contradiction

theorem authenticates_reject {α : Type} (reason : ServiceAuthenticationFailureReason) :
    Authenticates (reject reason : Except VerifierError α) :=
  fun _ h => ⟨reason, (Except.error.inj h).symm⟩

theorem Authenticates.bind {α β : Type} {result : Except VerifierError α}
    {next : α → Except VerifierError β} (h : Authenticates result)
    (hnext : ∀ a, result = .ok a → Authenticates (next a)) : Authenticates (result >>= next) := by
  cases result with
  | error e =>
    intro e' he
    exact h e' (congrArg Except.error (Except.error.inj he))
  | ok a => exact hnext a rfl

theorem authenticates_numericDate (payload : Claims) (name : String) :
    Authenticates (numericDate payload name) := by
  unfold numericDate
  split
  · split
    · exact authenticates_ok _
    · exact authenticates_reject _
  · exact authenticates_reject _

theorem authenticates_scopes (payload : Claims) :
    Authenticates (ServiceIdentity.scopes payload) := by
  unfold ServiceIdentity.scopes
  split
  · exact authenticates_reject _
  · dsimp only
    split_ifs
    · exact authenticates_reject _
    · split
      · exact authenticates_ok _
      · exact authenticates_reject _

theorem authenticates_identity (payload : Claims) : Authenticates (verifier.identity payload) := by
  unfold JwtServiceTokenVerifier.identity
  split
  · split_ifs
    · exact authenticates_reject _
    · exact authenticates_reject _
    · split
      · exact authenticates_ok _
      · exact authenticates_reject _
  · exact authenticates_reject _

theorem authenticates_keyOf (header : Claims) : Authenticates (verifier.keyOf header) := by
  unfold JwtServiceTokenVerifier.keyOf
  split_ifs
  · exact authenticates_reject _
  · exact authenticates_reject _
  · split
    · exact authenticates_reject _
    · exact authenticates_reject _
    · split
      · exact authenticates_ok _
      · exact authenticates_reject _

theorem authenticates_lifetime (payload : Claims) : Authenticates (lifetime payload) := by
  unfold lifetime
  refine (authenticates_numericDate payload "iat").bind fun issuedAt _ => ?_
  refine (authenticates_numericDate payload "nbf").bind fun notBefore _ => ?_
  refine (authenticates_numericDate payload "exp").bind fun expiresAt _ => ?_
  by_cases hsame : notBefore.instant ≠ issuedAt.instant
  · rw [if_pos hsame]
    exact authenticates_reject _
  · rw [if_neg hsame]
    change Authenticates (if _ then _ else _)
    split
    · exact authenticates_reject _
    · exact authenticates_ok _

theorem lifetime_eq_ok {issuedAt notBefore expiresAt : Datetime}
    (h : lifetime payload = .ok (issuedAt, notBefore, expiresAt)) :
    notBefore.instant = issuedAt.instant ∧
      expiresAt.instant - issuedAt.instant ≤ maximumServiceTokenTtlSeconds * 1000000 := by
  unfold lifetime at h
  cases hissued : numericDate payload "iat" with
  | error e =>
    rw [hissued] at h
    contradiction
  | ok i =>
    cases hbefore : numericDate payload "nbf" with
    | error e =>
      rw [hissued, hbefore] at h
      contradiction
    | ok n =>
      cases hexpires : numericDate payload "exp" with
      | error e =>
        rw [hissued, hbefore, hexpires] at h
        contradiction
      | ok e =>
        rw [hissued, hbefore, hexpires] at h
        simp only [bind, Except.bind, pure, Except.pure, reject] at h
        split_ifs at h with hsame hlong
        · obtain ⟨rfl, rfl, rfl⟩ : i = issuedAt ∧ n = notBefore ∧ e = expiresAt := by
            simpa using h
          exact ⟨not_not.mp hsame, hlong.2⟩

theorem authenticates_principalFromPayload (hfar : verifier.FarFromMax now) (payload : Claims) :
    Authenticates (verifier.principalFromPayload payload now) := by
  unfold JwtServiceTokenVerifier.principalFromPayload
  refine (authenticates_identity payload).bind fun (issuer, subject, audience, tokenId) _ => ?_
  refine (authenticates_lifetime payload).bind fun (issuedAt, notBefore, expiresAt) hlifetime => ?_
  obtain ⟨hsame, hlong⟩ := lifetime_eq_ok hlifetime
  have hwindow : Authenticates (verifier.withinWindow issuedAt notBefore expiresAt now) := by
    rw [withinWindow_eq hfar hsame hlong]
    split
    · exact authenticates_ok _
    · exact authenticates_reject _
  refine hwindow.bind fun _ _ => ?_
  exact (authenticates_scopes payload).bind fun scopes _ => authenticates_ok _

/-- The header and the payload of a token are nested no deeper than `json.loads` can follow. -/
def PyJwt.Shallow (jwt : PyJwt PrivateKey PublicKey) (token : String) : Prop :=
  jwt.headerDepth token ≤ jwt.recursionLimit ∧ jwt.payloadDepth token ≤ jwt.recursionLimit

theorem PyJwt.Shallow.header_ne {token : String} (h : jwt.Shallow token) :
    jwt.getUnverifiedHeader token ≠ .error .recursionError := by
  intro hheader
  exact absurd (jwt.header_of_recursion hheader) (not_lt.mpr h.1)

theorem PyJwt.Shallow.decode_ne {token audience issuer : String} {key : PublicKey}
    (h : jwt.Shallow token) : jwt.decode token key audience issuer ≠ .error .recursionError := by
  intro hdecode
  cases jwt.decode_of_recursion hdecode with
  | inl hheader => exact absurd hheader (not_lt.mpr h.1)
  | inr hpayload => exact absurd hpayload (not_lt.mpr h.2)

theorem authenticates_verifyToken (hfar : verifier.FarFromMax now) {token : String}
    (hshallow : jwt.Shallow token) : Authenticates (verifier.verifyToken jwt token now) := by
  unfold JwtServiceTokenVerifier.verifyToken
  by_cases hblank : stripped pythonSpace token = ""
  · rw [if_pos hblank]
    exact authenticates_reject _
  rw [if_neg hblank]
  cases hheader : jwt.getUnverifiedHeader token with
  | error failure =>
    cases failure with
    | recursionError => exact absurd hheader hshallow.header_ne
    | pyJwtError e => exact authenticates_reject _
  | ok header =>
    refine (authenticates_keyOf header).bind fun publicKey _ => ?_
    cases hdecode : jwt.decode token publicKey verifier.expectedAudience
        verifier.expectedIssuer with
    | error failure =>
      cases failure with
      | recursionError => exact absurd hdecode hshallow.decode_ne
      | pyJwtError e => exact authenticates_reject _
    | ok payload => exact authenticates_principalFromPayload hfar payload

/-! ## What is accepted -/

structure Trusted (jwt : PyJwt PrivateKey PublicKey) (verifier : JwtServiceTokenVerifier PublicKey)
    (jws : Jws PrivateKey) : Prop where
  algorithm : text? jws.header "alg" = some "RS256"
  type : text? jws.header "typ" = some "JWT"
  signature : ∃ keyId signer, text? jws.header "kid" = some keyId ∧ jws.signer = some signer ∧
    verifier.publicKeys.lookup keyId = some (jwt.publicKey signer)
  issuer : text? jws.payload "iss" = some verifier.expectedIssuer
  subject : text? jws.payload "sub" = some verifier.expectedIssuer
  audience : text? jws.payload "aud" = some verifier.expectedAudience
  tokenUse : text? jws.payload "token_use" = some "service"

theorem keyOf_eq_ok {header : Claims} {publicKey : PublicKey}
    (h : verifier.keyOf header = .ok publicKey) :
    text? header "alg" = some "RS256" ∧ text? header "typ" = some "JWT" ∧
      ∃ keyId, text? header "kid" = some keyId ∧
        verifier.publicKeys.lookup keyId = some publicKey := by
  unfold JwtServiceTokenVerifier.keyOf reject at h
  split_ifs at h with halg htyp
  · split at h
    · contradiction
    · contradiction
    · next keyId hkid =>
      split at h
      · next key hkey =>
        obtain rfl := Except.ok.inj h
        exact ⟨not_not.mp halg, not_not.mp htyp, _, hkid, hkey⟩
      · contradiction

theorem identity_eq_ok {issuer subject audience : String} {tokenId : Uuid}
    (h : verifier.identity payload = .ok (issuer, subject, audience, tokenId)) :
    text? payload "iss" = some verifier.expectedIssuer ∧
      text? payload "sub" = some verifier.expectedIssuer ∧
      text? payload "aud" = some verifier.expectedAudience ∧
      text? payload "token_use" = some "service" := by
  unfold JwtServiceTokenVerifier.identity reject at h
  split at h
  · next i s a hiss hsub haud =>
    split_ifs at h with hother huse
    · rw [not_or, not_or] at hother
      obtain ⟨hi, hs, ha⟩ := hother
      rw [hiss, hsub, haud, not_not.mp hi, not_not.mp hs, not_not.mp ha]
      exact ⟨rfl, rfl, rfl, not_not.mp huse⟩
  · contradiction

theorem verifyToken_eq_ok {token : String} {principal : ServicePrincipal}
    (h : verifier.verifyToken jwt token now = .ok principal) :
    ∃ jws, jwt.read token = some jws ∧ Trusted jwt verifier jws := by
  unfold JwtServiceTokenVerifier.verifyToken at h
  by_cases hblank : stripped pythonSpace token = ""
  · rw [if_pos hblank] at h
    exact absurd h error_ne_ok
  rw [if_neg hblank] at h
  cases hheader : jwt.getUnverifiedHeader token with
  | error failure =>
    cases failure with
    | recursionError =>
      rw [hheader] at h
      contradiction
    | pyJwtError e =>
      rw [hheader] at h
      exact absurd h reject_ne_ok
  | ok header =>
    simp only [hheader] at h
    cases hkey : verifier.keyOf header with
    | error e =>
      simp only [hkey] at h
      exact absurd h error_ne_ok
    | ok publicKey =>
      simp only [hkey, bind, Except.bind] at h
      cases hdecode : jwt.decode token publicKey verifier.expectedAudience
          verifier.expectedIssuer with
      | error failure =>
        rw [hdecode] at h
        cases failure with
        | recursionError => contradiction
        | pyJwtError e => exact absurd h reject_ne_ok
      | ok payload =>
        rw [hdecode] at h
        -- the header that named the key and the payload that was verified are of one token
        obtain ⟨jws, hread, rfl, -, signer, hsigner, rfl⟩ := jwt.decode_of_ok hdecode
        obtain rfl := jwt.header_of_ok hheader hread
        obtain ⟨halg, htyp, keyId, hkid, hlookup⟩ := keyOf_eq_ok hkey
        cases hidentity : verifier.identity jws.payload with
        | error e =>
          simp only [JwtServiceTokenVerifier.principalFromPayload, hidentity] at h
          exact absurd h error_ne_ok
        | ok parts =>
          obtain ⟨issuer, subject, audience, tokenId⟩ := parts
          obtain ⟨hiss, hsub, haud, huse⟩ := identity_eq_ok hidentity
          exact ⟨jws, hread, halg, htyp, ⟨keyId, signer, hkid, hsigner, hlookup⟩, hiss, hsub,
            haud, huse⟩

/-! ## What is issued -/

section Issued
variable {audience : String} {scopes : List ServiceScope} {issuedAt expiresAt : Datetime}
  {tokenId : Uuid}

theorem issue_eq_ok (haudience : stripped pythonSpace audience ≠ "") (hscopes : scopes ≠ [])
    (hexpires : expiresAt.instant = issuedAt.instant + provider.ttlSeconds * 1000000) :
    provider.issue audience scopes issuedAt tokenId =
      .ok (provider.jws (stripped pythonSpace audience) scopes issuedAt expiresAt tokenId) := by
  have hof : Datetime.of? (issuedAt.instant + provider.ttlSeconds * 1000000) = some expiresAt := by
    rw [← hexpires, Datetime.of?_of_bounds expiresAt.lower expiresAt.upper]
  have hrequire : requireNonEmptyText audience "audience" = .ok (stripped pythonSpace audience) :=
    if_neg haudience
  unfold JwtServiceTokenProvider.issue
  simp only [hrequire, bind, Except.bind]
  rw [if_neg hscopes]
  simp only [pure, Except.pure, hof]

theorem conforming_jws :
    Conforming (provider.jws audience scopes issuedAt expiresAt tokenId).payload
    audience provider.issuer where
  issuer := rfl
  audience := rfl
  subject := ⟨_, rfl⟩
  tokenId := ⟨_, rfl⟩
  dates := by
    intro name hname
    simp only [List.mem_cons, List.not_mem_nil, or_false] at hname
    obtain rfl | rfl | rfl := hname
    · exact ⟨_, rfl⟩
    · exact ⟨_, rfl⟩
    · exact ⟨_, rfl⟩
  others := by
    intro name hname
    simp only [List.mem_cons, List.not_mem_nil, or_false] at hname
    obtain rfl | rfl := hname
    · exact ⟨_, rfl⟩
    · exact ⟨_, rfl⟩

theorem floor_expiresAt
    (hexpires : expiresAt.instant = issuedAt.instant + provider.ttlSeconds * 1000000) :
    expiresAt.floor.instant = issuedAt.floor.instant + provider.ttlSeconds * 1000000 := by
  have hfloor {i e ttl : ℤ} (h : e = i + ttl * 1000000) :
      e / 1000000 * 1000000 = i / 1000000 * 1000000 + ttl * 1000000 := by
    omega
  exact hfloor hexpires

theorem lifetime_jws
    (hexpires : expiresAt.instant = issuedAt.instant + provider.ttlSeconds * 1000000) :
    lifetime (provider.jws audience scopes issuedAt expiresAt tokenId).payload =
      .ok (issuedAt.floor, issuedAt.floor, expiresAt.floor) := by
  have hlower := provider.ttl_lower
  have hupper := provider.ttl_upper
  have hfloor := floor_expiresAt hexpires
  unfold lifetime
  rw [numericDate_number (d := issuedAt) rfl, numericDate_number (d := issuedAt) rfl,
    numericDate_number (d := expiresAt) rfl]
  simp only [bind, Except.bind, ne_eq, not_true_eq_false, if_false, pure, Except.pure]
  rw [if_neg (by omega)]

def principal (provider : JwtServiceTokenProvider PrivateKey) (audience : String)
    (scopes : List ServiceScope) (issuedAt expiresAt : Datetime) (tokenId : Uuid) :
    ServicePrincipal where
  issuer := provider.issuer
  subject := provider.issuer
  audience := audience
  tokenId := tokenId
  issuedAt := issuedAt.floor
  notBefore := issuedAt.floor
  expiresAt := expiresAt.floor
  scopes := scopes.toFinset

theorem identity_jws (hissuer : verifier.expectedIssuer = provider.issuer)
    (haudience : verifier.expectedAudience = audience) :
    verifier.identity (provider.jws audience scopes issuedAt expiresAt tokenId).payload =
      .ok (provider.issuer, provider.issuer, audience, tokenId) := by
  have hjti : text? (provider.jws audience scopes issuedAt expiresAt tokenId).payload "jti" =
    some tokenId.str := rfl
  have hiss : text? (provider.jws audience scopes issuedAt expiresAt tokenId).payload "iss" =
    some provider.issuer := rfl
  have hsub : text? (provider.jws audience scopes issuedAt expiresAt tokenId).payload "sub" =
    some provider.issuer := rfl
  have haud : text? (provider.jws audience scopes issuedAt expiresAt tokenId).payload "aud" =
    some audience := rfl
  have huse : text? (provider.jws audience scopes issuedAt expiresAt tokenId).payload "token_use" =
    some "service" := rfl
  unfold JwtServiceTokenVerifier.identity
  rw [hiss, hsub, haud]
  dsimp only
  rw [if_neg (by simp [hissuer, haudience]), if_neg (not_not.mpr huse), hjti, Option.bind_some,
    parse?_str]

theorem keyOf_serviceHeader
    (hkey : verifier.publicKeys.lookup provider.keyId = some (jwt.publicKey provider.privateKey)) :
    verifier.keyOf (serviceHeader provider.keyId) = .ok (jwt.publicKey provider.privateKey) := by
  have halg : text? (serviceHeader provider.keyId) "alg" = some "RS256" := rfl
  have htyp : text? (serviceHeader provider.keyId) "typ" = some "JWT" := rfl
  have hkid : text? (serviceHeader provider.keyId) "kid" = some provider.keyId := rfl
  unfold JwtServiceTokenVerifier.keyOf
  rw [if_neg (not_not.mpr halg), if_neg (not_not.mpr htyp), hkid]
  split
  · contradiction
  · next hempty => exact absurd (Option.some.inj hempty) provider.keyId_ne
  · next keyId hsome =>
    obtain rfl := Option.some.inj hsome
    rw [hkey]

/-- An issued payload is accepted in the window of its whole seconds, and at no other moment. -/
theorem principalFromPayload_jws (hfar : verifier.FarFromMax now)
    (hissuer : verifier.expectedIssuer = provider.issuer)
    (haudience : verifier.expectedAudience = audience) (hscopes : scopes ≠ [])
    (hexpires : expiresAt.instant = issuedAt.instant + provider.ttlSeconds * 1000000) :
    verifier.principalFromPayload
        (provider.jws audience scopes issuedAt expiresAt tokenId).payload now =
      if issuedAt.floor.instant ≤ now.instant + verifier.clockSkewSeconds * 1000000 ∧
          now.instant < expiresAt.floor.instant + verifier.clockSkewSeconds * 1000000 then
        .ok (principal provider audience scopes issuedAt expiresAt tokenId)
      else reject .invalidLifetime := by
  have hlong : expiresAt.floor.instant - issuedAt.floor.instant ≤
      maximumServiceTokenTtlSeconds * 1000000 := by
    have hupper := provider.ttl_upper
    have hfloor := floor_expiresAt hexpires
    omega
  have hwindow : verifier.withinWindow issuedAt.floor issuedAt.floor expiresAt.floor now = _ :=
    withinWindow_eq hfar rfl hlong
  have hread : ServiceIdentity.scopes
      (provider.jws audience scopes issuedAt expiresAt tokenId).payload = .ok scopes.toFinset :=
    scopes_scopeValue hscopes rfl
  unfold JwtServiceTokenVerifier.principalFromPayload
  simp only [identity_jws hissuer haudience, lifetime_jws hexpires, hwindow, hread, bind,
    Except.bind, pure, Except.pure]
  split_ifs
  · rfl
  · rfl

/-- A matching verifier comes to the payload of an issued token. -/
theorem verifyToken_jws (hissuer : verifier.expectedIssuer = provider.issuer)
    (haudience : verifier.expectedAudience = audience)
    (hkey : verifier.publicKeys.lookup provider.keyId = some (jwt.publicKey provider.privateKey))
    (hreads : jwt.ReadsBack (provider.jws audience scopes issuedAt expiresAt tokenId)) :
    verifier.verifyToken jwt
        (jwt.encode (provider.jws audience scopes issuedAt expiresAt tokenId)) now =
      verifier.principalFromPayload
        (provider.jws audience scopes issuedAt expiresAt tokenId).payload now := by
  have hnotBlank : stripped pythonSpace
      (jwt.encode (provider.jws audience scopes issuedAt expiresAt tokenId)) ≠ "" := by
    intro hblank
    have hnone := hreads.symm.trans (jwt.read_blank hblank)
    contradiction
  have hheader : jwt.getUnverifiedHeader
      (jwt.encode (provider.jws audience scopes issuedAt expiresAt tokenId)) =
      .ok (serviceHeader provider.keyId) := jwt.header_of_read hreads rfl
  have hdecode : jwt.decode
      (jwt.encode (provider.jws audience scopes issuedAt expiresAt tokenId))
      (jwt.publicKey provider.privateKey) verifier.expectedAudience verifier.expectedIssuer =
      .ok (provider.jws audience scopes issuedAt expiresAt tokenId).payload := by
    rw [hissuer, haudience]
    exact jwt.decode_of_read hreads rfl rfl conforming_jws
  unfold JwtServiceTokenVerifier.verifyToken
  rw [if_neg hnotBlank]
  simp only [hheader, keyOf_serviceHeader hkey, hdecode, bind, Except.bind]

end Issued

/-! ## The agreement -/

structure Matches (jwt : PyJwt PrivateKey PublicKey) (provider : JwtServiceTokenProvider PrivateKey)
    (verifier : JwtServiceTokenVerifier PublicKey) (audience : String) : Prop where
  issuer : verifier.expectedIssuer = provider.issuer
  audience : verifier.expectedAudience = stripped pythonSpace audience
  key : verifier.publicKeys.lookup provider.keyId = some (jwt.publicKey provider.privateKey)

/-- A token is accepted from its whole second on, until its time has run out, give or take the skew;
nothing is accepted that its issuer has not signed for this verifier, and whatever is refused is
refused with one exception, unless its JSON is nested too deep to be loaded. -/
theorem service_tokens_agree (hfar : verifier.FarFromMax now) :
    (∀ (provider : JwtServiceTokenProvider PrivateKey) audience scopes (issuedAt : Datetime)
      tokenId, stripped pythonSpace audience ≠ "" → scopes ≠ [] →
      issuedAt.instant + provider.ttlSeconds * 1000000 ≤ datetimeMax →
      Matches jwt provider verifier audience →
      ∃ jws, provider.issue audience scopes issuedAt tokenId = .ok jws ∧
        provider.createToken jwt audience scopes issuedAt tokenId = .ok (jwt.encode jws) ∧
        (jwt.ReadsBack jws →
          ((∃ principal, verifier.verifyToken jwt (jwt.encode jws) now = .ok principal) ↔
            (Auth.jwtSeconds issuedAt.instant - verifier.clockSkewSeconds) * 1000000 ≤ now.instant ∧
            now.instant < (Auth.jwtSeconds issuedAt.instant + provider.ttlSeconds +
              verifier.clockSkewSeconds) * 1000000) ∧
          ∀ principal, verifier.verifyToken jwt (jwt.encode jws) now = .ok principal →
            principal.issuer = provider.issuer ∧ principal.subject = provider.issuer ∧
            principal.audience = stripped pythonSpace audience ∧ principal.tokenId = tokenId ∧
            principal.scopes = scopes.toFinset)) ∧
    (∀ token principal, verifier.verifyToken jwt token now = .ok principal →
      ∃ jws, jwt.read token = some jws ∧ Trusted jwt verifier jws) ∧
    ∀ token e, jwt.Shallow token → verifier.verifyToken jwt token now = .error e →
      ∃ reason, e = .authentication reason := by
  refine ⟨fun provider audience scopes issuedAt tokenId haudience hscopes hmax hmatches => ?_,
    fun token principal => verifyToken_eq_ok,
    fun token e hshallow => authenticates_verifyToken hfar hshallow e⟩
  -- the end of the token is a datetime: not too late by hypothesis, not too early as it is later
  have hlater : datetimeMin ≤ issuedAt.instant + provider.ttlSeconds * 1000000 := by
    have hlower := issuedAt.lower
    have httl : (30 : ℤ) ≤ provider.ttlSeconds := provider.ttl_lower
    omega
  obtain ⟨expiresAt, hexpires⟩ : ∃ expiresAt : Datetime,
      expiresAt.instant = issuedAt.instant + provider.ttlSeconds * 1000000 :=
    ⟨⟨_, hlater, hmax⟩, rfl⟩
  have hissue : provider.issue audience scopes issuedAt tokenId = .ok _ :=
    issue_eq_ok haudience hscopes hexpires
  refine ⟨_, hissue, congrArg (Except.map jwt.encode) hissue, fun hreads => ?_⟩
  have hverify := (verifyToken_jws hmatches.issuer hmatches.audience hmatches.key hreads).trans
    (principalFromPayload_jws hfar hmatches.issuer hmatches.audience hscopes hexpires)
  have hfloor := floor_expiresAt hexpires
  have hissued : issuedAt.floor.instant = Auth.jwtSeconds issuedAt.instant * 1000000 := rfl
  rw [hverify]
  split_ifs with hwindow
  · refine ⟨iff_of_true ⟨_, rfl⟩ (by omega), ?_⟩
    rintro _ ⟨⟩
    exact ⟨rfl, rfl, rfl, rfl, rfl⟩
  · refine ⟨iff_of_false ?_ (by omega), fun _ h => absurd h reject_ne_ok⟩
    rintro ⟨_, h⟩
    exact absurd h reject_ne_ok

/-! ## One issuer and one verifier -/

def present (payload : Claims) (name : String) : Bool :=
  match payload.lookup name with
  | none | some (.json .null) => false
  | some _ => true

theorem present_of_conforming {audience issuer name : String}
    (h : Conforming payload audience issuer) (hname : name ∈ requiredClaims) :
    present payload name = true := by
  have htext {s : String} (hs : payload.lookup name = some (text s)) :
      present payload name = true := by
    unfold present
    rw [hs]
    rfl
  have hnumber {n : ℤ} (hn : payload.lookup name = some (number n)) :
      present payload name = true := by
    unfold present
    rw [hn]
    rfl
  obtain ⟨_, hsub⟩ := h.subject
  obtain ⟨_, hjti⟩ := h.tokenId
  simp only [requiredClaims, List.mem_cons, List.not_mem_nil, or_false] at hname
  obtain rfl | rfl | rfl | rfl | rfl | rfl | rfl | rfl | rfl := hname
  · exact htext h.issuer
  · exact htext hsub
  · exact htext h.audience
  · exact hnumber (h.dates "iat" (by simp)).choose_spec
  · exact hnumber (h.dates "nbf" (by simp)).choose_spec
  · exact hnumber (h.dates "exp" (by simp)).choose_spec
  · exact htext hjti
  · exact htext (h.others "token_use" (by simp)).choose_spec
  · exact htext (h.others "scope" (by simp)).choose_spec

def decodeJws [DecidableEq PublicKey] (publicKey : PrivateKey → PublicKey) (jws : Jws PrivateKey)
    (key : PublicKey) (audience issuer : String) : Except PyJwtFailure Claims :=
  if text? jws.header "alg" ≠ some "RS256" then .error (.pyJwtError .other)
  else if jws.signer.map publicKey ≠ some key then .error (.pyJwtError .invalidSignature)
  else if ¬ ∀ name ∈ requiredClaims, present jws.payload name then .error (.pyJwtError .other)
  else if text? jws.payload "iss" ≠ some issuer then .error (.pyJwtError .invalidIssuer)
  else if text? jws.payload "aud" ≠ some audience then .error (.pyJwtError .invalidAudience)
  else .ok jws.payload

theorem decodeJws_of_conforming [DecidableEq PublicKey] {publicKey : PrivateKey → PublicKey}
    {jws : Jws PrivateKey} {signer : PrivateKey} {keyId audience issuer : String}
    (hheader : jws.header = serviceHeader keyId) (hsigner : jws.signer = some signer)
    (h : Conforming jws.payload audience issuer) :
    decodeJws publicKey jws (publicKey signer) audience issuer = .ok jws.payload := by
  have halg : text? jws.header "alg" = some "RS256" := by
    rw [hheader]
    rfl
  have hkey : jws.signer.map publicKey = some (publicKey signer) := by rw [hsigner, Option.map_some]
  have hiss : text? jws.payload "iss" = some issuer := by rw [text?, h.issuer, text]
  have haud : text? jws.payload "aud" = some audience := by rw [text?, h.audience, text]
  unfold decodeJws
  rw [if_neg (not_not.mpr halg), if_neg (not_not.mpr hkey),
    if_neg (not_not.mpr fun name => present_of_conforming h), if_neg (not_not.mpr hiss),
    if_neg (not_not.mpr haud)]

theorem decodeJws_ne_recursion [DecidableEq PublicKey] {publicKey : PrivateKey → PublicKey}
    {jws : Jws PrivateKey} {key : PublicKey} {audience issuer : String} :
    decodeJws publicKey jws key audience issuer ≠ .error .recursionError := by
  unfold decodeJws
  split_ifs <;> simp

theorem decodeJws_eq_ok [DecidableEq PublicKey] {publicKey : PrivateKey → PublicKey}
    {jws : Jws PrivateKey} {key : PublicKey} {audience issuer : String}
    (h : decodeJws publicKey jws key audience issuer = .ok payload) :
    jws.payload = payload ∧ text? jws.header "alg" = some "RS256" ∧
      ∃ signer ∈ jws.signer, publicKey signer = key := by
  unfold decodeJws at h
  split_ifs at h with halg hkey hpresent hiss haud
  obtain ⟨signer, hsigner, hpublic⟩ := Option.map_eq_some_iff.mp (not_not.mp hkey)
  exact ⟨Except.ok.inj h, not_not.mp halg, signer, hsigner, hpublic⟩

def PyJwt.single [DecidableEq PublicKey] (publicKey : PrivateKey → PublicKey) (known : String)
    (jws : Jws PrivateKey) (hknown : stripped pythonSpace known ≠ "") :
    PyJwt PrivateKey PublicKey where
  publicKey := publicKey
  encode _ := known
  read token := if token = known then some jws else none
  read_blank := by
    intro token hblank
    refine if_neg ?_
    rintro rfl
    exact hknown hblank
  recursionLimit := 1000
  headerDepth _ := 1
  payloadDepth _ := 1
  getUnverifiedHeader token :=
    if token = known then .ok jws.header else .error (.pyJwtError .other)
  decode token key audience issuer :=
    if token = known then decodeJws publicKey jws key audience issuer
    else .error (.pyJwtError .other)
  header_of_recursion := by
    intro token h
    split_ifs at h
    cases Except.error.inj h
  decode_of_recursion := by
    intro token audience issuer key h
    split_ifs at h
    · exact absurd h decodeJws_ne_recursion
    · cases Except.error.inj h
  header_of_ok := by
    intro token header jws' h hread
    split_ifs at h hread with hk
    obtain rfl := Option.some.inj hread
    exact Except.ok.inj h
  header_of_read := by
    intro token keyId jws' h hheader
    split_ifs at h with hk
    obtain rfl := Option.some.inj h
    exact if_pos hk
  decode_of_ok := by
    intro token audience issuer key payload h
    split_ifs at h with hk
    exact ⟨jws, if_pos hk, decodeJws_eq_ok h⟩
  decode_of_read := by
    intro token keyId audience issuer jws' signer h hheader hsigner hconforming
    split_ifs at h with hk
    obtain rfl := Option.some.inj h
    rw [if_pos hk]
    exact decodeJws_of_conforming hheader hsigner hconforming

theorem PyJwt.readsBack_single [DecidableEq PublicKey] (publicKey : PrivateKey → PublicKey)
    (known : String) (jws : Jws PrivateKey) (hknown : stripped pythonSpace known ≠ "") :
    (PyJwt.single publicKey known jws hknown).ReadsBack jws := by
  change (if known = known then some jws else none) = some jws
  exact if_pos rfl

def backendProvider : JwtServiceTokenProvider String where
  privateKey := "key"
  keyId := "backend-1"
  issuer := "opsflow-backend"
  ttlSeconds := 30
  keyId_ne := by decide
  issuer_ne := by decide
  ttl_lower := by decide
  ttl_upper := by decide

def incidentVerifier : JwtServiceTokenVerifier String where
  publicKeys := [("backend-1", "key")]
  expectedIssuer := "opsflow-backend"
  expectedAudience := "opsflow-incident-service"
  clockSkewSeconds := 5
  keys_ne := by decide
  keys_le := by decide
  skew_lower := by decide
  skew_upper := by decide

def jwtOf (issuedAt expiresAt : Datetime) : PyJwt String String :=
  .single id "header.payload.signature"
    (backendProvider.jws "opsflow-incident-service" [.incidentsRead] issuedAt expiresAt 7)
    (by decide)

theorem matches_jwtOf (issuedAt expiresAt : Datetime) :
    Matches (jwtOf issuedAt expiresAt) backendProvider incidentVerifier
      "opsflow-incident-service" where
  issuer := rfl
  audience := by decide
  key := rfl

theorem readsBack_jwtOf (issuedAt expiresAt : Datetime) : (jwtOf issuedAt expiresAt).ReadsBack
    (backendProvider.jws "opsflow-incident-service" [.incidentsRead] issuedAt expiresAt 7) :=
  PyJwt.readsBack_single _ _ _ _

/-- A token of half a second past the epoch, in the last microsecond of its window. -/
theorem service_tokens_agree_at_end :
    let issuedAt : Datetime := ⟨500000, by decide, by decide⟩
    let expiresAt : Datetime := ⟨30500000, by decide, by decide⟩
    let now : Datetime := ⟨34999999, by decide, by decide⟩
    ∃ principal, incidentVerifier.verifyToken (jwtOf issuedAt expiresAt)
      "header.payload.signature" now = .ok principal := by
  intro issuedAt expiresAt now
  have hfar : incidentVerifier.FarFromMax now := by
    change (34999999 + (2 * 5 + 120) * 1000000 : ℤ) ≤ datetimeMax
    decide
  obtain ⟨haccepted, -⟩ := @service_tokens_agree _ _ (jwtOf issuedAt expiresAt) _ _ hfar
  obtain ⟨jws, hissue, -, hwindow⟩ := haccepted backendProvider "opsflow-incident-service"
    [.incidentsRead] issuedAt 7 (by decide) (by decide) (by decide) (matches_jwtOf _ _)
  have hissued : backendProvider.issue "opsflow-incident-service" [.incidentsRead] issuedAt 7 =
      .ok _ := issue_eq_ok (by decide) (by decide) (show expiresAt.instant = _ from rfl)
  obtain rfl := Except.ok.inj (hissued.symm.trans hissue)
  have hreads : (jwtOf issuedAt expiresAt).ReadsBack
      (backendProvider.jws (stripped pythonSpace "opsflow-incident-service") [.incidentsRead]
        issuedAt expiresAt 7) := by
    rw [← (matches_jwtOf issuedAt expiresAt).audience]
    exact readsBack_jwtOf issuedAt expiresAt
  exact (hwindow hreads).1.mpr (by decide)

/-- A library on one token that it cannot load, as its header is nested too deep. -/
def PyJwt.overwhelmed (token : String) (depth : ℕ) (hdepth : 10000 < depth) :
    PyJwt String String where
  publicKey := id
  encode _ := ""
  read _ := none
  read_blank _ := rfl
  recursionLimit := 10000
  headerDepth read := if read = token then depth else 0
  payloadDepth _ := 0
  getUnverifiedHeader read :=
    if read = token then .error .recursionError else .error (.pyJwtError .other)
  decode _ _ _ _ := .error (.pyJwtError .other)
  header_of_recursion := by
    intro read h
    split_ifs at h with hread
    · rw [if_pos hread]
      exact hdepth
    · cases Except.error.inj h
  decode_of_recursion h := by cases Except.error.inj h
  header_of_ok := by
    intro read header jws h
    split_ifs at h
  header_of_read h := by contradiction
  decode_of_ok h := by contradiction
  decode_of_read h := by contradiction

theorem PyJwt.verifyToken_overwhelmed {verifier : JwtServiceTokenVerifier String} {token : String}
    {depth : ℕ} (hdepth : 10000 < depth) (hblank : stripped pythonSpace token ≠ "") :
    verifier.verifyToken (.overwhelmed token depth hdepth) token now = .error .recursion := by
  have hheader : (PyJwt.overwhelmed token depth hdepth).getUnverifiedHeader token =
      .error .recursionError := if_pos rfl
  unfold JwtServiceTokenVerifier.verifyToken
  rw [if_neg hblank, hheader]
  rfl

/-- Four letters for three brackets: the header is an array of arrays, `3 * n` of them. -/
def nestedToken (n : ℕ) : String :=
  String.ofList ((List.replicate n "W1tb".toList).flatten ++ ".e30.c2ln".toList)

theorem nestedToken_not_blank (n : ℕ) : stripped pythonSpace (nestedToken n) ≠ "" := by
  intro hblank
  have hdot : '.' ∈ (nestedToken n).toList := by simp [nestedToken]
  exact absurd (stripped_eq_empty.mp hblank '.' hdot) (by decide)

/-- In the last seconds of the year 9999 a token is within its window, and no sum is a `datetime`;
and at any time a header that is nested too deep is answered with a `RecursionError`. -/
theorem service_token_at_the_end_of_time :
    let issuedAt : Datetime := ⟨253402300768999999, by decide, by decide⟩
    let expiresAt : Datetime := ⟨253402300798999999, by decide, by decide⟩
    let now : Datetime := ⟨253402300780000000, by decide, by decide⟩
    let jwt := jwtOf issuedAt expiresAt
    Matches jwt backendProvider incidentVerifier "opsflow-incident-service" ∧
    backendProvider.createToken jwt "opsflow-incident-service" [.incidentsRead] issuedAt 7 =
      .ok "header.payload.signature" ∧
    (Auth.jwtSeconds issuedAt.instant - incidentVerifier.clockSkewSeconds) * 1000000 ≤ now.instant ∧
    now.instant < (Auth.jwtSeconds issuedAt.instant + backendProvider.ttlSeconds +
      incidentVerifier.clockSkewSeconds) * 1000000 ∧
    incidentVerifier.verifyToken jwt "header.payload.signature" now = .error .overflow ∧
    ∀ now, incidentVerifier.verifyToken (.overwhelmed (nestedToken 10000) 30000 (by decide))
      (nestedToken 10000) now = .error .recursion := by
  intro issuedAt expiresAt now jwt
  have hmatches := matches_jwtOf issuedAt expiresAt
  have haudience : incidentVerifier.expectedAudience = "opsflow-incident-service" := rfl
  have hissued : backendProvider.issue "opsflow-incident-service" [.incidentsRead] issuedAt 7 =
      .ok _ := issue_eq_ok (by decide) (by decide) (show expiresAt.instant = _ from rfl)
  refine ⟨hmatches, congrArg (Except.map jwt.encode) hissued, by decide, by decide, ?_,
    fun _ => PyJwt.verifyToken_overwhelmed _ (nestedToken_not_blank _)⟩
  have hverify : incidentVerifier.verifyToken jwt "header.payload.signature" now = _ :=
    verifyToken_jws hmatches.issuer haudience hmatches.key (readsBack_jwtOf issuedAt expiresAt)
  have hwindow : incidentVerifier.withinWindow issuedAt.floor issuedAt.floor expiresAt.floor now =
      .error .overflow := by decide
  rw [hverify, JwtServiceTokenVerifier.principalFromPayload]
  simp only [identity_jws hmatches.issuer haudience, bind, Except.bind]
  rw [lifetime_jws rfl]
  simp only [hwindow]

end OpsFlow.ServiceIdentity
