import OpsFlow.Auth.RefreshFamilies
import OpsFlow.Auth.Cookies

namespace OpsFlow.Auth
open RowStore Transition

variable {τ : Type} [DecidableEq τ] {sec : Security} {accounts : Accounts} {s s' : State τ} {t : τ}
  {x : Tx} {expiry : Uuid → Timestamp}

/-- The cutoff of `purge_expired_sessions`, which a service with a shorter retention
never reaches. -/
def purgeCutoff (retentionDays : ℤ) (now : Timestamp) : Except String Timestamp :=
  if retentionDays < 1 then
    .error "Authentication-session retention must be at least one day."
  else .ok (now - retentionDays * 86400000000)

/-! ## The end of a session, fixed once -/

/-- Every token of a session expires at the whole second of one moment, and every version of its row
says that moment. -/
structure State.EndsAt (s : State τ) (k : Uuid) (moment : Timestamp) : Prop where
  tokens : ∀ token ∈ s.refreshTokens, token.sessionId = k → token.expiresAt = jwtSeconds moment
  rows : ∀ row, s.sessions.Version k row → row.expiresAt = moment

/-- Every session ends at a moment of its own: each version of its row says so, and each of its
tokens expires at the whole second of it. -/
structure Lifetimes (expiry : Uuid → Timestamp) (s : State τ) : Prop where
  tokens : ∀ token ∈ s.refreshTokens, token.expiresAt = jwtSeconds (expiry token.sessionId)
  rows : ∀ k row, s.sessions.Version k row → row.expiresAt = expiry k
  owned : ∀ k row, s.sessions.Version k row → ∃ token ∈ s.refreshTokens, token.sessionId = k

theorem AuthSession.expiresAt_revoke (session : AuthSession) (now : Timestamp) (reason : String) :
    (session.revoke now reason).expiresAt = session.expiresAt := by
  unfold AuthSession.revoke
  split_ifs <;> rfl

namespace Lifetimes

omit [DecidableEq τ] in
theorem endsAt (hl : Lifetimes expiry s) (k : Uuid) : s.EndsAt k (expiry k) where
  tokens := by
    rintro token htoken rfl
    exact hl.tokens token htoken
  rows := hl.rows k

omit [DecidableEq τ] in
/-- No new token, and no row that is new. -/
theorem same (hl : Lifetimes expiry s) (htokens : s'.refreshTokens = s.refreshTokens)
    (hrows : ∀ k row', s'.sessions.Version k row' →
      ∃ row, s.sessions.Version k row ∧ row'.expiresAt = row.expiresAt) : Lifetimes expiry s' := by
  refine ⟨?_, fun k row' h => ?_, fun k row' h => ?_⟩
  · rw [htokens]
    exact hl.tokens
  · obtain ⟨row, hrow, heq⟩ := hrows k row' h
    exact heq.trans (hl.rows k row hrow)
  · obtain ⟨row, hrow, -⟩ := hrows k row' h
    rw [htokens]
    exact hl.owned k row hrow

/-- A write of a row that ends as the one before it. -/
theorem version_written {k : Uuid} {row new : AuthSession} (hview : s.sessions.view t k = some row)
    (hnew : new.expiresAt = row.expiresAt) (k' : Uuid) (row' : AuthSession)
    (h : (s.sessions.write t k (some new)).Version k' row') :
    ∃ row, s.sessions.Version k' row ∧ row'.expiresAt = row.expiresAt := by
  obtain h | ⟨rfl, rfl⟩ := Table.version_write h
  · exact ⟨row', h, rfl⟩
  · exact ⟨row, Table.version_of_view hview, hnew⟩

theorem sessionMove (hl : Lifetimes expiry s) (hmove : SessionMove s t s' x)
    (htokens : s'.refreshTokens = s.refreshTokens) : Lifetimes expiry s' := by
  apply hl.same htokens
  intro k row' hrow'
  cases hmove with
  | stays hsessions | fails hsessions | scans _ _ _ hsessions =>
    rw [hsessions] at hrow'
    exact ⟨row', hrow', rfl⟩
  | locks _ _ _ hview hsessions =>
    rw [hsessions, Table.acquire, hview] at hrow'
    exact version_written hview rfl k row' hrow'
  | issues _ _ _ _ _ _ _ _ _ _ hmore | rotates _ _ _ _ _ _ _ _ _ _ _ hmore =>
    rw [htokens] at hmore
    exact absurd (congrArg List.length hmore) (by simp)
  | revokes _ _ hview _ _ hsessions =>
    rw [hsessions] at hrow'
    exact version_written hview (AuthSession.expiresAt_revoke _ _ _) k row' hrow'
  | @sweeps _ row new _ _ _ _ hview hnew hsessions =>
    rw [hsessions] at hrow'
    cases new with
    | none => exact ⟨row', Table.version_write_none hrow', rfl⟩
    | some new =>
      obtain ⟨-, now, reason, rfl⟩ := hnew _ rfl
      exact version_written hview (AuthSession.expiresAt_revoke _ _ _) k row' hrow'

theorem ends (hl : Lifetimes expiry s) (hend : s.Ends t s') : Lifetimes expiry s' := by
  cases hend with
  | commit _ | close _ =>
    exact hl.same rfl fun k row h => ⟨row, Table.version_commit h, rfl⟩
  | rollback _ => exact hl.same rfl fun k row h => ⟨row, Table.version_rollback h, rfl⟩

/-- A step that makes no token. -/
theorem quiet (hl : Lifetimes expiry s) (h : Step sec s t s')
    (htokens : s'.refreshTokens = s.refreshTokens) : Lifetimes expiry s' := by
  obtain ⟨x, -, -, -, hmove⟩ | hend := h.sessionMove
  · exact hl.sessionMove hmove htokens
  · exact hl.ends hend

omit [DecidableEq τ] in
/-- A login fixes the end of its session. -/
theorem issue (hl : Lifetimes expiry s) {token : RefreshToken} {row : AuthSession}
    (hfresh : ∀ old ∈ s.refreshTokens, old.sessionId ≠ token.sessionId)
    (hexpires : token.expiresAt = jwtSeconds row.expiresAt)
    (htokens : s'.refreshTokens = s.refreshTokens ++ [token])
    (hsessions : s'.sessions = s.sessions.write t token.sessionId (some row)) :
    Lifetimes (Function.update expiry token.sessionId row.expiresAt) s' := by
  refine ⟨fun other hother => ?_, fun k row' h => ?_, fun k row' h => ?_⟩
  · rw [htokens] at hother
    obtain hother | hother := List.mem_append.mp hother
    · rw [Function.update_of_ne (hfresh other hother)]
      exact hl.tokens other hother
    · obtain rfl := List.mem_singleton.mp hother
      rw [Function.update_self, hexpires]
  · rw [hsessions] at h
    obtain h | ⟨rfl, rfl⟩ := Table.version_write h
    · obtain ⟨old, hold, rfl⟩ := hl.owned k row' h
      rw [Function.update_of_ne (hfresh old hold)]
      exact hl.rows _ row' h
    · rw [Function.update_self]
  · rw [hsessions] at h
    rw [htokens]
    obtain h | ⟨rfl, rfl⟩ := Table.version_write h
    · obtain ⟨old, hold, rfl⟩ := hl.owned k row' h
      exact ⟨old, List.mem_append_left _ hold, rfl⟩
    · exact ⟨token, List.mem_append_right _ (List.mem_singleton_self _), rfl⟩

/-- A rotation goes on with the end that the session has. -/
theorem rotate (hl : Lifetimes expiry s) {token : RefreshToken} {session row : AuthSession}
    {now : Timestamp} (hlocked : s.sessions.Version session.id session)
    (hview : s.sessions.view t session.id = some row) (hk : token.sessionId = session.id)
    (hexpires : token.expiresAt = jwtSeconds session.expiresAt)
    (htokens : s'.refreshTokens = s.refreshTokens ++ [token])
    (hsessions : s'.sessions =
      s.sessions.write t session.id (some (row.withToken token.tokenId now))) :
    Lifetimes expiry s' := by
  refine ⟨fun other hother => ?_, fun k row' h => ?_, fun k row' h => ?_⟩
  · rw [htokens] at hother
    obtain hother | hother := List.mem_append.mp hother
    · exact hl.tokens other hother
    · obtain rfl := List.mem_singleton.mp hother
      rw [hexpires, hk, hl.rows _ _ hlocked]
  · rw [hsessions] at h
    obtain ⟨old, hold, heq⟩ := version_written hview
      (show (row.withToken token.tokenId now).expiresAt = row.expiresAt from rfl) k row' h
    exact heq.trans (hl.rows k old hold)
  · rw [hsessions] at h
    rw [htokens]
    obtain ⟨old, hold, -⟩ := version_written hview
      (show (row.withToken token.tokenId now).expiresAt = row.expiresAt from rfl) k row' h
    obtain ⟨owner, howner, hid⟩ := hl.owned k old hold
    exact ⟨owner, List.mem_append_left _ howner, hid⟩

/-- One step leaves the end of every session as it is. -/
theorem step (hl : Lifetimes expiry s) (hi : s.SessionInv) (h : Step sec s t s') :
    ∃ expiry', Lifetimes expiry' s' ∧
      ∀ token ∈ s.refreshTokens, expiry' token.sessionId = expiry token.sessionId := by
  have hstep := h
  cases h with
  | @issueSession userId sessionId jti verified now issuedNow hp _ _ hfresh =>
    refine ⟨_, hl.issue (fun old hold => (hfresh old hold).1) rfl rfl rfl, fun token htoken => ?_⟩
    exact Function.update_of_ne (hfresh token htoken).1 _ _
  | @rotate claims session row now issuedNow jti hp _ hview _ =>
    have hrole := hi.roles t
    rw [hp] at hrole
    obtain ⟨-, -, hcommitted, -⟩ := hrole
    exact ⟨expiry, hl.rotate (.inl hcommitted) hview rfl rfl rfl rfl, fun _ _ => rfl⟩
  | @refuse error commits hp =>
    refine ⟨expiry, hl.quiet hstep ?_, fun _ _ => rfl⟩
    cases commits <;> rfl
  | _ => exact ⟨expiry, hl.quiet hstep rfl, fun _ _ => rfl⟩

omit [DecidableEq τ] in
theorem start (accounts : Accounts) (expiry : Uuid → Timestamp) :
    Lifetimes expiry (State.start accounts : State τ) where
  tokens _ h := by contradiction
  rows k row h := by
    obtain h | ⟨⟨t, h⟩, -⟩ := h <;> contradiction
  owned k row h := by
    obtain h | ⟨⟨t, h⟩, -⟩ := h <;> contradiction

/-- No token that was signed is forgotten. -/
theorem mem_refreshTokens_run {ts : List τ} (hrun : Run (Step sec) s ts s') {token : RefreshToken}
    (h : token ∈ s.refreshTokens) : token ∈ s'.refreshTokens := by
  induction hrun with
  | nil => exact h
  | snoc _ hstep ih =>
    obtain hsame | ⟨new, hsnoc, -⟩ := refreshTokens_step hstep
    · rw [hsame]
      exact ih
    · rw [hsnoc]
      exact List.mem_append_left _ ih

/-- A run leaves the end of every session as it is. -/
theorem run (hl : Lifetimes expiry s) (hi : s.Inv sec accounts) {ts : List τ}
    (hrun : Run (Step sec) s ts s') :
    ∃ expiry', Lifetimes expiry' s' ∧
      ∀ token ∈ s.refreshTokens, expiry' token.sessionId = expiry token.sessionId := by
  induction hrun with
  | nil => exact ⟨expiry, hl, fun _ _ => rfl⟩
  | @snoc s₁ s₂ ts t hrun hstep ih =>
    obtain ⟨expiry₁, hl₁, hsame₁⟩ := ih
    have hi₁ : s₁.Inv sec accounts := hrun.invariant (fun _ _ _ hi h => hi.step h) hi
    obtain ⟨expiry₂, hl₂, hsame₂⟩ := hl₁.step hi₁.sessions hstep
    refine ⟨expiry₂, hl₂, fun token htoken => ?_⟩
    have hmore : token ∈ s₁.refreshTokens := mem_refreshTokens_run hrun htoken
    exact (hsame₂ token hmore).trans (hsame₁ token htoken)

/-- A session that has a token ends at one moment in every run. -/
theorem endsAt_run (hl : Lifetimes expiry s) (hi : s.Inv sec accounts) {token : RefreshToken}
    (htoken : token ∈ s.refreshTokens) {ts : List τ} (hrun : Run (Step sec) s ts s') :
    s'.EndsAt token.sessionId (expiry token.sessionId) := by
  obtain ⟨expiry', hl', hsame⟩ := hl.run hi hrun
  rw [← hsame token htoken]
  exact hl'.endsAt token.sessionId

end Lifetimes

/-! ## Where a step leads -/

/-- Neither the end of a login nor past the checks of a session. -/
def Tx.Elsewhere : Tx → Prop
  | .current .. | .resolved .. | .done (.loggedIn _) => False
  | _ => True

/-- A request comes past the checks of a session, or it logs in, or it does neither. -/
inductive Arrives (sec : Security) (s : State τ) (t : τ) (s' : State τ) : Prop
  | current {kind : Presentation} {claims : RefreshToken} {session : AuthSession}
      {now : Timestamp} : now < session.expiresAt → s'.txs t = .current kind claims session now →
      Arrives sec s t s'
  | resolved {kind : Presentation} {claims : RefreshToken} {session : AuthSession}
      {now : Timestamp} : s.txs t = .current kind claims session now →
      s'.txs t = .resolved kind claims session now → Arrives sec s t s'
  | loggedIn {login : Login} {token : RefreshToken} {row : AuthSession} :
      s'.txs t = .done (.loggedIn login) → token.sessionId = login.sessionId →
      (∀ old ∈ s.refreshTokens, old.sessionId ≠ token.sessionId) →
      row.expiresAt = row.createdAt + sec.refreshTokenExpire →
      token.expiresAt = jwtSeconds row.expiresAt →
      s'.refreshTokens = s.refreshTokens ++ [token] →
      s'.sessions = s.sessions.write t token.sessionId (some row) → Arrives sec s t s'
  | elsewhere : (s'.txs t).Elsewhere → Arrives sec s t s'

omit [DecidableEq τ] in
theorem elsewhere_proceed {α : Type} {commits : AuthError → Bool} {next : α → Tx}
    {result : Except AuthError α} (hnext : ∀ a, (next a).Elsewhere) :
    (proceed commits next result).Elsewhere :=
  proceed_induction (fun _ _ => trivial) hnext

omit [DecidableEq τ] in
theorem txs_update {txs : τ → Tx} [DecidableEq τ] {P : Tx → Prop} (h : P x) :
    P (Function.update txs t x t) := by
  rw [Function.update_self]
  exact h

theorem Step.arrives (h : Step sec s t s') : Arrives sec s t s' := by
  cases h with
  | issueSession _ _ _ hfresh =>
    exact .loggedIn (Function.update_self ..) rfl (fun old hold => (hfresh old hold).1) rfl rfl rfl
      rfl
  | @lockSession kind claims session now hp _ _ =>
    cases husable : requireUsableSession session claims now with
    | error e => exact .elsewhere (txs_update trivial)
    | ok _ =>
      have hend := (requireUsableSession_eq_ok.mp husable).2.1
      by_cases hjti : session.currentJti ≠ claims.tokenId
      · refine .elsewhere (txs_update ?_)
        unfold proceed judged
        rw [if_pos hjti]
        trivial
      · have hjudged : judged kind claims session now = .current kind claims session now :=
          if_neg hjti
        exact .current hend ((Function.update_self ..).trans hjudged)
  | @resolveUser kind claims session now hp =>
    cases hresolve : resolveActiveUser (s.users.view t claims.userId) with
    | error e => exact .elsewhere (txs_update trivial)
    | ok user => exact .resolved hp (Function.update_self ..)
  | authenticate | present | identify | checkProof | lockToken | checkResetToken =>
    exact .elsewhere (txs_update (elsewhere_proceed fun _ => trivial))
  | prove _ =>
    refine .elsewhere (txs_update (elsewhere_proceed fun _ => ?_))
    split_ifs <;> trivial
  | @requestReset email record now _ _ | @findUser token now newPassword _ =>
    refine .elsewhere (txs_update ?_)
    split
    · split_ifs <;> trivial
    · trivial
  | swap _ _ _ _ =>
    refine .elsewhere (txs_update ?_)
    unfold Replacement.swappedTx
    split <;> trivial
  | @sessionsRevoked cause reason now _ =>
    refine .elsewhere (txs_update ?_)
    cases cause <;> trivial
  | @refuse error commits _ => cases commits <;> exact .elsewhere (txs_update trivial)
  | _ => exact .elsewhere (txs_update trivial)

/-! ## What is accepted for a rotation -/

/-- A request that has come past the checks of the session has done so before its end. -/
def Tx.WithinLifetime : Tx → Prop
  | .current _ _ session now | .resolved _ _ session now => now < session.expiresAt
  | _ => True

theorem withinLifetime_step (h : Step sec s t s') (hs : ∀ t', (s.txs t').WithinLifetime) (t' : τ) :
    (s'.txs t').WithinLifetime := by
  by_cases ht : t' = t
  · subst ht
    cases h.arrives with
    | current hend hx =>
      rw [hx]
      exact hend
    | resolved hp hx =>
      have hold := hs t'
      rw [hp] at hold
      rw [hx]
      exact hold
    | loggedIn hx =>
      rw [hx]
      trivial
    | elsewhere hx =>
      cases hnext : s'.txs t' <;> first | trivial | (rw [hnext] at hx; exact hx.elim)
  · rw [txs_step_of_ne h ht]
    exact hs t'

/-- The whole seconds that are left end before the moment that they lead to. -/
theorem lt_of_wholeSeconds {now later moment seconds : ℤ}
    (hseconds : seconds = max 0 (Int.tdiv (moment - now) 1000000)) (hfrom : now ≤ later)
    (huntil : later < now + seconds * 1000000) : later < moment := by
  by_cases hleft : 0 ≤ moment - now
  · rw [Int.tdiv_eq_ediv_of_nonneg hleft] at hseconds
    omega
  · -- no second at all leaves no moment
    have hneg := Int.neg_tdiv (now - moment) 1000000
    rw [Int.neg_sub] at hneg
    have hpos := Int.tdiv_nonneg (show 0 ≤ now - moment by omega) (show (0 : ℤ) ≤ 1000000 by decide)
    omega

/-- The cookie is gone when its token expires. -/
theorem refreshCookieMaxAge_within {token : RefreshToken} {decodedAt now later : Timestamp}
    {age : ℤ} (h : refreshCookieMaxAge token decodedAt now = .ok age) (hfrom : now ≤ later)
    (huntil : later < now + age * 1000000) : later < token.expiresAt * 1000000 :=
  lt_of_wholeSeconds (refreshCookieMaxAge_eq_ok h).2 hfrom huntil

theorem setRefreshCookie_within {settings : CookieSettings} {token : RefreshToken} {text : String}
    {decodedAt now : Timestamp} {cookie : SetCookie}
    (h : setRefreshCookie settings token text decodedAt now = .ok cookie) :
    ∃ age, cookie.maxAge = some age ∧ ∀ later, now ≤ later → later < now + age * 1000000 →
      later < token.expiresAt * 1000000 := by
  unfold setRefreshCookie at h
  cases hage : refreshCookieMaxAge token decodedAt now with
  | error e =>
    rw [hage] at h
    contradiction
  | ok age =>
    rw [hage] at h
    obtain rfl := Except.ok.inj h
    exact ⟨age, rfl, fun later => refreshCookieMaxAge_within hage⟩

omit [DecidableEq τ] in
/-- A token is decoded before its session ends. -/
theorem State.EndsAt.decoded {k : Uuid} {moment now : Timestamp} {cookies : RefreshCookies}
    {token : RefreshToken} (h : s.EndsAt k moment) (hmem : token ∈ s.refreshTokens)
    (hk : token.sessionId = k) (hdecode : decodeRefreshTokenWithCsrf sec cookies now = .ok token) :
    now < moment := by
  have htimely := (decodeRefreshTokenWithCsrf_eq_ok hdecode).2.2
  rw [h.tokens token hmem hk] at htimely
  have hfloor : jwtSeconds moment * 1000000 ≤ moment := Int.ediv_mul_le moment (by decide)
  exact Int.lt_of_lt_of_le htimely hfloor

/-! ## The purge -/

/-- A row that a purge deletes has ended before its cutoff. -/
theorem deleted_before {cutoff : Timestamp} {todo todo' : List Uuid} {k : Uuid} {row : AuthSession}
    (h : Step sec s t s') (hp : s.txs t = .purging cutoff todo)
    (hp' : s'.txs t = .purging cutoff todo') (hview : s.sessions.view t k = some row)
    (hgone : s'.sessions.view t k = none) : row.expiresAt < cutoff := by
  cases h with
  | @purgeRow k' cutoff' todo'' session hx _ hrow hexpired =>
    rw [hp] at hx
    obtain ⟨rfl, -⟩ := Tx.purging.inj hx
    by_cases hk : k = k'
    · subst hk
      rw [hview] at hrow
      obtain rfl := Option.some.inj hrow
      exact hexpired
    · have hsame : s.sessions.view t k = none := by
        rw [← hgone]
        exact (Table.view_write_of_ne hk).symm
      rw [hview] at hsame
      contradiction
  | passPurge =>
    exact absurd (hview.symm.trans hgone) (by simp)
  | purged =>
    exact absurd ((Function.update_self ..).symm.trans hp') (by simp)
  | abort =>
    exact absurd ((Function.update_self ..).symm.trans hp') (by simp)
  | _ => simp_all

theorem purgeCutoff_le {retentionDays : ℤ} {now cutoff : Timestamp}
    (h : purgeCutoff retentionDays now = .ok cutoff) : cutoff ≤ now := by
  unfold purgeCutoff at h
  split_ifs at h with hdays
  obtain rfl := Except.ok.inj h
  exact Int.sub_le_self now (by omega)

/-! ## The lifetime of a session -/

/-- A login fixes the end of its session: no rotation moves it, no token and no cookie outlives it,
nothing is rotated after it, and a purge deletes only what no token can open any more. -/
theorem absolute_refresh_lifetime {ts : List τ}
    (hrun : Run (Step sec) (State.start accounts) ts s) :
    (∀ t login s₁, Step sec s t s₁ → s₁.txs t = .done (.loggedIn login) →
      ∃ row, s₁.sessions.view t login.sessionId = some row ∧
        row.expiresAt = row.createdAt + sec.refreshTokenExpire ∧
        ∀ ts' s₂, Run (Step sec) s₁ ts' s₂ → s₂.EndsAt login.sessionId row.expiresAt) ∧
    (∀ token ∈ s.refreshTokens, ∃ moment,
      (∀ ts' s', Run (Step sec) s ts' s' → s'.EndsAt token.sessionId moment) ∧
      ∀ cookies now, decodeRefreshTokenWithCsrf sec cookies now = .ok token → now < moment) ∧
    (∀ token ∈ s.refreshTokens, ∀ settings text decodedAt now cookie,
      setRefreshCookie settings token text decodedAt now = .ok cookie →
      ∃ age, cookie.maxAge = some age ∧ ∀ later, now ≤ later → later < now + age * 1000000 →
        later < token.expiresAt * 1000000) ∧
    (∀ t claims session now, s.txs t = .resolved .rotation claims session now →
      s.EndsAt session.id session.expiresAt ∧ now < session.expiresAt) ∧
    ∀ retentionDays now cutoff t todo todo' s₁ k row,
      purgeCutoff retentionDays now = .ok cutoff → s.txs t = .purging cutoff todo →
      Step sec s t s₁ → s₁.txs t = .purging cutoff todo' →
      s.sessions.view t k = some row → s₁.sessions.view t k = none →
      ∀ ts' s₂, Run (Step sec) s₁ ts' s₂ → ∀ token ∈ s₂.refreshTokens, token.sessionId = k →
        ∀ cookies later, now ≤ later →
          decodeRefreshTokenWithCsrf sec cookies later ≠ .ok token := by
  have hi : s.Inv sec accounts := hrun.invariant (fun _ _ _ hi h => hi.step h) (.start sec accounts)
  obtain ⟨expiry, hl, -⟩ := (Lifetimes.start accounts fun _ => 0).run (.start sec accounts) hrun
  have hwithin : ∀ t, (s.txs t).WithinLifetime :=
    hrun.invariant (fun _ _ _ hs h => withinLifetime_step h hs) fun _ => trivial
  refine ⟨fun t login s₁ hstep hdone => ?_, fun token htoken => ?_,
    fun token _ settings text decodedAt now cookie => setRefreshCookie_within,
    fun t claims session now hp => ?_,
    fun retentionDays now cutoff t todo todo' s₁ k row hcutoff hp hstep hp' hview hgone ts' s₂ hrun'
      token htoken hk cookies later hlater hdecode => ?_⟩
  · obtain ⟨expiry', hl', -⟩ := hl.step hi.sessions hstep
    cases hstep.arrives with
    | current _ hx | resolved _ hx =>
      rw [hdone] at hx
      contradiction
    | elsewhere hx =>
      rw [hdone] at hx
      exact hx.elim
    | @loggedIn login' token row hx hk _ hexpires _ htokens hsessions =>
      obtain rfl : login = login' := by
        rw [hdone] at hx
        exact Answer.loggedIn.inj (Tx.done.inj hx)
      have hview : s₁.sessions.view t login.sessionId = some row := by
        rw [hsessions, ← hk]
        exact Table.view_write_self
      refine ⟨row, hview, hexpires, fun ts' s₂ hrun' => ?_⟩
      have hmem : token ∈ s₁.refreshTokens := by
        rw [htokens]
        exact List.mem_append_right _ (List.mem_singleton_self _)
      have hends := hl'.endsAt_run (hi.step hstep) hmem hrun'
      rw [hk] at hends
      rw [hl'.rows _ _ (Table.version_of_view hview)]
      exact hends
  · refine ⟨expiry token.sessionId, fun ts' s' => hl.endsAt_run hi htoken, fun cookies now => ?_⟩
    exact (hl.endsAt token.sessionId).decoded htoken rfl
  · have hrole := hi.sessions.roles t
    rw [hp] at hrole
    obtain ⟨-, -, hcommitted, -⟩ := hrole
    have hends := hl.endsAt session.id
    rw [← hends.rows session (.inl hcommitted)] at hends
    have hw := hwithin t
    rw [hp] at hw
    exact ⟨hends, hw⟩
  · have hversion := Table.version_of_view hview
    have hexpired : row.expiresAt < cutoff := deleted_before hstep hp hp' hview hgone
    obtain ⟨owner, howner, hid⟩ := hl.owned k row hversion
    -- the row is gone, but a token that it has had still says when it ends
    have hends := hl.endsAt_run hi howner (hrun'.cons hstep)
    rw [hid, ← hl.rows k row hversion] at hends
    have hlive : later < row.expiresAt := hends.decoded htoken hk hdecode
    have hpast : row.expiresAt < later :=
      Int.lt_of_lt_of_le hexpired (Int.le_trans (purgeCutoff_le hcutoff) hlater)
    exact Int.lt_irrefl later (Int.lt_trans hlive hpast)

/-- Session 2 after a rotation ends when its login said. -/
theorem absolute_refresh_lifetime_rotated : ∃ s : State ℕ,
    Run (Step .clear) (State.start (.single 1 "ada" "secret")) [0, 0, 0, 1, 1, 1, 1, 1] s ∧
    s.EndsAt 2 1000000000 ∧ ∀ cookies now,
      decodeRefreshTokenWithCsrf .clear cookies now = .ok ⟨1, 2, 3, 0, 1000⟩ →
      now < 1000000000 := by
  obtain ⟨s, hrun, -, -, hsigned, -, hrow⟩ := rotated_run
  obtain ⟨-, hends, -⟩ := absolute_refresh_lifetime hrun
  obtain ⟨moment, hrest, hdecoded⟩ := hends _ hsigned
  have hend : s.EndsAt 2 moment := hrest [] s (.nil s)
  obtain rfl : 1000000000 = moment := hend.rows _ (.inl hrow)
  exact ⟨s, hrun, hend, hdecoded⟩

end OpsFlow.Auth
