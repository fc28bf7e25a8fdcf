import OpsFlow.Auth.System

namespace OpsFlow.Auth
open RowStore

variable {τ : Type}

/-! ## What a transaction has done to the sessions -/

inductive SessionRole
  | outside
  | clean
  | locked (session : AuthSession)
  | inserted (k jti : Uuid)
  | rotated (k old new : Uuid)
  | revoked (k : Uuid)
  | sweeping

def Answer.sessionRole : Answer → SessionRole
  | .loggedIn login => .inserted login.sessionId login.refreshTokenId
  | .rotated k old new => .rotated k old new
  | .reuse _ k | .loggedOut k => .revoked k
  | .loggedOutAll _ | .replaced _ | .purged => .sweeping
  | .resetRequested _ | .reauthenticated => .outside

def Tx.sessionRole : Tx → SessionRole
  | .replayed _ session _ | .current _ _ session _ | .resolved _ _ session _ => .locked session
  | .revoking .. | .purging .. => .sweeping
  | .done answer => answer.sessionRole
  | .refused .. => .clean
  | _ => .outside

def SessionRole.Holds (S : Table τ Uuid AuthSession) (t : τ) : SessionRole → Prop
  | .outside => S.HoldsNothing t
  | .clean => S.Clean t
  | .locked session => S.Clean t ∧ S.HoldsOnly t session.id ∧
      S.committed session.id = some session ∧ session.revokedAt = none
  | .inserted k jti => S.HoldsOnly t k ∧ S.committed k = none ∧
      ∃ row, S.pending k = some row ∧ row.id = k ∧ row.currentJti = jti
  | .rotated k old new => S.HoldsOnly t k ∧ ∃ row now, S.committed k = some row ∧
      row.currentJti = old ∧ row.revokedAt = none ∧ S.pending k = some (row.withToken new now)
  | .revoked k => S.HoldsOnly t k ∧ ∃ row now reason, S.committed k = some row ∧
      S.pending k = some (row.revoke now reason)
  | .sweeping => ∀ k row', S.holder k = some t → S.pending k = some row' →
      ∃ row, S.committed k = some row ∧ (row' = row ∨ ∃ now reason, row' = row.revoke now reason)

/-- The role speaks of nothing but the rows that the transaction holds. -/
theorem SessionRole.Holds.frame {S S' : Table τ Uuid AuthSession} {t : τ} {role : SessionRole}
    (h : role.Holds S t) (hS : Table.Undisturbed t S S') : role.Holds S' t := by
  cases role with
  | outside => exact hS.holdsNothing h
  | clean => exact hS.clean h
  | locked session =>
    obtain ⟨hclean, honly, hcommitted, hlive⟩ := h
    refine ⟨hS.clean hclean, hS.holdsOnly honly, ?_, hlive⟩
    rw [hS.committed _ honly.holder, hcommitted]
  | inserted k jti =>
    obtain ⟨honly, habsent, row, hrow, hrest⟩ := h
    refine ⟨hS.holdsOnly honly, ?_, row, ?_, hrest⟩
    · rw [hS.committed _ honly.holder, habsent]
    · rw [hS.pending _ honly.holder, hrow]
  | rotated k old new =>
    obtain ⟨honly, row, now, hrow, hold, hlive, hpending⟩ := h
    refine ⟨hS.holdsOnly honly, row, now, ?_, hold, hlive, ?_⟩
    · rw [hS.committed _ honly.holder, hrow]
    · rw [hS.pending _ honly.holder, hpending]
  | revoked k =>
    obtain ⟨honly, row, now, reason, hrow, hpending⟩ := h
    refine ⟨hS.holdsOnly honly, row, now, reason, ?_, ?_⟩
    · rw [hS.committed _ honly.holder, hrow]
    · rw [hS.pending _ honly.holder, hpending]
  | sweeping =>
    intro k row' hk hpending
    have hold := (hS.holder k).mp hk
    rw [hS.pending k hold] at hpending
    rw [hS.committed k hold]
    exact h k row' hold hpending

def SessionRole.newToken? : SessionRole → Option (Uuid × Uuid)
  | .inserted k jti | .rotated k _ jti => some (k, jti)
  | _ => none

theorem SessionRole.Holds.holder_of_newToken {S : Table τ Uuid AuthSession} {t : τ}
    {role : SessionRole} {k jti : Uuid} (h : role.Holds S t)
    (hnew : role.newToken? = some (k, jti)) :
    S.holder k = some t := by
  cases role with
  | inserted k' jti' =>
    obtain ⟨rfl, -⟩ := Prod.mk.inj (Option.some.inj hnew)
    exact h.1.holder
  | rotated k' old new =>
    obtain ⟨rfl, -⟩ := Prod.mk.inj (Option.some.inj hnew)
    exact h.1.holder
  | _ => contradiction

/-- A transaction that goes on to rotate or to close a session has its current token. -/
def Tx.HasCurrentToken : Tx → Prop
  | .current _ claims session _ | .resolved _ claims session _ =>
    session.currentJti = claims.tokenId
  | _ => True

def Tx.claims? : Tx → Option RefreshToken
  | .presented _ claims | .current _ claims _ _ | .resolved _ claims _ _ => some claims
  | _ => none

/-! ## One step -/

/-- What a statement means for the sessions and for the refresh tokens. -/
inductive SessionMove [DecidableEq τ] (s : State τ) (t : τ) (s' : State τ) (x : Tx) : Prop
  | stays : s'.sessions = s.sessions → s'.refreshTokens = s.refreshTokens →
      x.sessionRole = (s.txs t).sessionRole →
      ((s.txs t).HasCurrentToken → x.HasCurrentToken) → SessionMove s t s' x
  | fails : s'.sessions = s.sessions → s'.refreshTokens = s.refreshTokens →
      x.sessionRole = .clean → x.HasCurrentToken →
      ((s.txs t).sessionRole = .outside ∨ ∃ session, (s.txs t).sessionRole = .locked session) →
      SessionMove s t s' x
  | scans : (s.txs t).sessionRole = .outside → x.sessionRole = .sweeping → x.HasCurrentToken →
      s'.sessions = s.sessions → s'.refreshTokens = s.refreshTokens → SessionMove s t s' x
  | locks {claims : RefreshToken} {session : AuthSession} : (s.txs t).sessionRole = .outside →
      (s.txs t).claims? = some claims → s.sessions.Free t claims.sessionId →
      s.sessions.view t claims.sessionId = some session →
      s'.sessions = s.sessions.acquire t claims.sessionId →
      s'.refreshTokens = s.refreshTokens → x.HasCurrentToken →
      (x.sessionRole = .clean ∨ (x.sessionRole = .locked session ∧ session.revokedAt = none ∧
        ∀ c, x.claims? = some c → c = claims)) → SessionMove s t s' x
  | issues {token : RefreshToken} {row : AuthSession} : (s.txs t).sessionRole = .outside →
      s.sessions.committed token.sessionId = none → s.sessions.holder token.sessionId = none →
      (∀ old ∈ s.refreshTokens, old.sessionId ≠ token.sessionId ∧ old.tokenId ≠ token.tokenId) →
      row.id = token.sessionId → row.currentJti = token.tokenId → row.userId = token.userId →
      x.sessionRole = .inserted token.sessionId token.tokenId → x.HasCurrentToken →
      s'.sessions = s.sessions.write t token.sessionId (some row) →
      s'.refreshTokens = s.refreshTokens ++ [token] → SessionMove s t s' x
  | revokes {session row : AuthSession} {now : Timestamp} {reason : String} :
      (s.txs t).sessionRole = .locked session → s.sessions.Free t session.id →
      s.sessions.view t session.id = some row → x.sessionRole = .revoked session.id →
      x.HasCurrentToken →
      s'.sessions = s.sessions.write t session.id (some (row.revoke now reason)) →
      s'.refreshTokens = s.refreshTokens → SessionMove s t s' x
  | rotates {claims token : RefreshToken} {session row : AuthSession} {now : Timestamp} :
      (s.txs t).sessionRole = .locked session → (s.txs t).claims? = some claims →
      ((s.txs t).HasCurrentToken → session.currentJti = claims.tokenId) →
      s.sessions.Free t session.id → s.sessions.view t session.id = some row →
      (∀ old ∈ s.refreshTokens, old.tokenId ≠ token.tokenId) → token.sessionId = session.id →
      token.userId = claims.userId →
      x.sessionRole = .rotated session.id claims.tokenId token.tokenId → x.HasCurrentToken →
      s'.sessions = s.sessions.write t session.id (some (row.withToken token.tokenId now)) →
      s'.refreshTokens = s.refreshTokens ++ [token] → SessionMove s t s' x
  | sweeps {k : Uuid} {row : AuthSession} {row' : Option AuthSession} :
      (s.txs t).sessionRole = .sweeping → x.sessionRole = .sweeping → x.HasCurrentToken →
      s.sessions.Free t k → s.sessions.view t k = some row →
      (∀ r ∈ row', row.revokedAt = none ∧ ∃ now reason, r = row.revoke now reason) →
      s'.sessions = s.sessions.write t k row' → s'.refreshTokens = s.refreshTokens →
      SessionMove s t s' x

section Statements
variable [DecidableEq τ] {sec : Security} {s s' : State τ} {t : τ} {x : Tx}

/-- A transaction that has not come to the sessions, and does not now. -/
theorem SessionMove.outside (hsessions : s'.sessions = s.sessions)
    (htokens : s'.refreshTokens = s.refreshTokens) (hp : (s.txs t).sessionRole = .outside)
    (htoken : x.HasCurrentToken) (hx : x.sessionRole = .outside ∨ x.sessionRole = .clean) :
    SessionMove s t s' x := by
  obtain hx | hx := hx
  · exact .stays hsessions htokens (hx.trans hp.symm) fun _ => htoken
  · exact .fails hsessions htokens hx htoken (.inl hp)

structure Tx.Apart (x : Tx) : Prop where
  claims : x.claims? = none
  currentToken : x.HasCurrentToken
  role : x.sessionRole = .outside ∨ x.sessionRole = .clean

theorem apart_proceed {α : Type} {commits : AuthError → Bool} {next : α → Tx}
    {result : Except AuthError α} (hnext : ∀ a, (next a).Apart) :
    (proceed commits next result).Apart :=
  proceed_induction (fun _ _ => ⟨rfl, trivial, .inr rfl⟩) hnext

theorem apart_swappedTx (r : Replacement) (now : Timestamp) : (r.swappedTx now).Apart := by
  unfold Replacement.swappedTx
  cases r.authority with
  | proof claims => exact ⟨rfl, trivial, .inl rfl⟩
  | resetToken token used => exact ⟨rfl, trivial, .inl rfl⟩

omit [DecidableEq τ] in
theorem sessionRole_proceed {α : Type} {commits : AuthError → Bool} {next : α → Tx}
    (result : Except AuthError α)
    (hnext : ∀ a, (next a).sessionRole = .outside ∨ (next a).sessionRole = .clean) :
    (proceed commits next result).sessionRole = .outside ∨
      (proceed commits next result).sessionRole = .clean :=
  proceed_induction (P := fun x => x.sessionRole = .outside ∨ x.sessionRole = .clean)
    (fun _ _ => .inr rfl) hnext

omit [DecidableEq τ] in
theorem hasCurrentToken_proceed {α : Type} {commits : AuthError → Bool} {next : α → Tx}
    {result : Except AuthError α} (hnext : ∀ a, (next a).HasCurrentToken) :
    (proceed commits next result).HasCurrentToken :=
  proceed_induction (fun _ _ => trivial) hnext

omit [DecidableEq τ] in
theorem hasCurrentToken_judged (kind : Presentation) (claims : RefreshToken)
    (session : AuthSession) (now : Timestamp) :
    (judged kind claims session now).HasCurrentToken := by
  unfold judged
  split_ifs with h
  · trivial
  · exact not_not.mp h

omit [DecidableEq τ] in
theorem sessionRole_judged (kind : Presentation) (claims : RefreshToken) (session : AuthSession)
    (now : Timestamp) : (judged kind claims session now).sessionRole = .locked session := by
  unfold judged
  split_ifs <;> rfl

omit [DecidableEq τ] in
theorem claims_judged {kind : Presentation} {claims c : RefreshToken} {session : AuthSession}
    {now : Timestamp} (h : (judged kind claims session now).claims? = some c) : c = claims := by
  unfold judged at h
  split_ifs at h
  · contradiction
  · exact (Option.some.inj h).symm

omit [DecidableEq τ] in
/-- A session that has been locked is usable, or the request fails. -/
theorem sessionRole_lockSession (kind : Presentation) (claims : RefreshToken)
    (session : AuthSession) (now : Timestamp) (x : Tx)
    (hx : x = proceed kind.commits (fun () => judged kind claims session now)
      (requireUsableSession session claims now)) :
    x.sessionRole = .clean ∨ (x.sessionRole = .locked session ∧ session.revokedAt = none ∧
      ∀ c, x.claims? = some c → c = claims) := by
  subst hx
  cases husable : requireUsableSession session claims now with
  | error e => exact .inl rfl
  | ok _ =>
    refine .inr ⟨sessionRole_judged kind claims session now, ?_, fun c => claims_judged⟩
    exact (requireUsableSession_eq_ok.mp husable).1

/-- A transaction that is apart before and after a step moves no session. -/
theorem move_of_apart (hp : (s.txs t).sessionRole = .outside)
    (htxs : s'.txs = Function.update s.txs t x) (hlog : s'.log = s.log)
    (hsessions : s'.sessions = s.sessions) (htokens : s'.refreshTokens = s.refreshTokens)
    (hx : x.Apart) : ∃ x, s'.txs = Function.update s.txs t x ∧ s'.log = s.log ∧
      (∀ c, x.claims? = some c → (s.txs t).claims? = some c ∨
        ((s.txs t).sessionRole = .outside ∧ c ∈ s.refreshTokens)) ∧
      SessionMove s t s' x := by
  refine ⟨x, htxs, hlog, fun c hc => ?_, .outside hsessions htokens hp hx.currentToken hx.role⟩
  rw [hx.claims] at hc
  contradiction

/-- What each statement does to the sessions. -/
theorem Step.sessionMove (h : Step sec s t s') :
    (∃ x, s'.txs = Function.update s.txs t x ∧ s'.log = s.log ∧
      (∀ c, x.claims? = some c → (s.txs t).claims? = some c ∨
        ((s.txs t).sessionRole = .outside ∧ c ∈ s.refreshTokens)) ∧
      SessionMove s t s' x) ∨ s.Ends t s' := by
  cases h with
  -- login
  | authenticate hp _ =>
    exact .inl (move_of_apart (by rw [hp]; rfl) rfl rfl rfl rfl
      (apart_proceed fun _ => ⟨rfl, trivial, .inl rfl⟩))
  | @issueSession userId sessionId jti verified now issuedNow hp habsent hholder hfresh =>
    have hnew : ∀ old ∈ s.refreshTokens,
        old.sessionId ≠ (createRefreshToken userId sessionId jti (now + sec.refreshTokenExpire)
          issuedNow).sessionId ∧
        old.tokenId ≠ (createRefreshToken userId sessionId jti (now + sec.refreshTokenExpire)
          issuedNow).tokenId := hfresh
    exact .inl ⟨_, rfl, rfl, fun c hc => by contradiction,
      .issues (by rw [hp]; rfl) habsent hholder hnew rfl rfl rfl rfl trivial rfl rfl⟩
  -- rotation and logout
  | @present kind cookies now hp hsigned =>
    refine .inl ⟨_, rfl, rfl, fun c hc => .inr ⟨by rw [hp]; rfl, ?_⟩,
      .outside rfl rfl (by rw [hp]; rfl) ?_ ?_⟩
    · cases hdecode : decodeRefreshTokenWithCsrf sec cookies now with
      | error e =>
        rw [hdecode] at hc
        contradiction
      | ok claims =>
        rw [hdecode] at hc
        obtain rfl := Option.some.inj hc
        exact hsigned _ (decodeRefreshTokenWithCsrf_eq_ok hdecode).1
    · exact hasCurrentToken_proceed fun _ => trivial
    · exact sessionRole_proceed _ fun _ => .inl rfl
  | sessionMissing hp _ =>
    exact .inl (move_of_apart (by rw [hp]; rfl) rfl rfl rfl rfl ⟨rfl, trivial, .inr rfl⟩)
  | @lockSession kind claims session now hp hfree hview =>
    refine .inl ⟨_, rfl, rfl, fun c hc => .inl ?_,
      .locks (by rw [hp]; rfl) (by rw [hp]; rfl) hfree hview rfl rfl ?_
        (sessionRole_lockSession kind claims session now _ rfl)⟩
    · rw [hp]
      cases hlock : requireUsableSession session claims now with
      | error e =>
        rw [hlock] at hc
        contradiction
      | ok _ =>
        rw [hlock] at hc
        rw [claims_judged hc]
        rfl
    · exact hasCurrentToken_proceed fun _ => hasCurrentToken_judged kind claims session now
  | revokeReplayed hp hfree hview =>
    exact .inl ⟨_, rfl, rfl, fun c hc => by contradiction,
      .revokes (by rw [hp]; rfl) hfree hview rfl trivial rfl rfl⟩
  | @resolveUser kind claims session now hp =>
    cases hresolve : resolveActiveUser (s.users.view t claims.userId) with
    | error e =>
      exact .inl ⟨_, rfl, rfl, fun c hc => by contradiction,
        .fails rfl rfl rfl trivial (.inr ⟨session, by rw [hp]; rfl⟩)⟩
    | ok user =>
      refine .inl ⟨_, rfl, rfl, fun c hc => .inl (by rw [hp]; exact hc),
        .stays rfl rfl (by rw [hp]; rfl) fun htoken => ?_⟩
      rw [hp] at htoken
      exact htoken
  | @rotate claims session row now issuedNow jti hp hfree hview hfresh =>
    have hclaims : (s.txs t).claims? = some claims := by rw [hp]; rfl
    have hnew : ∀ old ∈ s.refreshTokens, old.tokenId ≠ (createRefreshToken claims.userId session.id
        jti session.expiresAt issuedNow).tokenId := hfresh
    exact .inl ⟨_, rfl, rfl, fun c hc => by contradiction,
      .rotates (by rw [hp]; rfl) hclaims (by rw [hp]; exact id) hfree hview hnew rfl rfl rfl
        trivial rfl rfl⟩
  | logout hp hfree hview =>
    exact .inl ⟨_, rfl, rfl, fun c hc => by contradiction,
      .revokes (by rw [hp]; rfl) hfree hview rfl trivial rfl rfl⟩
  -- requests with an access token
  | identify hp =>
    exact .inl (move_of_apart (by rw [hp]; rfl) rfl rfl rfl rfl
      (apart_proceed fun _ => ⟨rfl, trivial, .inl rfl⟩))
  | logoutAll hp =>
    exact .inl (move_of_apart (by rw [hp]; rfl) rfl rfl rfl rfl ⟨rfl, trivial, .inl rfl⟩)
  | reauthenticateFails hp _ _ =>
    exact .inl (move_of_apart (by rw [hp]; rfl) rfl rfl rfl rfl ⟨rfl, trivial, .inr rfl⟩)
  | reauthenticate hp _ _ =>
    exact .inl (move_of_apart (by rw [hp]; rfl) rfl rfl rfl rfl ⟨rfl, trivial, .inl rfl⟩)
  -- change of a password
  | prove hp _ =>
    refine .inl (move_of_apart (by rw [hp]; rfl) rfl rfl rfl rfl (apart_proceed fun _ => ?_))
    split_ifs
    · exact ⟨rfl, trivial, .inr rfl⟩
    · exact ⟨rfl, trivial, .inl rfl⟩
  | checkProof hp _ _ =>
    exact .inl (move_of_apart (by rw [hp]; rfl) rfl rfl rfl rfl
      (apart_proceed fun _ => ⟨rfl, trivial, .inl rfl⟩))
  -- reset of a password
  | tokenMissing hp _ =>
    exact .inl (move_of_apart (by rw [hp]; rfl) rfl rfl rfl rfl ⟨rfl, trivial, .inr rfl⟩)
  | lockToken hp _ _ _ =>
    exact .inl (move_of_apart (by rw [hp]; rfl) rfl rfl rfl rfl
      (apart_proceed fun _ => ⟨rfl, trivial, .inl rfl⟩))
  | @findUser token now newPassword hp =>
    cases s.users.view t token.userId with
    | none =>
      exact .inl (move_of_apart (by rw [hp]; rfl) rfl rfl rfl rfl ⟨rfl, trivial, .inr rfl⟩)
    | some user =>
      refine .inl (move_of_apart (by rw [hp]; rfl) rfl rfl rfl rfl ?_)
      dsimp only
      split_ifs
      · exact ⟨rfl, trivial, .inl rfl⟩
      · exact ⟨rfl, trivial, .inr rfl⟩
  | checkResetToken hp _ _ =>
    exact .inl (move_of_apart (by rw [hp]; rfl) rfl rfl rfl rfl
      (apart_proceed fun _ => ⟨rfl, trivial, .inl rfl⟩))
  -- the compare-and-set of both
  | swap hp _ _ _ =>
    exact .inl (move_of_apart (by rw [hp]; rfl) rfl rfl rfl rfl (apart_swappedTx _ _))
  | swapStale hp _ _ =>
    exact .inl (move_of_apart (by rw [hp]; rfl) rfl rfl rfl rfl ⟨rfl, trivial, .inr rfl⟩)
  | markUsed hp _ _ _ _ =>
    exact .inl (move_of_apart (by rw [hp]; rfl) rfl rfl rfl rfl ⟨rfl, trivial, .inl rfl⟩)
  | notMarked hp _ _ _ =>
    exact .inl (move_of_apart (by rw [hp]; rfl) rfl rfl rfl rfl ⟨rfl, trivial, .inr rfl⟩)
  -- request of a reset
  | @requestReset email record now hp _ =>
    cases record with
    | none =>
      exact .inl (move_of_apart (by rw [hp]; rfl) rfl rfl rfl rfl ⟨rfl, trivial, .inl rfl⟩)
    | some record =>
      refine .inl (move_of_apart (by rw [hp]; rfl) rfl rfl rfl rfl ?_)
      dsimp only
      split_ifs
      · exact ⟨rfl, trivial, .inl rfl⟩
      · exact ⟨rfl, trivial, .inl rfl⟩
  | acquireIssuanceLock hp _ =>
    exact .inl (move_of_apart (by rw [hp]; rfl) rfl rfl rfl rfl ⟨rfl, trivial, .inl rfl⟩)
  | insertToken hp _ _ _ _ =>
    exact .inl (move_of_apart (by rw [hp]; rfl) rfl rfl rfl rfl ⟨rfl, trivial, .inl rfl⟩)
  -- `invalidate_active_for_user`
  | scanTokens hp _ =>
    exact .inl (move_of_apart (by rw [hp]; rfl) rfl rfl rfl rfl ⟨rfl, trivial, .inl rfl⟩)
  | scanSiblings hp _ _ =>
    exact .inl (move_of_apart (by rw [hp]; rfl) rfl rfl rfl rfl ⟨rfl, trivial, .inl rfl⟩)
  | invalidateRow hp _ _ _ =>
    exact .inl (move_of_apart (by rw [hp]; rfl) rfl rfl rfl rfl ⟨rfl, trivial, .inl rfl⟩)
  | passToken hp _ _ =>
    exact .inl (move_of_apart (by rw [hp]; rfl) rfl rfl rfl rfl ⟨rfl, trivial, .inl rfl⟩)
  | siblingsInvalidated hp _ =>
    exact .inl (move_of_apart (by rw [hp]; rfl) rfl rfl rfl rfl ⟨rfl, trivial, .inl rfl⟩)
  -- `revoke_all_for_user`
  | scanSessions hp _ =>
    exact .inl ⟨_, rfl, rfl, fun c hc => by contradiction,
      .scans (by rw [hp]; rfl) rfl trivial rfl rfl⟩
  | @revokeRow cause k reason now todo session hp hfree hview hmatches =>
    refine .inl ⟨_, rfl, rfl, fun c hc => by contradiction,
      .sweeps (by rw [hp]; rfl) rfl trivial hfree hview (fun r hr => ?_) rfl rfl⟩
    obtain rfl := Option.some.inj hr
    exact ⟨hmatches.2, now, reason, rfl⟩
  | passSession hp _ _ =>
    exact .inl ⟨_, rfl, rfl, fun c hc => by contradiction,
      .stays rfl rfl (by rw [hp]; rfl) fun _ => trivial⟩
  | @sessionsRevoked cause reason now hp =>
    refine .inl ⟨_, rfl, rfl, fun c hc => by contradiction,
      .stays rfl rfl ?_ fun _ => trivial⟩
    rw [hp]
    cases cause <;> rfl
  -- `delete_expired_before`
  | purge hp _ =>
    exact .inl ⟨_, rfl, rfl, fun c hc => by contradiction,
      .scans (by rw [hp]; rfl) rfl trivial rfl rfl⟩
  | purgeRow hp hfree hview _ =>
    exact .inl ⟨_, rfl, rfl, fun c hc => by contradiction,
      .sweeps (by rw [hp]; rfl) rfl trivial hfree hview (fun r hr => by contradiction) rfl rfl⟩
  | passPurge hp _ _ =>
    exact .inl ⟨_, rfl, rfl, fun c hc => by contradiction,
      .stays rfl rfl (by rw [hp]; rfl) fun _ => trivial⟩
  | purged hp =>
    exact .inl ⟨_, rfl, rfl, fun c hc => by contradiction,
      .stays rfl rfl (by rw [hp]; rfl) fun _ => trivial⟩
  -- the end of a request
  | commit hp => exact .inr (.commit hp)
  | @refuse error commits hp =>
    cases commits with
    | true => exact .inr (.close hp)
    | false => exact .inr (.rollback (.inr ⟨error, rfl⟩))
  | abort _ => exact .inr (.rollback (.inl rfl))

end Statements

end OpsFlow.Auth
