import OpsFlow.Auth.Atomicity

namespace OpsFlow.Auth
open RowStore Transition

variable {τ : Type} [DecidableEq τ] {sec : Security} {accounts : Accounts} {s s' : State τ} {t : τ}

def State.Rotatable (s : State τ) (token : RefreshToken) : Prop :=
  ∃ row, s.sessions.committed token.sessionId = some row ∧ row.revokedAt = none ∧
    row.currentJti = token.tokenId

def State.Superseded (s : State τ) (token : RefreshToken) : Prop :=
  ∃ new, .rotated token.sessionId token.tokenId new ∈ s.log

def State.Over (s : State τ) (k : Uuid) : Prop :=
  ∀ row, s.sessions.committed k = some row → row.revokedAt ≠ none

/-! ## A session that is over stays over -/

/-- The identifier of a session is never given to another one. -/
structure State.Taken (s : State τ) (k : Uuid) : Prop where
  known : ∃ token ∈ s.refreshTokens, token.sessionId = k
  unclaimed : ∀ t jti, (s.txs t).sessionRole ≠ .inserted k jti

omit [DecidableEq τ] in
theorem State.SessionInv.taken (hi : s.SessionInv) {k : Uuid} {row : AuthSession}
    (hrow : s.sessions.committed k = some row) : s.Taken k := by
  obtain ⟨token, hmem, hk, -⟩ := hi.owned k row hrow
  refine ⟨⟨token, hmem, hk⟩, fun t jti h => ?_⟩
  have hrole := hi.roles t
  rw [h] at hrole
  rw [hrole.2.1] at hrow
  contradiction

/-- The tokens of a step are those of before, or one more. -/
theorem refreshTokens_step (h : Step sec s t s') :
    s'.refreshTokens = s.refreshTokens ∨ ∃ token, s'.refreshTokens = s.refreshTokens ++ [token] ∧
      ((∀ old ∈ s.refreshTokens, old.sessionId ≠ token.sessionId) ∨
        ∃ session, (s.txs t).sessionRole = .locked session ∧ token.sessionId = session.id) := by
  obtain ⟨x, -, -, -, hmove⟩ | hend := h.sessionMove
  · cases hmove with
    | stays _ htokens => exact .inl htokens
    | fails _ htokens => exact .inl htokens
    | scans _ _ _ _ htokens => exact .inl htokens
    | locks _ _ _ _ _ htokens => exact .inl htokens
    | issues _ _ _ hfresh _ _ _ _ _ _ htokens =>
      exact .inr ⟨_, htokens, .inl fun old hold => (hfresh old hold).1⟩
    | revokes _ _ _ _ _ _ htokens => exact .inl htokens
    | @rotates claims token session row now hp _ _ _ _ _ hk _ _ _ _ htokens =>
      exact .inr ⟨token, htokens, .inr ⟨session, hp, hk⟩⟩
    | sweeps _ _ _ _ _ _ _ htokens => exact .inl htokens
  · cases hend <;> exact .inl rfl

/-- A session is inserted under a fresh identifier only. -/
theorem inserted_step (h : Step sec s t s') {t' : τ} {k jti : Uuid}
    (hrole : (s'.txs t').sessionRole = .inserted k jti) :
    (s.txs t').sessionRole = .inserted k jti ∨
      ∀ old ∈ s.refreshTokens, old.sessionId ≠ k := by
  obtain ⟨x, htxs, -, -, hmove⟩ | hend := h.sessionMove
  · rw [htxs] at hrole
    by_cases ht : t' = t
    · subst ht
      rw [Function.update_self] at hrole
      cases hmove with
      | stays _ _ hx _ =>
        rw [hx] at hrole
        exact .inl hrole
      | fails _ _ hx _ _ =>
        rw [hx] at hrole
        contradiction
      | scans _ hx _ _ _ =>
        rw [hx] at hrole
        contradiction
      | locks _ _ _ _ _ _ _ hx =>
        obtain hx | ⟨hx, -, -⟩ := hx
        · rw [hx] at hrole
          contradiction
        · rw [hx] at hrole
          contradiction
      | issues _ _ _ hfresh _ _ _ hx _ _ _ =>
        rw [hx] at hrole
        injection hrole with hk _
        refine .inr fun old hold => ?_
        rw [← hk]
        exact (hfresh old hold).1
      | revokes _ _ _ hx _ _ _ =>
        rw [hx] at hrole
        contradiction
      | rotates _ _ _ _ _ _ _ _ hx _ _ _ =>
        rw [hx] at hrole
        contradiction
      | sweeps _ hx _ _ _ _ _ _ =>
        rw [hx] at hrole
        contradiction
    · rw [Function.update_of_ne ht] at hrole
      exact .inl hrole
  · obtain ⟨x, htxs, hx⟩ := hend.txs_eq
    have houtside : x.sessionRole = .outside := by
      obtain rfl | ⟨error, rfl⟩ | ⟨answer, rfl⟩ := hx <;> rfl
    rw [htxs] at hrole
    by_cases ht : t' = t
    · subst ht
      rw [Function.update_self, houtside] at hrole
      contradiction
    · rw [Function.update_of_ne ht] at hrole
      exact .inl hrole

theorem State.Taken.step {k : Uuid} (htaken : s.Taken k) (h : Step sec s t s') : s'.Taken k := by
  obtain ⟨token, hmem, hk⟩ := htaken.known
  refine ⟨⟨token, ?_, hk⟩, fun t' jti hrole => ?_⟩
  · obtain hsame | ⟨new, hsnoc, -⟩ := refreshTokens_step h
    · rw [hsame]
      exact hmem
    · rw [hsnoc]
      exact List.mem_append_left _ hmem
  · obtain hrole | hfresh := inserted_step h hrole
    · exact htaken.unclaimed t' jti hrole
    · exact hfresh token hmem hk

/-- What a commit makes of a session that is taken and over: it stays as it is, or goes. -/
theorem State.SessionInv.view_over (hi : s.SessionInv) {k : Uuid} {row' : AuthSession}
    (htaken : s.Taken k) (hover : s.Over k) (hview : s.sessions.view t k = some row') :
    s.sessions.committed k = some row' := by
  by_cases hholder : s.sessions.holder k = some t
  · rw [Table.view_of_holder hholder] at hview
    have hrole := hi.roles t
    cases hr : (s.txs t).sessionRole with
    | outside =>
      rw [hr] at hrole
      exact absurd hholder (hrole k)
    | clean =>
      rw [hr] at hrole
      rw [← hrole k hholder, hview]
    | locked session =>
      rw [hr] at hrole
      rw [← hrole.1 k hholder, hview]
    | inserted k' jti =>
      -- a session that has had a token is not inserted again
      rw [hr] at hrole
      obtain rfl := (hrole.1 k).mp hholder
      exact absurd hr (htaken.unclaimed t jti)
    | rotated k' old new =>
      rw [hr] at hrole
      obtain ⟨honly, row, now, hrow, -, hlive, -⟩ := hrole
      obtain rfl := (honly k).mp hholder
      exact absurd hlive (hover row hrow)
    | revoked k' =>
      rw [hr] at hrole
      obtain ⟨honly, row, now, reason, hrow, hpending⟩ := hrole
      obtain rfl := (honly k).mp hholder
      rw [hpending, AuthSession.revoke_of_revoked (hover row hrow)] at hview
      rw [hrow, hview]
    | sweeping =>
      rw [hr] at hrole
      obtain ⟨row, hrow, rfl | ⟨now, reason, rfl⟩⟩ := hrole k row' hholder hview
      · exact hrow
      · rw [AuthSession.revoke_of_revoked (hover row hrow)]
        exact hrow
  · rw [← hview, Table.view_of_not_holder hholder]

/-- One step after the end of a session. -/
theorem over_step (hi : s.Inv sec accounts) {k : Uuid} (htaken : s.Taken k) (hover : s.Over k)
    (h : Step sec s t s') :
    (∀ row, s'.sessions.committed k = some row → s.sessions.committed k = some row) ∧
    (∀ old new, .rotated k old new ∈ s'.log → .rotated k old new ∈ s.log) ∧
    ∀ token ∈ s'.refreshTokens, token.sessionId = k → token ∈ s.refreshTokens := by
  refine ⟨fun row hrow => ?_, fun old new hmem => ?_, fun token hmem hk => ?_⟩
  · obtain ⟨answer, -, rfl⟩ | ⟨hsame, -⟩ := step_commits hi h
    · exact hi.sessions.view_over htaken hover hrow
    · rw [← hsame.sessions]
      exact hrow
  · obtain ⟨answer, hp, rfl⟩ | ⟨-, hlog⟩ := step_commits hi h
    · obtain hmem | hmem := List.mem_append.mp hmem
      · exact hmem
      · -- a rotation that is committed has locked a session that is not over
        obtain rfl := List.mem_singleton.mp hmem
        obtain ⟨row, -, hrow, -, hlive, -⟩ := hi.sessions.current_of_rotated hp
        exact absurd hlive (hover row hrow)
    · rw [← hlog]
      exact hmem
  · obtain hsame | ⟨new, hsnoc, hnew⟩ := refreshTokens_step h
    · rw [← hsame]
      exact hmem
    · rw [hsnoc, List.mem_append, List.mem_singleton] at hmem
      obtain hmem | rfl := hmem
      · exact hmem
      · obtain hfresh | ⟨session, hp, hsession⟩ := hnew
        · obtain ⟨a, ha, hak⟩ := htaken.known
          exact absurd (hak.trans hk.symm) (hfresh a ha)
        · have hrole := hi.sessions.roles t
          rw [hp] at hrole
          obtain ⟨-, -, hcommitted, hlive⟩ := hrole
          rw [← hsession, hk] at hcommitted
          exact absurd hlive (hover session hcommitted)

structure OverSince (s₀ s : State τ) (k : Uuid) : Prop where
  taken : s.Taken k
  rows : ∀ row, s.sessions.committed k = some row → s₀.sessions.committed k = some row
  rotations : ∀ old new, .rotated k old new ∈ s.log → .rotated k old new ∈ s₀.log
  tokens : ∀ token ∈ s.refreshTokens, token.sessionId = k → token ∈ s₀.refreshTokens

omit [DecidableEq τ] in
theorem OverSince.over {s₀ : State τ} {k : Uuid} (h : OverSince s₀ s k) (hover : s₀.Over k) :
    s.Over k := fun row hrow => hover row (h.rows row hrow)

theorem overSince_run {s₀ : State τ} {k : Uuid} {ts : List τ} (hi : s₀.Inv sec accounts)
    (htaken : s₀.Taken k) (hover : s₀.Over k) (hrun : Run (Step sec) s₀ ts s) :
    s.Inv sec accounts ∧ OverSince s₀ s k := by
  refine hrun.invariant (fun s₁ t s₂ (h : s₁.Inv sec accounts ∧ OverSince s₀ s₁ k) hstep => ?_)
    ⟨hi, htaken, fun _ h => h, fun _ _ h => h, fun _ h _ => h⟩
  obtain ⟨hi₁, hsince⟩ := h
  obtain ⟨hrows, hrotations, htokens⟩ := over_step hi₁ hsince.taken (hsince.over hover) hstep
  exact ⟨hi₁.step hstep, hsince.taken.step hstep,
    fun row h => hsince.rows row (hrows row h),
    fun old new h => hsince.rotations old new (hrotations old new h),
    fun token h hk => hsince.tokens token (htokens token h hk) hk⟩

/-! ## What becomes of a superseded token that is presented -/

def sessionExpired : AuthError := .invalidCredentials "The authentication session has expired."

theorem step_presented {kind : Presentation} {claims : RefreshToken}
    (hp : s.txs t = .presented kind claims) (h : Step sec s t s') :
    (s.sessions.view t claims.sessionId = none ∧ ∃ error commits,
      s'.txs t = .refused error commits) ∨
    (∃ session now, s.sessions.view t claims.sessionId = some session ∧
      s'.txs t = proceed kind.commits (fun () => judged kind claims session now)
        (requireUsableSession session claims now)) ∨ s'.txs t = .aborted := by
  cases h with
  | sessionMissing hp' hview =>
    obtain ⟨rfl, rfl⟩ := Tx.presented.inj (hp'.symm.trans hp)
    exact .inl ⟨hview, _, _, Function.update_self ..⟩
  | @lockSession kind' claims' session now hp' _ hview =>
    obtain ⟨rfl, rfl⟩ := Tx.presented.inj (hp'.symm.trans hp)
    exact .inr (.inl ⟨session, now, hview, Function.update_self ..⟩)
  | abort _ => exact .inr (.inr (Function.update_self ..))
  | _ => simp_all only [reduceCtorEq]

theorem step_replayed {kind : Presentation} {session : AuthSession} {now : Timestamp}
    (hp : s.txs t = .replayed kind session now) (h : Step sec s t s') :
    s'.txs t = .done (.reuse kind session.id) ∨ s'.txs t = .aborted := by
  cases h with
  | revokeReplayed hp' _ _ =>
    obtain ⟨rfl, rfl, rfl⟩ := Tx.replayed.inj (hp'.symm.trans hp)
    exact .inl (Function.update_self ..)
  | abort _ => exact .inr (Function.update_self ..)
  | _ => simp_all only [reduceCtorEq]

theorem step_done {answer : Answer} (hp : s.txs t = .done answer) (h : Step sec s t s') :
    s' = { s.commit t (.committed answer) with log := s.log ++ [answer] } ∨
      s'.txs t = .aborted := by
  cases h with
  | commit hp' =>
    obtain rfl := Tx.done.inj (hp'.symm.trans hp)
    exact .inl rfl
  | abort _ => exact .inr (Function.update_self ..)
  | _ => simp_all only [reduceCtorEq]

theorem step_refused {error : AuthError} {commits : Bool} (hp : s.txs t = .refused error commits)
    (h : Step sec s t s') : s'.txs t = .rejected error ∨ s'.txs t = .aborted := by
  cases h with
  | @refuse error' commits' hp' =>
    obtain ⟨rfl, rfl⟩ := Tx.refused.inj (hp'.symm.trans hp)
    cases commits' with
    | true => exact .inl (Function.update_self ..)
    | false => exact .inl (Function.update_self ..)
  | abort _ => exact .inr (Function.update_self ..)
  | _ => simp_all only [reduceCtorEq]

/-- A request that has ended makes no more steps. -/
theorem no_step_of_ended (hp : s.txs t = .aborted ∨ (∃ error, s.txs t = .rejected error) ∨
    ∃ answer, s.txs t = .committed answer) : ¬ Step sec s t s' := by
  intro h
  obtain hp | ⟨error, hp⟩ | ⟨answer, hp⟩ := hp
  · cases h <;> simp_all only [reduceCtorEq, Tx.inProgress]
  · cases h <;> simp_all only [reduceCtorEq, Tx.inProgress]
  · cases h <;> simp_all only [reduceCtorEq, Tx.inProgress]

theorem txs_step_of_ne (h : Step sec s t s') {t' : τ} (ht : t' ≠ t) : s'.txs t' = s.txs t' := by
  obtain ⟨x, htxs, -, -, -⟩ | hend := h.sessionMove
  · rw [htxs, Function.update_of_ne ht]
  · cases hend <;> exact Function.update_of_ne ht ..

theorem log_step (h : Step sec s t s') : ∃ later, s'.log = s.log ++ later := by
  obtain ⟨x, -, hlog, -, -⟩ | hend := h.sessionMove
  · exact ⟨[], hlog.trans (List.append_nil _).symm⟩
  · cases hend with
    | commit _ => exact ⟨_, rfl⟩
    | close _ => exact ⟨[], (List.append_nil _).symm⟩
    | rollback _ => exact ⟨[], (List.append_nil _).symm⟩

/-- How far a request has come that has presented a superseded token. -/
inductive ReplayPhase (s : State τ) (t : τ) (kind : Presentation) (claims : RefreshToken) : Prop
  | presented : s.txs t = .presented kind claims → ReplayPhase s t kind claims
  | replayed {session : AuthSession} {now : Timestamp} : s.txs t = .replayed kind session now →
      session.id = claims.sessionId → ReplayPhase s t kind claims
  | done : s.txs t = .done (.reuse kind claims.sessionId) → ReplayPhase s t kind claims
  | committed : s.txs t = .committed (.reuse kind claims.sessionId) → s.Over claims.sessionId →
      ReplayPhase s t kind claims
  | refused {error : AuthError} {commits : Bool} : s.txs t = .refused error commits →
      (error = sessionExpired ∨ s.Over claims.sessionId) → ReplayPhase s t kind claims
  | rejected {error : AuthError} : s.txs t = .rejected error →
      (error = sessionExpired ∨ s.Over claims.sessionId) → ReplayPhase s t kind claims
  | aborted : s.txs t = .aborted → ReplayPhase s t kind claims

/-- What the lock on the session shows of a superseded token. -/
theorem replayed_of_lock (now : Timestamp) (hi : s.Inv sec accounts) {kind : Presentation}
    {claims : RefreshToken} {session : AuthSession} (hp : s.txs t = .presented kind claims)
    (hsuperseded : s.Superseded claims)
    (hview : s.sessions.view t claims.sessionId = some session) :
    session.id = claims.sessionId ∧
    ((session.revokedAt ≠ none ∧ ∃ error commits,
        proceed kind.commits (fun () => judged kind claims session now)
          (requireUsableSession session claims now) = .refused error commits) ∨
      (session.expiresAt ≤ now ∧ ∃ commits,
        proceed kind.commits (fun () => judged kind claims session now)
          (requireUsableSession session claims now) = .refused sessionExpired commits) ∨
      proceed kind.commits (fun () => judged kind claims session now)
        (requireUsableSession session claims now) = .replayed kind session now) := by
  have hrole := hi.sessions.roles t
  rw [hp] at hrole
  rw [Table.HoldsNothing.view hrole] at hview
  refine ⟨hi.sessions.ids _ _ hview, ?_⟩
  obtain ⟨new, hlog⟩ := hsuperseded
  have hcurrent : session.currentJti ≠ claims.tokenId :=
    (hi.sessions.spent _ _ _ hlog).2 _ _ hview
  have huser : session.userId = claims.userId :=
    (hi.owners.rows _ _ (.inl hview) claims (hi.owners.presented t claims (by rw [hp]; rfl))
      rfl).symm
  unfold requireUsableSession
  split_ifs with hrevoked hexpired hother
  · exact .inl ⟨hrevoked, _, _, rfl⟩
  · exact .inr (.inl ⟨hexpired, _, rfl⟩)
  · exact absurd huser hother
  · refine .inr (.inr ?_)
    show judged kind claims session now = _
    unfold judged
    rw [if_pos hcurrent]

theorem replayPhase_step (hi : s.Inv sec accounts) {kind : Presentation} {claims : RefreshToken}
    (htaken : s.Taken claims.sessionId) (hsuperseded : s.Superseded claims)
    (hphase : ReplayPhase s t kind claims) {t' : τ} (h : Step sec s t' s') :
    ReplayPhase s' t kind claims := by
  have hover (hover : s.Over claims.sessionId) : s'.Over claims.sessionId := by
    intro row hrow
    exact hover row ((over_step hi htaken hover h).1 row hrow)
  by_cases ht : t = t'
  · subst ht
    cases hphase with
    | presented hp =>
      obtain ⟨hview, error, commits, hp'⟩ | ⟨session, now, hview, hp'⟩ | hp' := step_presented hp h
      · -- the session is gone
        refine .refused hp' (.inr (hover fun row hrow => ?_))
        have hrole := hi.sessions.roles t
        rw [hp] at hrole
        rw [Table.HoldsNothing.view hrole, hrow] at hview
        contradiction
      · obtain ⟨hid, ⟨hrevoked, error, commits, hx⟩ | ⟨-, commits, hx⟩ | hx⟩ :=
          replayed_of_lock now hi hp hsuperseded hview
        · refine .refused (hp'.trans hx) (.inr (hover fun row hrow => ?_))
          have hrole := hi.sessions.roles t
          rw [hp] at hrole
          rw [Table.HoldsNothing.view hrole, hrow] at hview
          obtain rfl := Option.some.inj hview
          exact hrevoked
        · exact .refused (hp'.trans hx) (.inl rfl)
        · exact .replayed (hp'.trans hx) hid
      · exact .aborted hp'
    | replayed hp hid =>
      obtain hp' | hp' := step_replayed hp h
      · rw [hid] at hp'
        exact .done hp'
      · exact .aborted hp'
    | done hp =>
      obtain rfl | hp' := step_done hp h
      · refine .committed (Function.update_self ..) fun row' hrow' => ?_
        have hrole := hi.sessions.roles t
        rw [hp] at hrole
        obtain ⟨honly, row, now, reason, -, hpending⟩ := hrole
        have hview : s.sessions.view t claims.sessionId = some row' := hrow'
        rw [Table.view_of_holder honly.holder, hpending] at hview
        obtain rfl := Option.some.inj hview
        exact AuthSession.revokedAt_revoke row now reason
      · exact .aborted hp'
    | committed hp _ => exact absurd h (no_step_of_ended (.inr (.inr ⟨_, hp⟩)))
    | refused hp hwhy =>
      obtain hp' | hp' := step_refused hp h
      · exact .rejected hp' (hwhy.imp_right hover)
      · exact .aborted hp'
    | rejected hp _ => exact absurd h (no_step_of_ended (.inr (.inl ⟨_, hp⟩)))
    | aborted hp => exact absurd h (no_step_of_ended (.inl hp))
  · have hsame := txs_step_of_ne h ht
    cases hphase with
    | presented hp => exact .presented (hsame.trans hp)
    | replayed hp hid => exact .replayed (hsame.trans hp) hid
    | done hp => exact .done (hsame.trans hp)
    | committed hp hwhy => exact .committed (hsame.trans hp) (hover hwhy)
    | refused hp hwhy => exact .refused (hsame.trans hp) (hwhy.imp_right hover)
    | rejected hp hwhy => exact .rejected (hsame.trans hp) (hwhy.imp_right hover)
    | aborted hp => exact .aborted (hsame.trans hp)

theorem replayPhase_run (hi : s.Inv sec accounts) {kind : Presentation} {claims : RefreshToken}
    (hp : s.txs t = .presented kind claims) (htaken : s.Taken claims.sessionId)
    (hsuperseded : s.Superseded claims) {ts : List τ} (hrun : Run (Step sec) s ts s') :
    ReplayPhase s' t kind claims := by
  have hinv := hrun.invariant (fun s₁ t₁ s₂
    (h : s₁.Inv sec accounts ∧ s₁.Taken claims.sessionId ∧ s₁.Superseded claims ∧
      ReplayPhase s₁ t kind claims) hstep => ?_) ⟨hi, htaken, hsuperseded, .presented hp⟩
  · exact hinv.2.2.2
  · obtain ⟨hi₁, htaken₁, ⟨new, hlog⟩, hphase⟩ := h
    refine ⟨hi₁.step hstep, htaken₁.step hstep, ⟨new, ?_⟩,
      replayPhase_step hi₁ htaken₁ ⟨new, hlog⟩ hphase hstep⟩
    obtain ⟨later, hlater⟩ := log_step hstep
    rw [hlater]
    exact List.mem_append_left _ hlog

/-- Nothing keeps such a request from being committed, once the session is free. -/
theorem replay_goes_through (hi : s.Inv sec accounts) {kind : Presentation}
    {cookies : RefreshCookies} {claims : RefreshToken} {session : AuthSession}
    {readAt now : Timestamp} (hp : s.txs t = .idle) (hcookie : cookies.token = some claims)
    (hsigned : claims ∈ s.refreshTokens)
    (htimely : jwtTimely claims.issuedAt claims.expiresAt readAt)
    (hcsrf : validateCsrf sec claims.sessionId cookies.csrfCookie cookies.csrfHeader = .ok ())
    (hfree : s.sessions.Free t claims.sessionId)
    (hrow : s.sessions.committed claims.sessionId = some session)
    (hlive : session.revokedAt = none) (hunexpired : now < session.expiresAt)
    (hsuperseded : s.Superseded claims) :
    ∃ s', Run (Step sec) s [t, t, t, t] s' ∧
      s'.txs t = .committed (.reuse kind claims.sessionId) ∧
      s'.refreshTokens = s.refreshTokens ∧
      s'.sessions.committed claims.sessionId = some (session.revoke now "refresh_token_reuse") := by
  have hdecode : decodeRefreshTokenWithCsrf sec cookies readAt = .ok claims := by
    unfold decodeRefreshTokenWithCsrf decodeRefreshToken
    rw [hcookie]
    simp only [htimely, if_true, bind, Except.bind, hcsrf]
    rfl
  have hid : session.id = claims.sessionId := hi.sessions.ids _ _ hrow
  have hnothing : s.sessions.HoldsNothing t := by
    have hrole := hi.sessions.roles t
    rw [hp] at hrole
    exact hrole
  -- one statement after the other, each with what the next one needs of its state
  have hpresent : Step sec s t (s.advance t (.presented kind claims)) := by
    have hx :
        proceed kind.commits (.presented kind) (decodeRefreshTokenWithCsrf sec cookies readAt) =
        .presented kind claims := by rw [hdecode]; rfl
    rw [← hx]
    refine .present hp fun c hc => ?_
    rw [hcookie] at hc
    obtain rfl := Option.some.inj hc
    exact hsigned
  have hi₁ := hi.step hpresent
  generalize hs₁ : s.advance t (.presented kind claims) = s₁ at hpresent hi₁
  have hp₁ : s₁.txs t = .presented kind claims := by rw [← hs₁]; exact Function.update_self ..
  have hsessions₁ : s₁.sessions = s.sessions := by rw [← hs₁]; rfl
  have htokens₁ : s₁.refreshTokens = s.refreshTokens := by rw [← hs₁]; rfl
  have hview₁ : s₁.sessions.view t claims.sessionId = some session := by
    rw [hsessions₁, hnothing.view, hrow]
  have hsuperseded₁ : s₁.Superseded claims := by rw [← hs₁]; exact hsuperseded
  have hjudged : proceed kind.commits (fun () => judged kind claims session now)
      (requireUsableSession session claims now) = .replayed kind session now := by
    obtain ⟨-, ⟨hrevoked, -⟩ | ⟨hexpired, -⟩ | hx⟩ :=
      replayed_of_lock now hi₁ hp₁ hsuperseded₁ hview₁
    · exact absurd hlive hrevoked
    · exact absurd hunexpired (Int.not_lt.mpr hexpired)
    · exact hx
  have hlock : Step sec s₁ t (State.advance
      { s₁ with sessions := s₁.sessions.acquire t claims.sessionId } t
      (.replayed kind session now)) := by
    rw [← hjudged]
    refine .lockSession hp₁ ?_ hview₁
    rw [hsessions₁]
    exact hfree
  generalize hs₂ : State.advance
      { s₁ with sessions := s₁.sessions.acquire t claims.sessionId } t
      (.replayed kind session now) = s₂ at hlock
  have hp₂ : s₂.txs t = .replayed kind session now := by rw [← hs₂]; exact Function.update_self ..
  have hsessions₂ : s₂.sessions = s₁.sessions.acquire t claims.sessionId := by rw [← hs₂]; rfl
  have htokens₂ : s₂.refreshTokens = s.refreshTokens := by rw [← hs₂, ← htokens₁]; rfl
  have hrevoke : Step sec s₂ t (State.advance
      { s₂ with
        sessions := s₂.sessions.write t session.id
          (some (session.revoke now "refresh_token_reuse")) } t
      (.done (.reuse kind session.id))) := by
    refine .revokeReplayed hp₂ ?_ ?_
    · rw [hsessions₂, hid]
      exact .inr Table.holder_write_self
    · rw [hsessions₂, hid, Table.view_acquire_self, hview₁]
  generalize hs₃ : State.advance
      { s₂ with
        sessions := s₂.sessions.write t session.id
          (some (session.revoke now "refresh_token_reuse")) } t
      (.done (.reuse kind session.id)) = s₃ at hrevoke
  have hp₃ : s₃.txs t = .done (.reuse kind claims.sessionId) := by
    rw [← hs₃, ← hid]
    exact Function.update_self ..
  have hsessions₃ : s₃.sessions = s₂.sessions.write t claims.sessionId
      (some (session.revoke now "refresh_token_reuse")) := by
    rw [← hs₃, hid]
    rfl
  have htokens₃ : s₃.refreshTokens = s.refreshTokens := by rw [← hs₃, ← htokens₂]; rfl
  refine ⟨_, .cons hpresent (.cons hlock (.cons hrevoke (.single (.commit hp₃)))),
    Function.update_self .., htokens₃, ?_⟩
  show s₃.sessions.view t claims.sessionId = _
  rw [hsessions₃, Table.view_write_self]

/-! ## Safety of the families -/

/-- In every run of any requests: a refresh token is rotated at most once, and only while it is the
current one of a session that is not revoked; a superseded token that is presented ends its session,
which is committed although the request fails, and no other failing request commits anything; and
a revoked session stays revoked, as it was revoked first, and never gets a token again. -/
theorem refresh_families_safe {ts : List τ} (hrun : Run (Step sec) (State.start accounts) ts s) :
    (s.log.filterMap Answer.spent?).Nodup ∧
    (∀ t k old new, s.txs t = .done (.rotated k old new) → ∃ token ∈ s.refreshTokens,
      token.sessionId = k ∧ token.tokenId = old ∧ s.Rotatable token) ∧
    (∀ a ∈ s.refreshTokens, ∀ b ∈ s.refreshTokens, a.sessionId = b.sessionId →
      s.Rotatable a → s.Rotatable b → a = b) ∧
    (∀ t kind claims, s.txs t = .presented kind claims → s.Superseded claims →
      (∃ row, s.sessions.committed claims.sessionId = some row ∧ row.revokedAt = none) →
      ∀ ts' s', Run (Step sec) s ts' s' →
        (∀ answer, s'.txs t = .committed answer →
          answer = .reuse kind claims.sessionId ∧ s'.Over claims.sessionId) ∧
        ∀ error, s'.txs t = .rejected error →
          error = sessionExpired ∨ s'.Over claims.sessionId) ∧
    (∀ t kind (cookies : RefreshCookies) claims session readAt now, s.txs t = .idle →
      cookies.token = some claims → claims ∈ s.refreshTokens →
      jwtTimely claims.issuedAt claims.expiresAt readAt →
      validateCsrf sec claims.sessionId cookies.csrfCookie cookies.csrfHeader = .ok () →
      s.sessions.Free t claims.sessionId →
      s.sessions.committed claims.sessionId = some session → session.revokedAt = none →
      now < session.expiresAt → s.Superseded claims →
      ∃ s', Run (Step sec) s [t, t, t, t] s' ∧
        s'.txs t = .committed (.reuse kind claims.sessionId) ∧
        s'.refreshTokens = s.refreshTokens ∧
        s'.sessions.committed claims.sessionId =
          some (session.revoke now "refresh_token_reuse")) ∧
    (∀ t s', Step sec s t s' → ((∃ error, s'.txs t = .rejected error) ∨ s'.txs t = .aborted) →
      s.SameCommitted s') ∧
    ∀ k row revokedAt, s.sessions.committed k = some row → row.revokedAt = some revokedAt →
      ∀ ts' s', Run (Step sec) s ts' s' →
        (∀ row', s'.sessions.committed k = some row' →
          row'.revokedAt = some revokedAt ∧ row'.revocationReason = row.revocationReason) ∧
        (∀ old new, .rotated k old new ∈ s'.log → .rotated k old new ∈ s.log) ∧
        ∀ token ∈ s'.refreshTokens, token.sessionId = k → token ∈ s.refreshTokens := by
  have hi : s.Inv sec accounts := .run hrun
  refine ⟨hi.sessions.once, fun t k old new hp => ?_, fun a ha b hb hk ha' hb' => ?_,
    fun t kind claims hp hsuperseded hrow ts' s' hrun' => ?_,
    fun t kind cookies claims session readAt now hp hcookie hsigned htimely hcsrf hfree hrow hlive
      hunexpired hsuperseded => ?_,
    fun t s' hstep hend => (sameCommitted_of_rejected hi hstep hend).1,
    fun k row revokedAt hrow hrevoked ts' s' hrun' => ?_⟩
  · obtain ⟨row, now, hrow, hold, hlive, -⟩ := hi.sessions.current_of_rotated hp
    obtain ⟨token, hmem, hk, hjti⟩ := hi.sessions.owned k row hrow
    refine ⟨token, hmem, hk, hjti.trans hold, row, ?_, hlive, hjti.symm⟩
    rw [hk]
    exact hrow
  · obtain ⟨row, hrow, -, hjti⟩ := ha'
    obtain ⟨row', hrow', -, hjti'⟩ := hb'
    rw [hk] at hrow
    obtain rfl := Option.some.inj (hrow.symm.trans hrow')
    exact hi.sessions.eq_of_tokenId ha hb (hjti.symm.trans hjti')
  · obtain ⟨row, hrow, -⟩ := hrow
    have hphase := replayPhase_run hi hp (hi.sessions.taken hrow) hsuperseded hrun'
    refine ⟨fun answer hanswer => ?_, fun error herror => ?_⟩
    · cases hphase with
      | committed hp' hover =>
        obtain rfl := Tx.committed.inj (hanswer.symm.trans hp')
        exact ⟨rfl, hover⟩
      | _ => simp_all only [reduceCtorEq]
    · cases hphase with
      | rejected hp' hwhy =>
        obtain rfl := Tx.rejected.inj (herror.symm.trans hp')
        exact hwhy
      | _ => simp_all only [reduceCtorEq]
  · exact replay_goes_through hi hp hcookie hsigned htimely hcsrf hfree hrow hlive hunexpired
      hsuperseded
  · have hover : s.Over k := by
      intro row₀ hrow₀
      obtain rfl := Option.some.inj (hrow.symm.trans hrow₀)
      rw [hrevoked]
      exact Option.some_ne_none revokedAt
    obtain ⟨-, hsince⟩ := overSince_run hi (hi.sessions.taken hrow) hover hrun'
    refine ⟨fun row' hrow' => ?_, hsince.rotations, hsince.tokens⟩
    obtain rfl := Option.some.inj (hrow.symm.trans (hsince.rows row' hrow'))
    exact ⟨hrevoked, rfl⟩

/-- Session 2 of user 1, with the consumed token 3 and the current token 4. -/
theorem rotated_run : ∃ s : State ℕ,
    Run (Step .clear) (State.start (.single 1 "ada" "secret")) [0, 0, 0, 1, 1, 1, 1, 1] s ∧
    s.txs 2 = .idle ∧ s.log = [.loggedIn ⟨2, 3, 1, "secret"⟩, .rotated 2 3 4] ∧
    (⟨1, 2, 3, 0, 1000⟩ : RefreshToken) ∈ s.refreshTokens ∧ s.sessions.holder 2 = none ∧
    s.sessions.committed 2 = some ⟨2, 1, 4, 0, 0, 1000000000, none, none⟩ := by
  have h₁ := (Run.nil (State.start (.single 1 "ada" "secret"))).snoc
    (@Step.authenticate ℕ _ .clear _ 0 "ada" "secret" (some (1, ⟨"ada", true, "secret"⟩))
      rfl ⟨rfl, rfl⟩)
  have h₂ := h₁.snoc (@Step.issueSession ℕ _ .clear _ 0 1 2 3 "secret" 0 0 rfl rfl rfl
    fun token h => by contradiction)
  have h₃ := h₂.snoc (@Step.commit ℕ _ .clear _ 0 (.loggedIn ⟨2, 3, 1, "secret"⟩) rfl)
  have h₄ := h₃.snoc (@Step.present ℕ _ .clear _ 1 .rotation
    ⟨some ⟨1, 2, 3, 0, 1000⟩, some "n.n", some "n.n"⟩ 0 rfl
    fun token h => List.mem_of_mem_head? h)
  have h₅ := h₄.snoc (@Step.lockSession ℕ _ .clear _ 1 .rotation ⟨1, 2, 3, 0, 1000⟩
    (newSession 2 1 3 0 1000000000) 0 rfl (.inl rfl) rfl)
  have h₆ := h₅.snoc (@Step.resolveUser ℕ _ .clear _ 1 .rotation ⟨1, 2, 3, 0, 1000⟩
    (newSession 2 1 3 0 1000000000) 0 rfl)
  have h₇ := h₆.snoc (@Step.rotate ℕ _ .clear _ 1 ⟨1, 2, 3, 0, 1000⟩
    (newSession 2 1 3 0 1000000000) (newSession 2 1 3 0 1000000000) 0 0 4 rfl (.inr rfl) rfl
    fun token h => by obtain rfl := List.mem_singleton.mp h; decide)
  have h₈ := h₇.snoc (@Step.commit ℕ _ .clear _ 1 (.rotated 2 3 4) rfl)
  exact ⟨_, h₈, rfl, rfl, .head _, rfl, rfl⟩

/-- The consumed token is presented to logout. -/
theorem refresh_families_safe_replay : ∃ s s' : State ℕ,
    Run (Step .clear) (State.start (.single 1 "ada" "secret")) [0, 0, 0, 1, 1, 1, 1, 1] s ∧
    Run (Step .clear) s [2, 2, 2, 2] s' ∧ s'.txs 2 = .committed (.reuse .logout 2) ∧
    s'.sessions.committed 2 =
      some ⟨2, 1, 4, 0, 0, 1000000000, some 0, some "refresh_token_reuse"⟩ := by
  obtain ⟨s, hrun, hidle, hlog, hsigned, hholder, hrow⟩ := rotated_run
  have hsuperseded : s.Superseded ⟨1, 2, 3, 0, 1000⟩ := ⟨4, by rw [hlog]; decide⟩
  obtain ⟨-, -, -, -, hreplay, -⟩ := refresh_families_safe hrun
  obtain ⟨s', hrun', hcommitted, -, hrevoked⟩ := hreplay 2 .logout
    ⟨some ⟨1, 2, 3, 0, 1000⟩, some "n.n", some "n.n"⟩ ⟨1, 2, 3, 0, 1000⟩ _ 0 0 hidle rfl hsigned
    (by decide) rfl (.inl hholder) hrow rfl (by decide) hsuperseded
  exact ⟨s, s', hrun, hrun', hcommitted, hrevoked⟩

end OpsFlow.Auth
