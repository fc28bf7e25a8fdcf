import OpsFlow.Auth.CredentialChain
import OpsFlow.Auth.RefreshFamilies

namespace OpsFlow.Auth
open RowStore Transition

section
variable {τ : Type}

/-- Every session that a since replaced password has opened is revoked or purged, so that none of
its tokens can be rotated. -/
def State.OldSessionsEnded (s : State τ) : Prop :=
  ∀ r ∈ s.replacements, ∀ login, .loggedIn login ∈ s.log → login.userId = r.userId →
    login.verified = r.expected →
    s.Over login.sessionId ∧ ∀ token, token.sessionId = login.sessionId → ¬ s.Rotatable token

theorem State.Over.not_rotatable {s : State τ} {k : Uuid} (h : s.Over k) {token : RefreshToken}
    (hk : token.sessionId = k) : ¬ s.Rotatable token := by
  rintro ⟨row, hrow, hlive, -⟩
  rw [hk] at hrow
  exact h row hrow hlive

/-- The many-row UPDATE of a replacement, with the rows still to come; a replacement that is to be
committed has none left. -/
def EndCause.sweep? (todo : List Uuid) : EndCause → Option (Replacement × List Uuid)
  | .logoutAll _ => none
  | .replaced r => some (r, todo)

def Answer.sweep? : Answer → Option (Replacement × List Uuid)
  | .replaced r => some (r, [])
  | _ => none

def Tx.sweep? : Tx → Option (Replacement × List Uuid)
  | .revoking cause _ _ todo => cause.sweep? todo
  | .done answer => answer.sweep?
  | _ => none

def Answer.login? : Answer → Option Login
  | .loggedIn login => some login
  | _ => none

def Tx.login? : Tx → Option Login
  | .done answer => answer.login?
  | _ => none

variable [DecidableEq τ] {sec : Security} {accounts : Accounts} {s s' : State τ} {t : τ} {x : Tx}

/-- What a statement means for the logins and for the sweeps of the replacements. -/
inductive SweepMove (s : State τ) (t : τ) (s' : State τ) (x : Tx) : Prop
  | stays : s'.sessions.view t = s.sessions.view t → s'.scanned = s.scanned →
      x.login? = none → (x.sweep? = none ∨ x.sweep? = (s.txs t).sweep?) → SweepMove s t s' x
  | works : s'.scanned = s.scanned → x.login? = none → x.sweep? = none → SweepMove s t s' x
  | issues {login : Login} {token : RefreshToken} : s'.scanned = s.scanned →
      x.login? = some login → x.sweep? = none → token ∈ s'.refreshTokens →
      token.sessionId = login.sessionId → token.userId = login.userId → SweepMove s t s' x
  | scans {cause : EndCause} {todo : List Uuid} : x.login? = none → x.sweep? = cause.sweep? todo →
      s'.sessions = s.sessions →
      s'.scanned = Function.update s.scanned t s.log.length →
      (∀ k session, s.sessions.view t k = some session → session.RevocableFor cause.userId →
        k ∈ todo) → SweepMove s t s' x
  | revokes {cause : EndCause} {k : Uuid} {row : AuthSession} {todo : List Uuid} :
      (s.txs t).sweep? = cause.sweep? (k :: todo) → x.login? = none →
      x.sweep? = cause.sweep? todo → row.revokedAt ≠ none →
      s'.sessions = s.sessions.write t k (some row) → s'.scanned = s.scanned →
      SweepMove s t s' x
  | passes {cause : EndCause} {k : Uuid} {todo : List Uuid} :
      (s.txs t).sweep? = cause.sweep? (k :: todo) → x.login? = none →
      x.sweep? = cause.sweep? todo → s'.sessions = s.sessions → s'.scanned = s.scanned →
      (∀ session, s.sessions.view t k = some session → ¬ session.RevocableFor cause.userId) →
      SweepMove s t s' x

omit [DecidableEq τ] in
theorem quiet_proceed {α : Type} {commits : AuthError → Bool} {next : α → Tx}
    {result : Except AuthError α} (hnext : ∀ a, (next a).login? = none ∧ (next a).sweep? = none) :
    (proceed commits next result).login? = none ∧ (proceed commits next result).sweep? = none :=
  proceed_induction (P := fun x => x.login? = none ∧ x.sweep? = none) (fun _ _ => ⟨rfl, rfl⟩) hnext

theorem SweepMove.quiet (hscanned : s'.scanned = s.scanned)
    (hx : x.login? = none ∧ x.sweep? = none) : SweepMove s t s' x :=
  .works hscanned hx.1 hx.2

theorem Step.sweepMove (h : Step sec s t s') :
    (∃ x, s'.txs = Function.update s.txs t x ∧ s'.log = s.log ∧ SweepMove s t s' x) ∨
      s.Ends t s' := by
  cases h with
  | @issueSession userId sessionId jti verified now issuedNow hp _ _ _ =>
    exact .inl ⟨_, rfl, rfl, .issues rfl rfl rfl (List.mem_append_right _ List.mem_cons_self)
      rfl rfl⟩
  | @scanSessions cause reason now todo hp htodo =>
    exact .inl ⟨_, rfl, rfl, .scans rfl rfl rfl rfl fun k session hview hmatches =>
      (htodo k).mpr ⟨session, hview, hmatches⟩⟩
  | @revokeRow cause k reason now todo session hp _ _ _ =>
    exact .inl ⟨_, rfl, rfl, .revokes (by rw [hp]; rfl) rfl rfl
      (AuthSession.revokedAt_revoke session now reason) rfl rfl⟩
  | passSession hp _ hno =>
    exact .inl ⟨_, rfl, rfl, .passes (by rw [hp]; rfl) rfl rfl rfl rfl hno⟩
  | @sessionsRevoked cause reason now hp =>
    refine .inl ⟨_, rfl, rfl, .stays rfl rfl ?_ (.inr ?_)⟩
    · cases cause <;> rfl
    · rw [hp]
      cases cause <;> rfl
  | commit hp => exact .inr (.commit hp)
  | @refuse error commits hp =>
    cases commits with
    | true => exact .inr (.close hp)
    | false => exact .inr (.rollback (.inr ⟨error, rfl⟩))
  | abort _ => exact .inr (.rollback (.inl rfl))
  | prove _ _ =>
    exact .inl ⟨_, rfl, rfl, .quiet rfl (quiet_proceed fun _ => by split_ifs <;> exact ⟨rfl, rfl⟩)⟩
  | lockSession _ _ _ =>
    refine .inl ⟨_, rfl, rfl, .quiet rfl (quiet_proceed fun _ => ?_)⟩
    unfold judged
    split_ifs <;> exact ⟨rfl, rfl⟩
  | findUser _ =>
    refine .inl ⟨_, rfl, rfl, .quiet rfl ?_⟩
    split
    · split_ifs <;> exact ⟨rfl, rfl⟩
    · exact ⟨rfl, rfl⟩
  | @swap r user now _ _ _ _ =>
    refine .inl ⟨_, rfl, rfl, .quiet rfl ?_⟩
    unfold Replacement.swappedTx
    cases r.authority <;> exact ⟨rfl, rfl⟩
  | requestReset _ _ =>
    refine .inl ⟨_, rfl, rfl, .quiet rfl ?_⟩
    split
    · split_ifs <;> exact ⟨rfl, rfl⟩
    · exact ⟨rfl, rfl⟩
  | _ =>
    first
      | exact .inl ⟨_, rfl, rfl, .quiet rfl ⟨rfl, rfl⟩⟩
      | exact .inl ⟨_, rfl, rfl, .quiet rfl (quiet_proceed fun _ => ⟨rfl, rfl⟩)⟩

/-! ## The invariant of careful runs -/

/-- What the transaction would leave of the session is revoked, or nothing. -/
def State.Ending (s : State τ) (t : τ) (k : Uuid) : Prop :=
  ∀ row, s.sessions.view t k = some row → row.revokedAt ≠ none

/-- What has to hold when a request is committed. A login must still have verified the stored hash.
A replacement must find revoked or purged every session that the hash it replaces has opened and
that has been committed since its many-row UPDATE of the sessions took its snapshot. -/
def State.Careful (s : State τ) (t : τ) : Prop :=
  match s.txs t with
  | .done (.loggedIn login) => ∃ user, s.users.committed login.userId = some user ∧
      user.hashedPassword = login.verified
  | .done (.replaced r) => ∀ login, .loggedIn login ∈ s.log.drop (s.scanned t) →
      login.userId = r.userId → login.verified = r.expected → s.Over login.sessionId
  | _ => True

def CarefulStep (sec : Security) (s : State τ) (t : τ) (s' : State τ) : Prop :=
  Step sec s t s' ∧ ((∃ answer, s'.txs t = .committed answer) → s.Careful t)

structure State.LoginInv (s : State τ) : Prop where
  known : ∀ login, (.loggedIn login ∈ s.log ∨ ∃ t, (s.txs t).login? = some login) →
    ∃ token ∈ s.refreshTokens, token.sessionId = login.sessionId ∧ token.userId = login.userId
  taken : ∀ login, .loggedIn login ∈ s.log → s.Taken login.sessionId
  swept : ∀ t r todo, (s.txs t).sweep? = some (r, todo) → s.scanned t ≤ s.log.length ∧
    ∀ login, .loggedIn login ∈ s.log.take (s.scanned t) → login.userId = r.userId →
      login.sessionId ∈ todo ∨ s.Ending t login.sessionId
  ended : ∀ r ∈ s.replacements, ∀ login, .loggedIn login ∈ s.log → login.userId = r.userId →
    login.verified = r.expected → s.Over login.sessionId

/-- A step leaves alone the sessions that other transactions hold. -/
theorem undisturbed_step (h : Step sec s t s') {t' : τ} (ht : t' ≠ t) :
    Table.Undisturbed t' s.sessions s'.sessions := by
  obtain ⟨x, -, -, -, hmove⟩ | hend := h.sessionMove
  · cases hmove with
    | stays hsessions =>
      rw [hsessions]
      exact Table.undisturbed_refl t' s.sessions
    | fails hsessions =>
      rw [hsessions]
      exact Table.undisturbed_refl t' s.sessions
    | scans _ _ _ hsessions =>
      rw [hsessions]
      exact Table.undisturbed_refl t' s.sessions
    | locks _ _ hfree _ hsessions =>
      rw [hsessions]
      exact Table.undisturbed_write hfree ht
    | issues _ _ hholder _ _ _ _ _ _ hsessions =>
      rw [hsessions]
      exact Table.undisturbed_write (.inl hholder) ht
    | revokes _ hfree _ _ _ hsessions =>
      rw [hsessions]
      exact Table.undisturbed_write hfree ht
    | rotates _ _ _ hfree _ _ _ _ _ _ hsessions =>
      rw [hsessions]
      exact Table.undisturbed_write hfree ht
    | sweeps _ _ _ hfree _ _ hsessions =>
      rw [hsessions]
      exact Table.undisturbed_write hfree ht
  · cases hend with
    | commit _ => exact Table.undisturbed_commit ht
    | close _ => exact Table.undisturbed_commit ht
    | rollback _ => exact Table.undisturbed_rollback ht

theorem over_of_step (hi : s.Inv sec accounts) {k : Uuid} (htaken : s.Taken k) (hover : s.Over k)
    (h : Step sec s t s') : s'.Over k :=
  fun row hrow => hover row ((over_step hi htaken hover h).1 row hrow)

/-- What a transaction has ended, no other transaction brings back. -/
theorem ending_step (hi : s.Inv sec accounts) {t' : τ} {k : Uuid} (htaken : s.Taken k)
    (hending : s.Ending t' k) (h : Step sec s t s') (ht : t' ≠ t) : s'.Ending t' k := by
  have hsame := undisturbed_step h ht
  by_cases hk : s.sessions.holder k = some t'
  · intro row hrow
    rw [Table.view_of_holder ((hsame.holder k).mpr hk), hsame.pending k hk,
      ← Table.view_of_holder hk] at hrow
    exact hending row hrow
  · have hover : s.Over k := by
      intro row hrow
      rw [← Table.view_of_not_holder hk] at hrow
      exact hending row hrow
    intro row hrow
    rw [Table.view_of_not_holder (fun h' => hk ((hsame.holder k).mp h'))] at hrow
    exact over_of_step hi htaken hover h row hrow

/-- The user of a login is the user of its session. -/
theorem State.LoginInv.userId_of_version (hl : s.LoginInv) (ho : s.OwnerInv) {login : Login}
    {row : AuthSession} (hlogin : .loggedIn login ∈ s.log)
    (hrow : s.sessions.Version login.sessionId row) : row.userId = login.userId := by
  obtain ⟨token, hmem, hk, huser⟩ := hl.known login (.inl hlogin)
  rw [← huser]
  exact (ho.rows _ row hrow token hmem hk).symm

namespace State.LoginInv

/-- The logins before the snapshot of the sweep are those that the sweep has to care for. -/
def Swept (s : State τ) (t : τ) (n : ℕ) (r : Replacement) (todo : List Uuid) : Prop :=
  ∀ login, .loggedIn login ∈ s.log.take n → login.userId = r.userId →
    login.sessionId ∈ todo ∨ s.Ending t login.sessionId

theorem known_step (hl : s.LoginInv) (h : Step sec s t s') {login : Login}
    (hlogin : .loggedIn login ∈ s'.log ∨ ∃ t, (s'.txs t).login? = some login) :
    ∃ token ∈ s'.refreshTokens, token.sessionId = login.sessionId ∧
      token.userId = login.userId := by
  have hkeep : (.loggedIn login ∈ s.log ∨ ∃ t, (s.txs t).login? = some login) →
      ∃ token ∈ s'.refreshTokens, token.sessionId = login.sessionId ∧
        token.userId = login.userId := by
    intro hold
    obtain ⟨token, hmem, hrest⟩ := hl.known login hold
    obtain hsame | ⟨new, hsnoc, -⟩ := refreshTokens_step h
    · exact ⟨token, by rw [hsame]; exact hmem, hrest⟩
    · exact ⟨token, by rw [hsnoc]; exact List.mem_append_left _ hmem, hrest⟩
  obtain ⟨x, htxs, hlog, hmove⟩ | hend := h.sweepMove
  · obtain hlogin | ⟨t', ht'⟩ := hlogin
    · rw [hlog] at hlogin
      exact hkeep (.inl hlogin)
    · rw [htxs] at ht'
      by_cases ht : t' = t
      · subst ht
        rw [Function.update_self] at ht'
        cases hmove with
        | @issues login' token _ hx _ hmem hk huser =>
          obtain rfl : login' = login := Option.some.inj (hx.symm.trans ht')
          exact ⟨token, hmem, hk, huser⟩
        | stays _ _ hx _ =>
          rw [hx] at ht'
          contradiction
        | works _ hx _ =>
          rw [hx] at ht'
          contradiction
        | scans hx _ _ _ _ =>
          rw [hx] at ht'
          contradiction
        | revokes _ hx _ _ _ _ =>
          rw [hx] at ht'
          contradiction
        | passes _ hx _ _ _ _ =>
          rw [hx] at ht'
          contradiction
      · rw [Function.update_of_ne ht] at ht'
        exact hkeep (.inr ⟨t', ht'⟩)
  · obtain ⟨x, htxs, hx⟩ := hend.txs_eq
    have hnone : x.login? = none := by
      obtain rfl | ⟨error, rfl⟩ | ⟨answer, rfl⟩ := hx <;> rfl
    obtain hlogin | ⟨t', ht'⟩ := hlogin
    · cases hend with
      | @commit answer hp =>
        -- the login that is committed was about to be
        obtain hlogin | hlogin := List.mem_append.mp hlogin
        · exact hkeep (.inl hlogin)
        · obtain rfl := List.mem_singleton.mp hlogin
          exact hkeep (.inr ⟨t, by rw [hp]; rfl⟩)
      | close _ => exact hkeep (.inl hlogin)
      | rollback _ => exact hkeep (.inl hlogin)
    · rw [htxs] at ht'
      by_cases ht : t' = t
      · subst ht
        rw [Function.update_self, hnone] at ht'
        contradiction
      · rw [Function.update_of_ne ht] at ht'
        exact hkeep (.inr ⟨t', ht'⟩)

theorem taken_step (hi : s.Inv sec accounts) (hl : s.LoginInv) (h : Step sec s t s')
    {login : Login} (hlogin : .loggedIn login ∈ s'.log) : s'.Taken login.sessionId := by
  obtain ⟨answer, hp, rfl⟩ | ⟨-, hlog⟩ := step_commits hi h
  · obtain hlogin | hlogin := List.mem_append.mp hlogin
    · exact (hl.taken login hlogin).step h
    · obtain rfl := List.mem_singleton.mp hlogin
      have hrole := hi.sessions.roles t
      rw [hp] at hrole
      obtain ⟨honly, -, row, hpending, -⟩ := hrole
      have hview : s.sessions.view t login.sessionId = some row := by
        rw [Table.view_of_holder honly.holder, hpending]
      exact (hi.step h).sessions.taken hview
  · rw [hlog] at hlogin
    exact (hl.taken login hlogin).step h

/-- The transactions that make no step keep what they have swept. -/
theorem swept_other (hi : s.Inv sec accounts) (hl : s.LoginInv) (h : Step sec s t s') {t' : τ}
    (ht : t' ≠ t) {r : Replacement} {todo : List Uuid}
    (hsweep : (s'.txs t').sweep? = some (r, todo)) :
    s'.scanned t' ≤ s'.log.length ∧ Swept s' t' (s'.scanned t') r todo := by
  rw [txs_step_of_ne h ht] at hsweep
  obtain ⟨hle, hswept⟩ := hl.swept t' r todo hsweep
  have hscanned : s'.scanned t' = s.scanned t' := by
    obtain ⟨x, -, -, hmove⟩ | hend := h.sweepMove
    · cases hmove with
      | scans _ _ _ hscanned _ => rw [hscanned, Function.update_of_ne ht]
      | stays _ hscanned _ _ => rw [hscanned]
      | works hscanned _ _ => rw [hscanned]
      | issues hscanned _ _ _ _ _ => rw [hscanned]
      | revokes _ _ _ _ _ hscanned => rw [hscanned]
      | passes _ _ _ _ hscanned _ => rw [hscanned]
    · cases hend <;> rfl
  obtain ⟨later, hlog⟩ := log_step h
  rw [hscanned, hlog]
  refine ⟨?_, fun login hlogin huser => ?_⟩
  · rw [List.length_append]
    exact Nat.le_add_right_of_le hle
  · rw [hlog, List.take_append_of_le_length hle] at hlogin
    have htaken := hl.taken login (List.mem_of_mem_take hlogin)
    exact (hswept login hlogin huser).imp_right fun hending =>
      ending_step hi htaken hending h ht

/-- The row that a sweep has come to is revoked, or has no claim to be. -/
theorem swept_next {n : ℕ} {r : Replacement} {k : Uuid} {todo : List Uuid}
    (hswept : Swept s t n r (k :: todo))
    (hkeep : ∀ k', s.Ending t k' → s'.Ending t k') (hlog : s'.log = s.log)
    (hk : ∀ login, .loggedIn login ∈ s.log → login.sessionId = k → login.userId = r.userId →
      s'.Ending t k) : Swept s' t n r todo := by
  intro login hlogin huser
  rw [hlog] at hlogin
  obtain hmem | hending := hswept login hlogin huser
  · obtain hhead | hmem := List.mem_cons.mp hmem
    · refine .inr ?_
      rw [hhead]
      exact hk login (List.mem_of_mem_take hlogin) hhead huser
    · exact .inl hmem
  · exact .inr (hkeep _ hending)

/-- Only the end of a replacement is a sweep. -/
theorem EndCause.replaced_of_sweep? {cause : EndCause} {r : Replacement} {todo todo' : List Uuid}
    (h : cause.sweep? todo = some (r, todo')) : cause = .replaced r ∧ todo = todo' := by
  cases cause with
  | logoutAll userId => cases h
  | replaced r' =>
    obtain ⟨rfl, rfl⟩ := Prod.mk.inj (Option.some.inj h)
    exact ⟨rfl, rfl⟩

/-- The transaction that makes a step sweeps on. -/
theorem swept_self (hi : s.Inv sec accounts) (hl : s.LoginInv) (hlog : s'.log = s.log)
    (hmove : SweepMove s t s' x) {r : Replacement} {todo : List Uuid}
    (hsweep : x.sweep? = some (r, todo)) :
    s'.scanned t ≤ s'.log.length ∧ Swept s' t (s'.scanned t) r todo := by
  cases hmove with
  | stays hview hscanned _ hx =>
    obtain hx | hx := hx
    · rw [hx] at hsweep
      contradiction
    · rw [hx] at hsweep
      obtain ⟨hle, hswept⟩ := hl.swept t r todo hsweep
      rw [hscanned, hlog]
      refine ⟨hle, fun login hlogin huser => ?_⟩
      rw [hlog] at hlogin
      refine (hswept login hlogin huser).imp_right fun hending row hrow => ?_
      rw [hview] at hrow
      exact hending row hrow
  | works _ _ hx =>
    rw [hx] at hsweep
    contradiction
  | issues _ _ hx _ _ _ =>
    rw [hx] at hsweep
    contradiction
  | @scans cause todo' _ hx hsessions hscanned htodo =>
    obtain ⟨rfl, rfl⟩ := EndCause.replaced_of_sweep? (hx.symm.trans hsweep)
    rw [hscanned, Function.update_self, hlog]
    refine ⟨le_rfl, fun login hlogin huser => ?_⟩
    rw [hlog] at hlogin
    have hmem := List.mem_of_mem_take hlogin
    by_cases htodo' : login.sessionId ∈ todo'
    · exact .inl htodo'
    · -- the snapshot shows every session that is live and of this user
      refine .inr fun row hrow hlive => htodo' (htodo _ row ?_ ⟨?_, hlive⟩)
      · rw [← hsessions]
        exact hrow
      · rw [hsessions] at hrow
        rw [hl.userId_of_version hi.owners hmem (Table.version_of_view hrow)]
        exact huser
  | @revokes cause k row todo' hp _ hx hrevoked hsessions hscanned =>
    obtain ⟨rfl, rfl⟩ := EndCause.replaced_of_sweep? (hx.symm.trans hsweep)
    obtain ⟨hle, hswept⟩ := hl.swept t r (k :: todo') hp
    rw [hscanned, hlog]
    have hself : s'.Ending t k := by
      intro row' hrow'
      rw [hsessions, Table.view_write_self] at hrow'
      obtain rfl := Option.some.inj hrow'
      exact hrevoked
    refine ⟨hle, swept_next hswept (fun k' hending => ?_) hlog fun _ _ _ _ => hself⟩
    by_cases hk : k' = k
    · rw [hk]
      exact hself
    · intro row' hrow'
      rw [hsessions, Table.view_write_of_ne hk] at hrow'
      exact hending row' hrow'
  | @passes cause k todo' hp _ hx hsessions hscanned hno =>
    obtain ⟨rfl, rfl⟩ := EndCause.replaced_of_sweep? (hx.symm.trans hsweep)
    obtain ⟨hle, hswept⟩ := hl.swept t r (k :: todo') hp
    rw [hscanned, hlog]
    refine ⟨hle, swept_next hswept (fun k' hending => ?_) hlog fun login hlogin hk huser => ?_⟩
    · intro row hrow
      rw [hsessions] at hrow
      exact hending row hrow
    · -- the row that is passed over is not live, as it is one of this user
      intro row hrow hlive
      rw [hsessions] at hrow
      refine hno row hrow ⟨?_, hlive⟩
      rw [← hk] at hrow
      rw [hl.userId_of_version hi.owners hlogin (Table.version_of_view hrow)]
      exact huser

theorem swept_step (hi : s.Inv sec accounts) (hl : s.LoginInv) (h : Step sec s t s') {t' : τ}
    {r : Replacement} {todo : List Uuid} (hsweep : (s'.txs t').sweep? = some (r, todo)) :
    s'.scanned t' ≤ s'.log.length ∧ Swept s' t' (s'.scanned t') r todo := by
  by_cases ht : t' = t
  · subst ht
    obtain ⟨x, htxs, hlog, hmove⟩ | hend := h.sweepMove
    · rw [htxs, Function.update_self] at hsweep
      exact swept_self hi hl hlog hmove hsweep
    · obtain ⟨x, htxs, hx⟩ := hend.txs_eq
      have hnone : x.sweep? = none := by
        obtain rfl | ⟨error, rfl⟩ | ⟨answer, rfl⟩ := hx <;> rfl
      rw [htxs, Function.update_self, hnone] at hsweep
      contradiction
  · exact swept_other hi hl h ht hsweep

/-- A careful commit leaves no session of a replaced hash behind. -/
theorem ended_step (hi : s.Inv sec accounts) (hl : s.LoginInv) (h : CarefulStep sec s t s')
    {r : Replacement} (hr : r ∈ s'.replacements) {login : Login}
    (hlogin : .loggedIn login ∈ s'.log) (huser : login.userId = r.userId)
    (hverified : login.verified = r.expected) : s'.Over login.sessionId := by
  obtain ⟨hstep, hcareful⟩ := h
  have hold (hr : r ∈ s.replacements) (hlogin : .loggedIn login ∈ s.log) :
      s'.Over login.sessionId :=
    over_of_step hi (hl.taken login hlogin) (hl.ended r hr login hlogin huser hverified) hstep
  obtain ⟨answer, hp, rfl⟩ | ⟨-, hlog⟩ := step_commits hi hstep
  · have hcare : s.Careful t := hcareful ⟨answer, Function.update_self ..⟩
    unfold State.Careful at hcare
    rw [hp] at hcare
    rw [State.UserInv.replacements_commit, List.mem_append, Option.mem_toList] at hr
    obtain hbefore | hnow := List.mem_append.mp hlogin
    · obtain hr | hr := hr
      · exact hold hr hbefore
      · -- the replacement is committed now
        cases answer with
        | replaced r' =>
          obtain rfl := Option.some.inj hr
          have htaken := hl.taken login hbefore
          have hcut := hbefore
          rw [← List.take_append_drop (s.scanned t) s.log] at hcut
          obtain hseen | hmissed := List.mem_append.mp hcut
          · obtain ⟨-, hswept⟩ := hl.swept t r' [] (by rw [hp]; rfl)
            obtain hmem | hending := hswept login hseen huser
            · contradiction
            · exact hending
          · exact over_of_step hi htaken (hcare login hmissed huser hverified) hstep
        | _ => contradiction
    · -- the login is committed now: its hash cannot have been replaced
      obtain rfl := List.mem_singleton.mp hnow
      obtain hr | hr := hr
      · obtain ⟨user, hstored, hhash⟩ := hcare
        rw [huser] at hstored
        exact absurd (hhash.trans hverified) (hi.users.spent r hr user hstored)
      · contradiction
  · unfold State.replacements at hr
    rw [hlog] at hr hlogin
    exact hold hr hlogin

theorem step (hi : s.Inv sec accounts) (hl : s.LoginInv) (h : CarefulStep sec s t s') :
    s'.LoginInv :=
  ⟨fun _ hlogin => hl.known_step h.1 hlogin, fun _ hlogin => taken_step hi hl h.1 hlogin,
    fun _ _ _ hsweep => swept_step hi hl h.1 hsweep,
    fun _ hr _ hlogin huser hverified => ended_step hi hl h hr hlogin huser hverified⟩

theorem start (accounts : Accounts) : (State.start accounts : State τ).LoginInv where
  known _ h := by
    obtain h | ⟨t, h⟩ := h <;> contradiction
  taken _ h := by contradiction
  swept _ _ _ h := by contradiction
  ended _ h := by contradiction

end State.LoginInv

/-- In every run whose commits are careful, a replaced password leaves none of its sessions
behind. -/
theorem old_sessions_ended_of_careful {ts : List τ}
    (hrun : Run (CarefulStep sec) (State.start accounts) ts s) : s.OldSessionsEnded := by
  have hinv := hrun.invariant
    (fun s₁ t₁ s₂ (h : s₁.Inv sec accounts ∧ s₁.LoginInv) hstep =>
      ⟨h.1.step hstep.1, h.2.step h.1 hstep⟩)
    ⟨State.Inv.start sec accounts, State.LoginInv.start accounts⟩
  intro r hr login hlogin huser hverified
  have hover := hinv.2.ended r hr login hlogin huser hverified
  exact ⟨hover, fun token hk => hover.not_rotatable hk⟩

end

/-- A session that the old password has opened before its replacement. -/
theorem old_sessions_ended_of_careful_changed : ∃ s : State ℕ,
    Run (CarefulStep .clear) (State.start (.single 1 "ada" oldPassword))
      [1, 1, 1, 0, 0, 0, 2, 2, 2, 2, 2, 2, 2, 2] s ∧
    .loggedIn ⟨2, 3, 1, oldPassword⟩ ∈ s.log ∧
    (∃ row, s.sessions.committed 2 = some row) ∧ s.Over 2 := by
  have h₀ : Run (CarefulStep .clear) (State.start (.single 1 "ada" oldPassword)) ([] : List ℕ) _ :=
    .nil _
  have h₁ := h₀.snoc (And.intro (@Step.authenticate ℕ _ .clear _ 1 "ada" oldPassword
    (some (1, ⟨"ada", true, oldPassword⟩)) rfl ⟨rfl, rfl⟩) fun _ => trivial)
  have h₂ := h₁.snoc (And.intro (@Step.issueSession ℕ _ .clear _ 1 1 2 3 oldPassword 0 0 rfl rfl rfl
    fun token h => by contradiction) fun _ => trivial)
  have h₃ := h₂.snoc (And.intro (@Step.commit ℕ _ .clear _ 1 (.loggedIn ⟨2, 3, 1, oldPassword⟩) rfl)
    fun _ => ⟨⟨"ada", true, oldPassword⟩, rfl, rfl⟩)
  have h₄ := h₃.snoc (And.intro (@Step.identify ℕ _ .clear _ 0 1 (.reauthenticate oldPassword) rfl)
    fun _ => trivial)
  have h₅ :=
    h₄.snoc (And.intro (@Step.reauthenticate ℕ _ .clear _ 0 1 5 "ada" oldPassword oldPassword
    (some (1, ⟨"ada", true, oldPassword⟩)) 0 1000000000 rfl ⟨rfl, rfl⟩ rfl) fun _ => trivial)
  have h₆ := h₅.snoc (And.intro (@Step.commit ℕ _ .clear _ 0 .reauthenticated rfl) fun _ => trivial)
  have h₇ := h₆.snoc (And.intro (@Step.identify ℕ _ .clear _ 2 1
    (.changePassword (some ⟨1, 5, oldPassword, 0, 1000⟩) newPassword) rfl) fun _ => trivial)
  have h₈ := h₇.snoc (And.intro (@Step.prove ℕ _ .clear _ 2 1 "ada" newPassword
    (some ⟨1, 5, oldPassword, 0, 1000⟩) 0 rfl fun token h => List.mem_of_mem_head? h)
    fun _ => trivial)
  have h₉ := h₈.snoc (And.intro (@Step.checkProof ℕ _ .clear _ 2 1 "ada" newPassword newPassword
    ⟨1, 5, oldPassword, 0, 1000⟩ (some (1, ⟨"ada", true, oldPassword⟩)) rfl ⟨rfl, rfl⟩ (by decide))
    fun _ => trivial)
  have h₁₀ := h₉.snoc (And.intro (@Step.swap ℕ _ .clear _ 2 ⟨1, oldPassword, newPassword,
    .proof ⟨1, 5, oldPassword, 0, 1000⟩⟩ ⟨"ada", true, oldPassword⟩ 0 rfl (.inl rfl) rfl rfl)
    fun _ => trivial)
  have h₁₁ := h₁₀.snoc (And.intro (@Step.scanSessions ℕ _ .clear _ 2 (.replaced ⟨1, oldPassword,
    newPassword, .proof ⟨1, 5, oldPassword, 0, 1000⟩⟩) "password_changed" 0 [2] rfl (by
      intro k
      by_cases hk : k = 2
      · subst hk
        exact iff_of_true (List.mem_singleton_self _) ⟨_, rfl, rfl, rfl⟩
      · refine iff_of_false (by simpa using hk) ?_
        rintro ⟨session, hview, -⟩
        change ((((Table.of fun _ => none).write 1 2
          (some (newSession 2 1 3 0 1000000000))).commit 1).commit 0).view 2 k =
            some session at hview
        have hother : (k : BitVec 128) ≠ 2#128 := hk
        simp [Table.view, Table.commit, Table.rollback, Table.write, Table.of,
          Function.update_apply, hother] at hview))
    fun _ => trivial)
  have h₁₂ := h₁₁.snoc (And.intro (@Step.revokeRow ℕ _ .clear _ 2 (.replaced ⟨1, oldPassword,
    newPassword, .proof ⟨1, 5, oldPassword, 0, 1000⟩⟩) 2 "password_changed" 0 []
    (newSession 2 1 3 0 1000000000) rfl (.inl rfl) rfl ⟨rfl, rfl⟩) fun _ => trivial)
  have h₁₃ := h₁₂.snoc (And.intro (@Step.sessionsRevoked ℕ _ .clear _ 2 (.replaced ⟨1, oldPassword,
    newPassword, .proof ⟨1, 5, oldPassword, 0, 1000⟩⟩) "password_changed" 0 rfl) fun _ => trivial)
  have h₁₄ :=
    h₁₃.snoc (And.intro (@Step.commit ℕ _ .clear _ 2 (.replaced ⟨1, oldPassword, newPassword,
    .proof ⟨1, 5, oldPassword, 0, 1000⟩⟩) rfl) fun _ login h => by contradiction)
  have hlogin : Answer.loggedIn ⟨2, 3, 1, oldPassword⟩ ∈ [Answer.loggedIn ⟨2, 3, 1, oldPassword⟩,
    .reauthenticated,
      .replaced ⟨1, oldPassword, newPassword, .proof ⟨1, 5, oldPassword, 0, 1000⟩⟩] :=
    List.mem_cons_self
  refine ⟨_, h₁₄, hlogin, ⟨_, rfl⟩, ?_⟩
  exact (old_sessions_ended_of_careful h₁₄ ⟨1, oldPassword, newPassword,
    .proof ⟨1, 5, oldPassword, 0, 1000⟩⟩ (List.mem_singleton_self _) ⟨2, 3, 1, oldPassword⟩ hlogin
      rfl rfl).1

/-- A login that had verified the old password before it was replaced is committed after it. -/
theorem old_sessions_survive : ¬ ∀ (sec : Security) (accounts : Accounts) (ts : List ℕ)
    (s : State ℕ), Run (Step sec) (State.start accounts) ts s → s.OldSessionsEnded := by
  intro hclaim
  obtain ⟨s, hrun, hp, hlog, htokens, habsent, hholder⟩ := replaced_run
  have hissue := hrun.snoc (@Step.issueSession ℕ _ .clear s 1 1 2 3 oldPassword 0 0 hp habsent
    hholder fun token h => by rw [htokens] at h; contradiction)
  have hcommit := hissue.snoc (@Step.commit ℕ _ .clear _ 1 (.loggedIn ⟨2, 3, 1, oldPassword⟩) rfl)
  have hended := hclaim _ _ _ _ hcommit ⟨1, oldPassword, newPassword,
    .proof ⟨1, 5, oldPassword, 0, 1000⟩⟩ (by
      unfold State.replacements
      show _ ∈ (s.log ++ [_]).filterMap Answer.replacement?
      rw [hlog]
      decide) ⟨2, 3, 1, oldPassword⟩ (List.mem_append_right _ (List.mem_singleton_self _)) rfl rfl
  exact hended.1 (newSession 2 1 3 0 1000000000) rfl rfl

end OpsFlow.Auth
