import OpsFlow.Auth.System

namespace OpsFlow.Auth
open RowStore

variable {τ : Type}

/-! ## What a transaction has done to the users -/

/-- From the check of the credential on, a replacement is planned; from the compare-and-set on it
is written. A request that fails has perhaps written it too, and will not commit it. -/
inductive UserRole
  | outside
  | checked (r : Replacement)
  | swapped (r : Replacement)
  | failing

def UserRole.planned? : UserRole → Option Replacement
  | .checked r | .swapped r => some r
  | .outside | .failing => none

def EndCause.userRole : EndCause → UserRole
  | .logoutAll _ => .outside
  | .replaced r => .swapped r

def AfterInvalidation.userRole : AfterInvalidation → UserRole
  | .issue _ => .outside
  | .endSessions r => .swapped r

def Answer.replacement? : Answer → Option Replacement
  | .replaced r => some r
  | _ => none

def Answer.userRole : Answer → UserRole
  | .replaced r => .swapped r
  | _ => .outside

def Tx.userRole : Tx → UserRole
  | .checked r => .checked r
  | .swapped r | .consumed r => .swapped r
  | .invalidating i _ => i.next.userRole
  | .ending cause _ _ | .revoking cause _ _ _ => cause.userRole
  | .done answer => answer.userRole
  | .refused _ commits => if commits then .outside else .failing
  | _ => .outside

@[simp] theorem EndCause.userRole_answer (cause : EndCause) :
    cause.answer.userRole = cause.userRole := by
  cases cause <;> rfl

def UserRole.Holds (U : Table τ Uuid UserModel) (t : τ) : UserRole → Prop
  | .outside | .checked _ => U.HoldsNothing t
  | .swapped r => U.HoldsOnly t r.userId ∧ ∃ user, U.committed r.userId = some user ∧
      user.hashedPassword = r.expected ∧
      U.pending r.userId = some { user with hashedPassword := r.replacement }
  | .failing => True

/-- The role speaks of nothing but the rows that the transaction holds. -/
theorem UserRole.Holds.frame {U U' : Table τ Uuid UserModel} {t : τ} {role : UserRole}
    (h : role.Holds U t) (hU : Table.Undisturbed t U U') : role.Holds U' t := by
  cases role with
  | outside => exact hU.holdsNothing h
  | checked r => exact hU.holdsNothing h
  | swapped r =>
    obtain ⟨honly, user, hcommitted, hexpected, hpending⟩ := h
    refine ⟨hU.holdsOnly honly, user, ?_, hexpected, ?_⟩
    · rw [hU.committed _ honly.holder, hcommitted]
    · rw [hU.pending _ honly.holder, hpending]
  | failing => trivial

/-! ## One step -/

def Authority.userId : Authority → Uuid
  | .proof claims => claims.userId
  | .resetToken token _ => token.userId

def Replacement.Authorised (sec : Security) (r : Replacement) : Prop :=
  r.authority.credentialFingerprint = sec.credentialFingerprint r.expected ∧
    r.authority.userId = r.userId

def Tx.ProofOwned : Tx → Prop
  | .proved userId _ claims _ => claims.userId = userId
  | _ => True

/-- What a statement means for the users: nothing, the check of a credential, or the
compare-and-set. -/
inductive UserMove [DecidableEq τ] (sec : Security) (s : State τ) (t : τ) (s' : State τ) (x : Tx) :
    Prop
  | stays : s'.users = s.users → (∀ h ∈ s.hashes, h ∈ s'.hashes) →
      (x.userRole = (s.txs t).userRole ∨ x.userRole = .failing) → UserMove sec s t s' x
  | checks {r : Replacement} {user : UserModel} : (s.txs t).userRole = .outside →
      x.userRole = .checked r → s'.users = s.users → r.replacement ∉ s.hashes →
      s'.hashes = s.hashes ++ [r.replacement] → s.users.view t r.userId = some user →
      user.hashedPassword = r.expected → ((s.txs t).ProofOwned → r.Authorised sec) →
      UserMove sec s t s' x
  | swaps {r : Replacement} {user : UserModel} : (s.txs t).userRole = .checked r →
      x.userRole = .swapped r → s'.hashes = s.hashes → s.users.Free t r.userId →
      s.users.view t r.userId = some user → user.hashedPassword = r.expected →
      s'.users = s.users.write t r.userId (some { user with hashedPassword := r.replacement }) →
      UserMove sec s t s' x

theorem checkProof_eq_ok {sec : Security} {userId : Uuid} {claims : ReauthenticationToken}
    {newPassword hash : String} {record : Option (Uuid × UserModel)}
    (h : checkProof sec userId claims newPassword record = .ok hash) :
    ∃ user, record = some (userId, user) ∧ user.hashedPassword = hash ∧
      claims.credentialFingerprint = sec.credentialFingerprint hash := by
  cases record with
  | none => contradiction
  | some record =>
    obtain ⟨recordId, user⟩ := record
    simp only [checkProof] at h
    split_ifs at h with hid hfingerprint hsame
    · split at h <;> contradiction
    · split at h
      · contradiction
      obtain rfl : user.hashedPassword = hash := Except.ok.inj h
      obtain rfl : recordId = userId := not_not.mp hid
      exact ⟨user, rfl, rfl, (not_not.mp hfingerprint).symm⟩

theorem checkResetToken_eq_ok {sec : Security} {token : PasswordResetToken}
    {newPassword hash : String} {record : Option (Uuid × UserModel)}
    (h : checkResetToken sec token newPassword record = .ok hash) :
    ∃ user, record = some (token.userId, user) ∧ user.hashedPassword = hash ∧
      token.credentialFingerprint = sec.credentialFingerprint hash := by
  cases record with
  | none => contradiction
  | some record =>
    obtain ⟨recordId, user⟩ := record
    simp only [checkResetToken] at h
    split_ifs at h with hid hfingerprint hsame
    · split at h <;> contradiction
    · split at h
      · contradiction
      obtain rfl : user.hashedPassword = hash := Except.ok.inj h
      obtain rfl : recordId = token.userId := not_not.mp hid
      exact ⟨user, rfl, rfl, (not_not.mp hfingerprint).symm⟩

theorem userRole_refused (error : AuthError) (commits : Bool) :
    (Tx.refused error commits).userRole = .outside ∨
      (Tx.refused error commits).userRole = .failing := by
  cases commits with
  | true => exact .inl rfl
  | false => exact .inr rfl

/-- A check that does not raise leaves the users to the next statement. -/
theorem userRole_proceed {α : Type} {commits : AuthError → Bool} {next : α → Tx}
    (result : Except AuthError α)
    (hnext : ∀ a, (next a).userRole = .outside ∨ (next a).userRole = .failing) :
    (proceed commits next result).userRole = .outside ∨
      (proceed commits next result).userRole = .failing :=
  proceed_induction (P := fun x => x.userRole = .outside ∨ x.userRole = .failing)
    userRole_refused hnext

theorem userRole_judged (kind : Presentation) (claims : RefreshToken) (session : AuthSession)
    (now : Timestamp) : (judged kind claims session now).userRole = .outside := by
  unfold judged
  split_ifs <;> rfl

theorem userRole_swappedTx (r : Replacement) (now : Timestamp) :
    (r.swappedTx now).userRole = .swapped r := by
  unfold Replacement.swappedTx
  cases r.authority <;> rfl

theorem proofOwned_proceed {α : Type} {commits : AuthError → Bool} {next : α → Tx}
    {result : Except AuthError α} (hnext : ∀ a, (next a).ProofOwned) :
    (proceed commits next result).ProofOwned :=
  proceed_induction (fun _ _ => trivial) hnext

theorem proofOwned_judged (kind : Presentation) (claims : RefreshToken) (session : AuthSession)
    (now : Timestamp) : (judged kind claims session now).ProofOwned := by
  unfold judged
  split_ifs <;> trivial

theorem proofOwned_swappedTx (r : Replacement) (now : Timestamp) :
    (r.swappedTx now).ProofOwned := by
  unfold Replacement.swappedTx
  cases r.authority <;> trivial

section Statements
variable [DecidableEq τ] {sec : Security} {s s' : State τ} {t : τ} {x : Tx}

/-- A statement of a transaction that has not come to the users and does not now. -/
theorem UserMove.quiet (husers : s'.users = s.users) (hhashes : s'.hashes = s.hashes)
    (hp : (s.txs t).userRole = .outside) (hx : x.userRole = .outside ∨ x.userRole = .failing) :
    UserMove sec s t s' x := by
  refine .stays husers (fun h hmem => ?_) ?_
  · rw [hhashes]
    exact hmem
  · rw [hp]
    exact hx

/-- A statement of a transaction that has nothing to do with the users any more. -/
theorem UserMove.same (husers : s'.users = s.users) (hhashes : s'.hashes = s.hashes)
    (hx : x.userRole = (s.txs t).userRole ∨ x.userRole = .failing) : UserMove sec s t s' x :=
  .stays husers (fun h hmem => by rw [hhashes]; exact hmem) hx

/-- What each statement does to the users. -/
theorem Step.userMove (h : Step sec s t s') :
    (∃ x, s'.txs = Function.update s.txs t x ∧ s'.log = s.log ∧ x.ProofOwned ∧
      UserMove sec s t s' x) ∨ s.Ends t s' := by
  cases h with
  -- login
  | authenticate hp _ =>
    refine .inl ⟨_, rfl, rfl, proofOwned_proceed fun _ => trivial, .quiet rfl rfl ?_ ?_⟩
    · rw [hp]; rfl
    · exact userRole_proceed _ fun _ => .inl rfl
  | issueSession hp =>
    exact .inl ⟨_, rfl, rfl, trivial, .quiet rfl rfl (by rw [hp]; rfl) (.inl rfl)⟩
  -- rotation and logout
  | present hp _ =>
    refine .inl ⟨_, rfl, rfl, proofOwned_proceed fun _ => trivial, .quiet rfl rfl ?_ ?_⟩
    · rw [hp]; rfl
    · exact userRole_proceed _ fun _ => .inl rfl
  | sessionMissing hp _ =>
    refine .inl ⟨_, rfl, rfl, trivial, .quiet rfl rfl ?_ (userRole_refused _ _)⟩
    rw [hp]; rfl
  | lockSession hp _ _ =>
    refine .inl ⟨_, rfl, rfl, proofOwned_proceed fun _ => proofOwned_judged _ _ _ _,
      .quiet rfl rfl ?_ ?_⟩
    · rw [hp]; rfl
    · exact userRole_proceed _ fun _ => .inl (userRole_judged _ _ _ _)
  | revokeReplayed hp _ _ =>
    exact .inl ⟨_, rfl, rfl, trivial, .quiet rfl rfl (by rw [hp]; rfl) (.inl rfl)⟩
  | resolveUser hp =>
    refine .inl ⟨_, rfl, rfl, proofOwned_proceed fun _ => trivial, .quiet rfl rfl ?_ ?_⟩
    · rw [hp]; rfl
    · exact userRole_proceed _ fun _ => .inl rfl
  | rotate hp _ _ _ =>
    exact .inl ⟨_, rfl, rfl, trivial, .quiet rfl rfl (by rw [hp]; rfl) (.inl rfl)⟩
  | logout hp _ _ =>
    exact .inl ⟨_, rfl, rfl, trivial, .quiet rfl rfl (by rw [hp]; rfl) (.inl rfl)⟩
  -- requests with an access token
  | identify hp =>
    refine .inl ⟨_, rfl, rfl, proofOwned_proceed fun _ => trivial, .quiet rfl rfl ?_ ?_⟩
    · rw [hp]; rfl
    · exact userRole_proceed _ fun _ => .inl rfl
  | logoutAll hp =>
    exact .inl ⟨_, rfl, rfl, trivial, .quiet rfl rfl (by rw [hp]; rfl) (.inl rfl)⟩
  | reauthenticateFails hp _ _ =>
    exact .inl ⟨_, rfl, rfl, trivial, .quiet rfl rfl (by rw [hp]; rfl) (.inr rfl)⟩
  | reauthenticate hp _ _ =>
    exact .inl ⟨_, rfl, rfl, trivial, .quiet rfl rfl (by rw [hp]; rfl) (.inl rfl)⟩
  -- change of a password
  | @prove userId email newPassword reauthToken now hp _ =>
    refine .inl ⟨_, rfl, rfl, proofOwned_proceed fun claims => ?_, .quiet rfl rfl ?_ ?_⟩
    · split_ifs with howner
      · trivial
      · exact not_not.mp howner
    · rw [hp]; rfl
    · refine userRole_proceed _ fun claims => ?_
      split_ifs
      · exact .inr rfl
      · exact .inl rfl
  | @checkProof userId email newPassword replacement claims record hp hfinds hfresh =>
    cases hcheck : Auth.checkProof sec userId claims newPassword record with
    | error e =>
      refine .inl ⟨_, rfl, rfl, trivial, .stays rfl (fun _ h => List.mem_append_left _ h) ?_⟩
      exact .inr rfl
    | ok hash =>
      obtain ⟨user, rfl, hhash, hfingerprint⟩ := checkProof_eq_ok hcheck
      refine .inl ⟨_, rfl, rfl, trivial, .checks (by rw [hp]; rfl) rfl rfl hfresh rfl hfinds.1
        hhash fun howned => ⟨hfingerprint, ?_⟩⟩
      rw [hp] at howned
      exact howned
  -- reset of a password
  | tokenMissing hp _ =>
    exact .inl ⟨_, rfl, rfl, trivial, .quiet rfl rfl (by rw [hp]; rfl) (.inr rfl)⟩
  | lockToken hp _ _ _ =>
    refine .inl ⟨_, rfl, rfl, proofOwned_proceed fun _ => trivial, .quiet rfl rfl ?_ ?_⟩
    · rw [hp]; rfl
    · exact userRole_proceed _ fun _ => .inl rfl
  | @findUser token now newPassword hp =>
    refine .inl ⟨_, rfl, rfl, ?_, .quiet rfl rfl ?_ ?_⟩
    · split
      · split_ifs <;> trivial
      · trivial
    · rw [hp]; rfl
    · split
      · split_ifs
        · exact .inl rfl
        · exact .inr rfl
      · exact .inr rfl
  | @checkResetToken token now email newPassword replacement record hp hfinds hfresh =>
    cases hcheck : Auth.checkResetToken sec token newPassword record with
    | error e =>
      refine .inl ⟨_, rfl, rfl, trivial, .stays rfl (fun _ h => List.mem_append_left _ h) ?_⟩
      exact .inr rfl
    | ok hash =>
      obtain ⟨user, rfl, hhash, hfingerprint⟩ := checkResetToken_eq_ok hcheck
      exact .inl ⟨_, rfl, rfl, trivial, .checks (by rw [hp]; rfl) rfl rfl hfresh rfl hfinds.1
        hhash fun _ => ⟨hfingerprint, rfl⟩⟩
  -- the compare-and-set of both
  | swap hp hfree hview hexpected =>
    exact .inl ⟨_, rfl, rfl, proofOwned_swappedTx _ _, .swaps (by rw [hp]; rfl)
      (userRole_swappedTx _ _) rfl hfree hview hexpected rfl⟩
  | swapStale hp _ _ => exact .inl ⟨_, rfl, rfl, trivial, .same rfl rfl (.inr rfl)⟩
  | markUsed hp _ _ _ _ =>
    exact .inl ⟨_, rfl, rfl, trivial, .same rfl rfl (.inl (by rw [hp]; rfl))⟩
  | notMarked hp _ _ _ => exact .inl ⟨_, rfl, rfl, trivial, .same rfl rfl (.inr rfl)⟩
  -- request of a reset
  | @requestReset email record now hp _ =>
    refine .inl ⟨_, rfl, rfl, ?_, .quiet rfl rfl (by rw [hp]; rfl) (.inl ?_)⟩
    · split
      · split_ifs <;> trivial
      · trivial
    · split
      · split_ifs <;> rfl
      · rfl
  | acquireIssuanceLock hp _ =>
    exact .inl ⟨_, rfl, rfl, trivial, .quiet rfl rfl (by rw [hp]; rfl) (.inl rfl)⟩
  | insertToken hp hnext _ _ _ =>
    refine .inl ⟨_, rfl, rfl, trivial, .quiet rfl rfl ?_ (.inl rfl)⟩
    rw [hp]
    simp only [Tx.userRole, hnext, AfterInvalidation.userRole]
  -- `invalidate_active_for_user`
  | scanTokens hp _ =>
    exact .inl ⟨_, rfl, rfl, trivial, .quiet rfl rfl (by rw [hp]; rfl) (.inl rfl)⟩
  | scanSiblings hp _ _ =>
    exact .inl ⟨_, rfl, rfl, trivial, .same rfl rfl (.inl (by rw [hp]; rfl))⟩
  | invalidateRow hp _ _ _ =>
    exact .inl ⟨_, rfl, rfl, trivial, .same rfl rfl (.inl (by rw [hp]; rfl))⟩
  | passToken hp _ _ =>
    exact .inl ⟨_, rfl, rfl, trivial, .same rfl rfl (.inl (by rw [hp]; rfl))⟩
  | siblingsInvalidated hp hnext =>
    refine .inl ⟨_, rfl, rfl, trivial, .same rfl rfl (.inl ?_)⟩
    rw [hp]
    simp only [Tx.userRole, hnext, AfterInvalidation.userRole, EndCause.userRole]
  -- `revoke_all_for_user`
  | scanSessions hp _ =>
    exact .inl ⟨_, rfl, rfl, trivial, .same rfl rfl (.inl (by rw [hp]; rfl))⟩
  | revokeRow hp _ _ _ =>
    exact .inl ⟨_, rfl, rfl, trivial, .same rfl rfl (.inl (by rw [hp]; rfl))⟩
  | passSession hp _ _ =>
    exact .inl ⟨_, rfl, rfl, trivial, .same rfl rfl (.inl (by rw [hp]; rfl))⟩
  | sessionsRevoked hp =>
    refine .inl ⟨_, rfl, rfl, trivial, .same rfl rfl (.inl ?_)⟩
    rw [hp]
    exact EndCause.userRole_answer _
  -- `delete_expired_before`
  | purge hp _ =>
    exact .inl ⟨_, rfl, rfl, trivial, .quiet rfl rfl (by rw [hp]; rfl) (.inl rfl)⟩
  | purgeRow hp _ _ _ =>
    exact .inl ⟨_, rfl, rfl, trivial, .quiet rfl rfl (by rw [hp]; rfl) (.inl rfl)⟩
  | passPurge hp _ _ =>
    exact .inl ⟨_, rfl, rfl, trivial, .quiet rfl rfl (by rw [hp]; rfl) (.inl rfl)⟩
  | purged hp =>
    exact .inl ⟨_, rfl, rfl, trivial, .quiet rfl rfl (by rw [hp]; rfl) (.inl rfl)⟩
  -- the end of a request
  | commit hp => exact .inr (.commit hp)
  | @refuse error commits hp =>
    cases commits with
    | true => exact .inr (.close hp)
    | false => exact .inr (.rollback (.inr ⟨error, rfl⟩))
  | abort _ => exact .inr (.rollback (.inl rfl))

end Statements

end OpsFlow.Auth
