import OpsFlow.Auth.System

namespace OpsFlow.Auth
open RowStore

variable {τ : Type}

/-! ## The life of a reset token -/

/-- An active token may be used or invalidated, once. -/
inductive PasswordResetToken.Closes : PasswordResetToken → PasswordResetToken → Prop
  | same (token : PasswordResetToken) : Closes token token
  | used {token : PasswordResetToken} (now : Timestamp) : token.Active →
      Closes token { token with usedAt := some now }
  | invalidated {token : PasswordResetToken} (now : Timestamp) : token.Active →
      Closes token { token with invalidatedAt := some now }

namespace PasswordResetToken.Closes

variable {token token' : PasswordResetToken}

theorem id_eq (h : token.Closes token') : token'.id = token.id := by
  cases h <;> rfl

theorem userId_eq (h : token.Closes token') : token'.userId = token.userId := by
  cases h <;> rfl

theorem not_active_used (token : PasswordResetToken) (now : Timestamp) :
    ¬ Active { token with usedAt := some now } := by
  intro h
  exact absurd h.1 (Option.some_ne_none now)

theorem not_active_invalidated (token : PasswordResetToken) (now : Timestamp) :
    ¬ Active { token with invalidatedAt := some now } := by
  intro h
  exact absurd h.2 (Option.some_ne_none now)

theorem eq_of_active (h : token.Closes token') (hactive : token'.Active) : token' = token := by
  cases h with
  | same => rfl
  | used now _ => exact absurd hactive (not_active_used token now)
  | invalidated now _ => exact absurd hactive (not_active_invalidated token now)

/-- A closed token never changes again. -/
theorem eq_of_not_active (h : token.Closes token') (hclosed : ¬ token.Active) : token' = token := by
  cases h with
  | same => rfl
  | used _ hactive => exact absurd hactive hclosed
  | invalidated _ hactive => exact absurd hactive hclosed

end PasswordResetToken.Closes

/-- Transaction `t` has inserted no token, and closed those that it has changed. -/
def OnlyCloses (T : Table τ Uuid PasswordResetToken) (t : τ) : Prop :=
  ∀ k, T.holder k = some t →
    ∃ row row', T.committed k = some row ∧ T.pending k = some row' ∧ row.Closes row'

def ClosedBy (T : Table τ Uuid PasswordResetToken) (t : τ) (k : Uuid) : Prop :=
  T.holder k = some t ∧ ∃ row, T.pending k = some row ∧ ¬ row.Active

section Frame
variable {T T' : Table τ Uuid PasswordResetToken} {t : τ} {k k' : Uuid}

theorem OnlyCloses.frame (h : OnlyCloses T t) (hT : Table.Undisturbed t T T') :
    OnlyCloses T' t := by
  intro k hk
  have hold := (hT.holder k).mp hk
  rw [hT.committed k hold, hT.pending k hold]
  exact h k hold

theorem ClosedBy.frame (h : ClosedBy T t k) (hT : Table.Undisturbed t T T') :
    ClosedBy T' t k := by
  refine ⟨(hT.holder k).mpr h.1, ?_⟩
  rw [hT.pending k h.1]
  exact h.2

theorem OnlyCloses.of_holdsNothing (h : T.HoldsNothing t) : OnlyCloses T t :=
  fun k hk => absurd hk (h k)

/-- To close one more token is no more than to close tokens. -/
theorem OnlyCloses.write {row row' : PasswordResetToken} (h : OnlyCloses T t)
    (hcommitted : T.committed k = some row) (hcloses : row.Closes row') :
    OnlyCloses (T.write t k (some row')) t := by
  intro k' hk'
  by_cases hk : k' = k
  · subst hk
    exact ⟨row, row', hcommitted, Table.pending_write_self, hcloses⟩
  · rw [Table.holder_write_of_ne hk] at hk'
    rw [Table.pending_write_of_ne hk]
    exact h k' hk'

theorem ClosedBy.write {row' : PasswordResetToken} (hrow : ¬ row'.Active)
    (h : k' = k ∨ ClosedBy T t k') : ClosedBy (T.write t k (some row')) t k' := by
  by_cases hk : k' = k
  · subst hk
    exact ⟨Table.holder_write_self, row', Table.pending_write_self, hrow⟩
  · obtain h | ⟨hholder, hpending⟩ := h
    · contradiction
    · refine ⟨?_, ?_⟩
      · rw [Table.holder_write_of_ne hk]
        exact hholder
      · rw [Table.pending_write_of_ne hk]
        exact hpending

variable [DecidableEq τ]

/-- An active token that the transaction sees is the committed one. -/
theorem OnlyCloses.committed_of_view {row : PasswordResetToken} (h : OnlyCloses T t)
    (hview : T.view t k = some row) (hactive : row.Active) : T.committed k = some row := by
  by_cases hk : T.holder k = some t
  · rw [Table.view_of_holder hk] at hview
    obtain ⟨row₀, row', hcommitted, hpending, hcloses⟩ := h k hk
    obtain rfl : row' = row := Option.some.inj (hpending.symm.trans hview)
    rw [hcommitted, hcloses.eq_of_active hactive]
  · rw [← hview, Table.view_of_not_holder hk]

end Frame

/-! ## What a transaction has done to the reset tokens -/

inductive TokenRole
  | outside
  | locked (token : PasswordResetToken) (now : Timestamp)
  | consumed (token : PasswordResetToken) (now : Timestamp)
  | issuing (userId : Uuid)
  | sweeping (userId : Uuid) (todo : List Uuid)
  | issued (id : Uuid)
  | failing

def Authority.lockedRole : Authority → TokenRole
  | .proof _ => .outside
  | .resetToken token now => .locked token now

def Authority.consumedRole : Authority → TokenRole
  | .proof _ => .outside
  | .resetToken token now => .consumed token now

def EndCause.tokenRole : EndCause → TokenRole
  | .logoutAll _ => .outside
  | .replaced r => r.authority.consumedRole

def Invalidation.tokenRole (i : Invalidation) (todo : List Uuid) : TokenRole :=
  match i.next with
  | .issue _ => .sweeping i.userId todo
  | .endSessions r => r.authority.consumedRole

def Answer.tokenRole : Answer → TokenRole
  | .replaced r => r.authority.consumedRole
  | .resetRequested (some id) => .issued id
  | _ => .outside

def Tx.tokenRole : Tx → TokenRole
  | .tokenLocked token now _ | .recovering token _ now _ => .locked token now
  | .checked r | .swapped r => r.authority.lockedRole
  | .consumed r => r.authority.consumedRole
  | .issuing issuance => .issuing issuance.userId
  | .invalidating i todo => i.tokenRole todo
  | .ending cause _ _ | .revoking cause _ _ _ => cause.tokenRole
  | .done answer => answer.tokenRole
  | .refused _ commits => if commits then .outside else .failing
  | _ => .outside

@[simp] theorem EndCause.tokenRole_answer (cause : EndCause) :
    cause.answer.tokenRole = cause.tokenRole := by
  cases cause <;> rfl

/-- The issuance lock of a user is with `t`. -/
def State.Issues (sec : Security) (s : State τ) (t : τ) (userId : Uuid) : Prop :=
  s.advisory (issuanceLockKey sec userId) = some t

/-- Every committed active token of the user is going to be closed by `t`, except those `left`. -/
def State.Closing (s : State τ) (t : τ) (userId : Uuid) (left : Uuid → Prop) : Prop :=
  ∀ k row, s.resetTokens.committed k = some row → row.userId = userId → row.Active →
    left k ∨ ClosedBy s.resetTokens t k

def TokenRole.Holds (sec : Security) (s : State τ) (t : τ) : TokenRole → Prop
  | .outside => s.resetTokens.HoldsNothing t
  | .locked token now => s.resetTokens.Clean t ∧ s.resetTokens.HoldsOnly t token.id ∧
      s.resetTokens.committed token.id = some token ∧ token.Active ∧ now < token.expiresAt
  | .consumed token now => OnlyCloses s.resetTokens t ∧
      s.resetTokens.holder token.id = some t ∧ s.resetTokens.committed token.id = some token ∧
      token.Active ∧ now < token.expiresAt ∧
      s.resetTokens.pending token.id = some { token with usedAt := some now }
  | .issuing userId => s.resetTokens.HoldsNothing t ∧ s.Issues sec t userId
  | .sweeping userId todo => OnlyCloses s.resetTokens t ∧ s.Issues sec t userId ∧
      s.Closing t userId (· ∈ todo)
  | .issued id => s.resetTokens.holder id = some t ∧ s.resetTokens.committed id = none ∧
      (∃ row, s.resetTokens.pending id = some row ∧ row.id = id ∧ s.Issues sec t row.userId ∧
        s.Closing t row.userId fun _ => False) ∧
      ∀ k, k ≠ id → s.resetTokens.holder k = some t → ∃ row row',
        s.resetTokens.committed k = some row ∧ s.resetTokens.pending k = some row' ∧
          row.Closes row'
  | .failing => True

theorem State.Closing.frame {s s' : State τ} {t : τ} {userId : Uuid} {left : Uuid → Prop}
    (h : s.Closing t userId left) (hT : Table.Undisturbed t s.resetTokens s'.resetTokens)
    (hactive : ∀ k row, s'.resetTokens.committed k = some row → row.userId = userId → row.Active →
      s.resetTokens.committed k = some row) : s'.Closing t userId left := by
  intro k row hrow huser hlive
  exact (h k row (hactive k row hrow huser hlive) huser hlive).imp_right (·.frame hT)

/-- What other transactions must not do under a role: touch the rows that its transaction holds,
take its issuance lock, or issue a token to the user of that lock. -/
theorem TokenRole.Holds.frame {sec : Security} {s s' : State τ} {t : τ} {role : TokenRole}
    (h : role.Holds sec s t) (hT : Table.Undisturbed t s.resetTokens s'.resetTokens)
    (hissues : ∀ userId, s.Issues sec t userId → s'.Issues sec t userId)
    (hactive : ∀ userId, s.Issues sec t userId → ∀ k row,
      s'.resetTokens.committed k = some row → row.userId = userId → row.Active →
      s.resetTokens.committed k = some row) : role.Holds sec s' t := by
  cases role with
  | outside => exact hT.holdsNothing h
  | locked token now =>
    obtain ⟨hclean, honly, hcommitted, hrest⟩ := h
    refine ⟨hT.clean hclean, hT.holdsOnly honly, ?_, hrest⟩
    rw [hT.committed _ honly.holder, hcommitted]
  | consumed token now =>
    obtain ⟨hcloses, hholder, hcommitted, hlive, htimely, hpending⟩ := h
    refine ⟨hcloses.frame hT, (hT.holder _).mpr hholder, ?_, hlive, htimely, ?_⟩
    · rw [hT.committed _ hholder, hcommitted]
    · rw [hT.pending _ hholder, hpending]
  | issuing userId => exact ⟨hT.holdsNothing h.1, hissues userId h.2⟩
  | sweeping userId todo =>
    obtain ⟨hcloses, hlock, hclosing⟩ := h
    exact ⟨hcloses.frame hT, hissues userId hlock, hclosing.frame hT (hactive userId hlock)⟩
  | issued id =>
    obtain ⟨hholder, habsent, ⟨row, hpending, hid, hlock, hclosing⟩, hothers⟩ := h
    refine ⟨(hT.holder id).mpr hholder, ?_, ⟨row, ?_, hid, hissues _ hlock,
      hclosing.frame hT (hactive _ hlock)⟩, fun k hk hheld => ?_⟩
    · rw [hT.committed _ hholder, habsent]
    · rw [hT.pending _ hholder, hpending]
    · have hold := (hT.holder k).mp hheld
      rw [hT.committed k hold, hT.pending k hold]
      exact hothers k hk hold
  | failing => trivial

/-! ## One step -/

/-- An invalidation belongs to the issuance, or to the reset, that it is part of. -/
def Tx.InvalidationSound : Tx → Prop
  | .invalidating i _ =>
    (∀ issuance, i.next = .issue issuance →
      i.userId = issuance.userId ∧ i.excludeTokenId = none) ∧
      ∀ r, i.next = .endSessions r → ∃ token now, r.authority = .resetToken token now
  | _ => True

/-- What a statement means for the reset tokens and the issuance locks. -/
inductive TokenMove [DecidableEq τ] (sec : Security) (s : State τ) (t : τ) (s' : State τ) (x : Tx) :
    Prop
  | stays : s'.resetTokens = s.resetTokens → s'.advisory = s.advisory →
      (x.tokenRole = (s.txs t).tokenRole ∨ x.tokenRole = .failing) → TokenMove sec s t s' x
  | locks {k : Uuid} {token : PasswordResetToken} {now : Timestamp} :
      (s.txs t).tokenRole = .outside → s.resetTokens.Free t k →
      s.resetTokens.view t k = some token → s'.resetTokens = s.resetTokens.acquire t k →
      s'.advisory = s.advisory →
      ((x.tokenRole = .locked token now ∧ token.Active ∧ now < token.expiresAt) ∨
        x.tokenRole = .failing) → TokenMove sec s t s' x
  | marks {token row : PasswordResetToken} {now : Timestamp} :
      (s.txs t).tokenRole = .locked token now → x.tokenRole = .consumed token now →
      s.resetTokens.Free t token.id → s.resetTokens.view t token.id = some row →
      s'.resetTokens = s.resetTokens.write t token.id (some { row with usedAt := some now }) →
      s'.advisory = s.advisory → TokenMove sec s t s' x
  | acquires {userId : Uuid} : (s.txs t).tokenRole = .outside → x.tokenRole = .issuing userId →
      s'.resetTokens = s.resetTokens →
      (∀ t', s.advisory (issuanceLockKey sec userId) = some t' → t' = t) →
      s'.advisory = Function.update s.advisory (issuanceLockKey sec userId) (some t) →
      TokenMove sec s t s' x
  | scans {userId : Uuid} {todo : List Uuid} : (s.txs t).tokenRole = .issuing userId →
      x.tokenRole = .sweeping userId todo → s'.resetTokens = s.resetTokens →
      s'.advisory = s.advisory →
      (∀ k row, s.resetTokens.view t k = some row → row.userId = userId → row.Active → k ∈ todo) →
      TokenMove sec s t s' x
  | passes {k userId : Uuid} {todo : List Uuid} :
      (s.txs t).tokenRole = .sweeping userId (k :: todo) → x.tokenRole = .sweeping userId todo →
      s'.resetTokens = s.resetTokens → s'.advisory = s.advisory →
      (∀ row, s.resetTokens.view t k = some row → row.userId = userId → ¬ row.Active) →
      TokenMove sec s t s' x
  | invalidates {k : Uuid} {row : PasswordResetToken} {now : Timestamp} :
      ((∃ userId todo, (s.txs t).tokenRole = .sweeping userId (k :: todo) ∧
          x.tokenRole = .sweeping userId todo) ∨
        ∃ token used, (s.txs t).tokenRole = .consumed token used ∧
          x.tokenRole = .consumed token used) →
      s.resetTokens.Free t k → s.resetTokens.view t k = some row → row.Active →
      s'.resetTokens = s.resetTokens.write t k (some { row with invalidatedAt := some now }) →
      s'.advisory = s.advisory → TokenMove sec s t s' x
  | inserts {id userId : Uuid} {row : PasswordResetToken} :
      (s.txs t).tokenRole = .sweeping userId [] → x.tokenRole = .issued id →
      s.resetTokens.committed id = none → s.resetTokens.holder id = none → row.id = id →
      row.userId = userId → s'.resetTokens = s.resetTokens.write t id (some row) →
      s'.advisory = s.advisory → TokenMove sec s t s' x

theorem tokenRole_refused (error : AuthError) (commits : Bool) :
    (Tx.refused error commits).tokenRole = .outside ∨
      (Tx.refused error commits).tokenRole = .failing := by
  cases commits with
  | true => exact .inl rfl
  | false => exact .inr rfl

theorem tokenRole_proceed {α : Type} {commits : AuthError → Bool} {next : α → Tx}
    (result : Except AuthError α)
    (hnext : ∀ a, (next a).tokenRole = .outside ∨ (next a).tokenRole = .failing) :
    (proceed commits next result).tokenRole = .outside ∨
      (proceed commits next result).tokenRole = .failing :=
  proceed_induction (P := fun x => x.tokenRole = .outside ∨ x.tokenRole = .failing)
    tokenRole_refused hnext

/-- A token that has been locked is usable, or the request fails. -/
theorem tokenRole_lockToken (token : PasswordResetToken) (now : Timestamp) (newPassword : String) :
    ((proceed escapes (fun () => Tx.tokenLocked token now newPassword)
        (requireUsableToken token now)).tokenRole = .locked token now ∧
      token.Active ∧ now < token.expiresAt) ∨
    (proceed escapes (fun () => Tx.tokenLocked token now newPassword)
      (requireUsableToken token now)).tokenRole = .failing := by
  cases husable : requireUsableToken token now with
  | error e => exact .inr rfl
  | ok _ => exact .inl ⟨rfl, requireUsableToken_eq_ok.mp husable⟩

theorem tokenRole_judged (kind : Presentation) (claims : RefreshToken) (session : AuthSession)
    (now : Timestamp) : (judged kind claims session now).tokenRole = .outside := by
  unfold judged
  split_ifs <;> rfl

theorem tokenRole_swappedTx (r : Replacement) (now : Timestamp) :
    (r.swappedTx now).tokenRole = r.authority.lockedRole := by
  unfold Replacement.swappedTx
  cases h : r.authority with
  | proof claims => simp only [Tx.tokenRole, EndCause.tokenRole, h, Authority.consumedRole,
      Authority.lockedRole]
  | resetToken token used => simp only [Tx.tokenRole, h]

theorem invalidationSound_proceed {α : Type} {commits : AuthError → Bool} {next : α → Tx}
    {result : Except AuthError α} (hnext : ∀ a, (next a).InvalidationSound) :
    (proceed commits next result).InvalidationSound :=
  proceed_induction (fun _ _ => trivial) hnext

theorem invalidationSound_judged (kind : Presentation) (claims : RefreshToken)
    (session : AuthSession) (now : Timestamp) :
    (judged kind claims session now).InvalidationSound := by
  unfold judged
  split_ifs <;> trivial

theorem invalidationSound_swappedTx (r : Replacement) (now : Timestamp) :
    (r.swappedTx now).InvalidationSound := by
  unfold Replacement.swappedTx
  cases r.authority <;> trivial

section Statements
variable [DecidableEq τ] {sec : Security} {s s' : State τ} {t : τ} {x : Tx}

theorem TokenMove.quiet (htokens : s'.resetTokens = s.resetTokens)
    (hadvisory : s'.advisory = s.advisory) (hp : (s.txs t).tokenRole = .outside)
    (hx : x.tokenRole = .outside ∨ x.tokenRole = .failing) : TokenMove sec s t s' x := by
  refine .stays htokens hadvisory ?_
  rw [hp]
  exact hx

/-- What each statement does to the reset tokens. -/
theorem Step.tokenMove (hsound : (s.txs t).InvalidationSound) (h : Step sec s t s') :
    (∃ x, s'.txs = Function.update s.txs t x ∧ s'.log = s.log ∧ x.InvalidationSound ∧
      TokenMove sec s t s' x) ∨ s.Ends t s' := by
  cases h with
  -- login
  | authenticate hp _ =>
    refine .inl ⟨_, rfl, rfl, invalidationSound_proceed fun _ => trivial, .quiet rfl rfl ?_ ?_⟩
    · rw [hp]; rfl
    · exact tokenRole_proceed _ fun _ => .inl rfl
  | issueSession hp =>
    exact .inl ⟨_, rfl, rfl, trivial, .quiet rfl rfl (by rw [hp]; rfl) (.inl rfl)⟩
  -- rotation and logout
  | present hp _ =>
    refine .inl ⟨_, rfl, rfl, invalidationSound_proceed fun _ => trivial, .quiet rfl rfl ?_ ?_⟩
    · rw [hp]; rfl
    · exact tokenRole_proceed _ fun _ => .inl rfl
  | sessionMissing hp _ =>
    refine .inl ⟨_, rfl, rfl, trivial, .quiet rfl rfl ?_ (tokenRole_refused _ _)⟩
    rw [hp]; rfl
  | lockSession hp _ _ =>
    refine .inl ⟨_, rfl, rfl, invalidationSound_proceed fun _ => invalidationSound_judged _ _ _ _,
      .quiet rfl rfl ?_ ?_⟩
    · rw [hp]; rfl
    · exact tokenRole_proceed _ fun _ => .inl (tokenRole_judged _ _ _ _)
  | revokeReplayed hp _ _ =>
    exact .inl ⟨_, rfl, rfl, trivial, .quiet rfl rfl (by rw [hp]; rfl) (.inl rfl)⟩
  | resolveUser hp =>
    refine .inl ⟨_, rfl, rfl, invalidationSound_proceed fun _ => trivial, .quiet rfl rfl ?_ ?_⟩
    · rw [hp]; rfl
    · exact tokenRole_proceed _ fun _ => .inl rfl
  | rotate hp _ _ _ =>
    exact .inl ⟨_, rfl, rfl, trivial, .quiet rfl rfl (by rw [hp]; rfl) (.inl rfl)⟩
  | logout hp _ _ =>
    exact .inl ⟨_, rfl, rfl, trivial, .quiet rfl rfl (by rw [hp]; rfl) (.inl rfl)⟩
  -- requests with an access token
  | identify hp =>
    refine .inl ⟨_, rfl, rfl, invalidationSound_proceed fun _ => trivial, .quiet rfl rfl ?_ ?_⟩
    · rw [hp]; rfl
    · exact tokenRole_proceed _ fun _ => .inl rfl
  | logoutAll hp =>
    exact .inl ⟨_, rfl, rfl, trivial, .quiet rfl rfl (by rw [hp]; rfl) (.inl rfl)⟩
  | reauthenticateFails hp _ _ =>
    exact .inl ⟨_, rfl, rfl, trivial, .quiet rfl rfl (by rw [hp]; rfl) (.inr rfl)⟩
  | reauthenticate hp _ _ =>
    exact .inl ⟨_, rfl, rfl, trivial, .quiet rfl rfl (by rw [hp]; rfl) (.inl rfl)⟩
  -- change of a password
  | prove hp _ =>
    refine .inl ⟨_, rfl, rfl, invalidationSound_proceed fun claims => ?_, .quiet rfl rfl ?_ ?_⟩
    · split_ifs <;> trivial
    · rw [hp]; rfl
    · refine tokenRole_proceed _ fun claims => ?_
      split_ifs
      · exact .inr rfl
      · exact .inl rfl
  | checkProof hp _ _ =>
    refine .inl ⟨_, rfl, rfl, invalidationSound_proceed fun _ => trivial, .quiet rfl rfl ?_ ?_⟩
    · rw [hp]; rfl
    · exact tokenRole_proceed _ fun _ => .inl rfl
  -- reset of a password
  | tokenMissing hp _ =>
    exact .inl ⟨_, rfl, rfl, trivial, .quiet rfl rfl (by rw [hp]; rfl) (.inr rfl)⟩
  | @lockToken k rawToken newPassword token now hp hfree hview _ =>
    exact .inl ⟨_, rfl, rfl, invalidationSound_proceed fun _ => trivial,
      .locks (by rw [hp]; rfl) hfree hview rfl rfl (tokenRole_lockToken token now newPassword)⟩
  | @findUser token now newPassword hp =>
    refine .inl ⟨_, rfl, rfl, ?_, .stays rfl rfl ?_⟩
    · split
      · split_ifs <;> trivial
      · trivial
    · rw [hp]
      split
      · split_ifs
        · exact .inl rfl
        · exact .inr rfl
      · exact .inr rfl
  | @checkResetToken token now email newPassword replacement record hp _ _ =>
    refine .inl ⟨_, rfl, rfl, invalidationSound_proceed fun _ => trivial, .stays rfl rfl ?_⟩
    rw [hp]
    cases Auth.checkResetToken sec token newPassword record with
    | error e => exact .inr rfl
    | ok hash => exact .inl rfl
  -- the compare-and-set of both
  | swap hp _ _ _ =>
    refine .inl ⟨_, rfl, rfl, invalidationSound_swappedTx _ _, .stays rfl rfl (.inl ?_)⟩
    rw [hp]
    exact tokenRole_swappedTx _ _
  | swapStale hp _ _ => exact .inl ⟨_, rfl, rfl, trivial, .stays rfl rfl (.inr rfl)⟩
  | markUsed hp hauthority hfree hview _ =>
    refine .inl ⟨_, rfl, rfl, trivial, .marks ?_ ?_ hfree hview rfl rfl⟩
    · rw [hp]
      simp only [Tx.tokenRole, hauthority, Authority.lockedRole]
    · simp only [Tx.tokenRole, hauthority, Authority.consumedRole]
  | notMarked hp _ _ _ => exact .inl ⟨_, rfl, rfl, trivial, .stays rfl rfl (.inr rfl)⟩
  -- request of a reset
  | requestReset hp _ =>
    refine .inl ⟨_, rfl, rfl, ?_, .quiet rfl rfl (by rw [hp]; rfl) (.inl ?_)⟩
    · split
      · split_ifs <;> trivial
      · trivial
    · split
      · split_ifs <;> rfl
      · rfl
  | acquireIssuanceLock hp hlock =>
    exact .inl ⟨_, rfl, rfl, trivial, .acquires (by rw [hp]; rfl) rfl rfl hlock rfl⟩
  | insertToken hp hnext habsent hholder _ =>
    rw [hp] at hsound
    obtain ⟨huser, -⟩ := hsound.1 _ hnext
    refine .inl ⟨_, rfl, rfl, trivial, .inserts ?_ rfl habsent hholder rfl rfl rfl rfl⟩
    rw [hp]
    simp only [Tx.tokenRole, Invalidation.tokenRole, hnext]
    rw [huser]
    rfl
  -- `invalidate_active_for_user`
  | @scanTokens issuance todo hp htodo =>
    refine .inl ⟨_, rfl, rfl, ⟨fun issuance' h => ?_, fun r h => by contradiction⟩,
      .scans (by rw [hp]; rfl) rfl rfl rfl fun k row hview huser hactive => ?_⟩
    · obtain rfl : issuance = issuance' := by simpa using h
      exact ⟨rfl, rfl⟩
    · exact (htodo k).mpr ⟨row, hview, huser, hactive, fun id hid => by contradiction⟩
  | @scanSiblings r token now todo hp hauthority _ =>
    refine .inl ⟨_, rfl, rfl, ⟨fun issuance h => by contradiction, fun r' h => ?_⟩,
      .stays rfl rfl (.inl ?_)⟩
    · obtain rfl : r = r' := by simpa using h
      exact ⟨token, now, hauthority⟩
    · rw [hp]
      rfl
  | @invalidateRow i k todo token hp hfree hview hmatches =>
    rw [hp] at hsound
    refine .inl ⟨_, rfl, rfl, hsound, .invalidates ?_ hfree hview hmatches.2.1 rfl rfl⟩
    rw [hp]
    cases hnext : i.next with
    | issue issuance =>
      exact .inl ⟨i.userId, todo, by simp only [Tx.tokenRole, Invalidation.tokenRole, hnext],
        by simp only [Tx.tokenRole, Invalidation.tokenRole, hnext]⟩
    | endSessions r =>
      obtain ⟨token, now, hauthority⟩ := hsound.2 r hnext
      exact .inr ⟨token, now,
        by simp only [Tx.tokenRole, Invalidation.tokenRole, hnext, hauthority,
          Authority.consumedRole],
        by simp only [Tx.tokenRole, Invalidation.tokenRole, hnext, hauthority,
          Authority.consumedRole]⟩
  | @passToken i k todo hp _ hno =>
    rw [hp] at hsound
    refine .inl ⟨_, rfl, rfl, hsound, ?_⟩
    cases hnext : i.next with
    | issue issuance =>
      obtain ⟨-, hexclude⟩ := hsound.1 issuance hnext
      have hrole : (s.txs t).tokenRole = .sweeping i.userId (k :: todo) := by
        rw [hp]
        simp only [Tx.tokenRole, Invalidation.tokenRole, hnext]
      refine .passes hrole ?_ rfl rfl ?_
      · simp only [Tx.tokenRole, Invalidation.tokenRole, hnext]
      · intro row hview huser hactive
        refine hno row hview ⟨huser, hactive, ?_⟩
        rw [hexclude]
        exact fun id hid => by contradiction
    | endSessions r =>
      refine .stays rfl rfl (.inl ?_)
      rw [hp]
      simp only [Tx.tokenRole, Invalidation.tokenRole, hnext]
  | siblingsInvalidated hp hnext =>
    refine .inl ⟨_, rfl, rfl, trivial, .stays rfl rfl (.inl ?_)⟩
    rw [hp]
    simp only [Tx.tokenRole, Invalidation.tokenRole, hnext, EndCause.tokenRole]
  -- `revoke_all_for_user`
  | scanSessions hp _ =>
    exact .inl ⟨_, rfl, rfl, trivial, .stays rfl rfl (.inl (by rw [hp]; rfl))⟩
  | revokeRow hp _ _ _ =>
    exact .inl ⟨_, rfl, rfl, trivial, .stays rfl rfl (.inl (by rw [hp]; rfl))⟩
  | passSession hp _ _ =>
    exact .inl ⟨_, rfl, rfl, trivial, .stays rfl rfl (.inl (by rw [hp]; rfl))⟩
  | sessionsRevoked hp =>
    refine .inl ⟨_, rfl, rfl, trivial, .stays rfl rfl (.inl ?_)⟩
    rw [hp]
    exact EndCause.tokenRole_answer _
  -- `delete_expired_before`
  | purge hp _ =>
    exact .inl ⟨_, rfl, rfl, trivial, .quiet rfl rfl (by rw [hp]; rfl) (.inl rfl)⟩
  | purgeRow hp _ _ _ =>
    exact .inl ⟨_, rfl, rfl, trivial, .quiet rfl rfl (by rw [hp]; rfl) (.inl rfl)⟩
  | passPurge hp _ _ =>
    exact .inl ⟨_, rfl, rfl, trivial, .quiet rfl rfl (by rw [hp]; rfl) (.inl rfl)⟩
  | purged hp =>
    exact .inl ⟨_, rfl, rfl, trivial, .quiet rfl rfl (by rw [hp]; rfl) (.inl rfl)⟩
  -- the end of a request
  | commit hp => exact .inr (.commit hp)
  | @refuse error commits hp =>
    cases commits with
    | true => exact .inr (.close hp)
    | false => exact .inr (.rollback (.inr ⟨error, rfl⟩))
  | abort _ => exact .inr (.rollback (.inl rfl))

end Statements

end OpsFlow.Auth
