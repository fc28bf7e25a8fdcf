import OpsFlow.Auth.Tokens
import OpsFlow.Library.History

namespace OpsFlow.Auth
open RowStore Transition

variable {τ : Type}

/-- The reset token that a replacement has consumed, with the clock reading of the reset. -/
def Answer.confirmation? : Answer → Option (PasswordResetToken × Timestamp)
  | .replaced r =>
    match r.authority with
    | .resetToken token now => some (token, now)
    | .proof _ => none
  | _ => none

def State.confirmations (s : State τ) : List (PasswordResetToken × Timestamp) :=
  s.log.filterMap Answer.confirmation?

structure State.TokenInv (sec : Security) (s : State τ) : Prop where
  roles : ∀ t, (s.txs t).tokenRole.Holds sec s t
  sound : ∀ t, (s.txs t).InvalidationSound
  ids : ∀ k row, s.resetTokens.committed k = some row → row.id = k
  unique : ∀ k k' row row', s.resetTokens.committed k = some row →
    s.resetTokens.committed k' = some row' → row.userId = row'.userId → row.Active →
    row'.Active → k = k'
  confirmed : ∀ token now, (token, now) ∈ s.confirmations → token.Active ∧
    now < token.expiresAt ∧
    s.resetTokens.committed token.id = some { token with usedAt := some now }
  once : (s.confirmations.map fun c => c.1.id).Nodup

namespace State.TokenInv

variable [DecidableEq τ] {sec : Security} {s s' : State τ} {t : τ} {x : Tx}

/-! ## Statements -/

/-- A step that commits nothing. -/
theorem move (hi : s.TokenInv sec) (htxs : s'.txs = Function.update s.txs t x)
    (hlog : s'.log = s.log) (hsound : x.InvalidationSound)
    (hothers : ∀ t', t' ≠ t → Table.Undisturbed t' s.resetTokens s'.resetTokens)
    (hissues : ∀ t', t' ≠ t → ∀ userId, s.Issues sec t' userId → s'.Issues sec t' userId)
    (hcommitted : s'.resetTokens.committed = s.resetTokens.committed)
    (hrole : x.tokenRole.Holds sec s' t) : s'.TokenInv sec := by
  have hconfirmations : s'.confirmations = s.confirmations := by
    unfold State.confirmations
    rw [hlog]
  refine ⟨fun t' => ?_, fun t' => ?_, ?_, ?_, ?_, ?_⟩
  · rw [htxs]
    by_cases ht : t' = t
    · subst ht
      rw [Function.update_self]
      exact hrole
    · rw [Function.update_of_ne ht]
      refine (hi.roles t').frame (hothers t' ht) (hissues t' ht) fun _ _ k row h _ _ => ?_
      rw [← hcommitted]
      exact h
  · rw [htxs]
    by_cases ht : t' = t
    · subst ht
      rw [Function.update_self]
      exact hsound
    · rw [Function.update_of_ne ht]
      exact hi.sound t'
  · rw [hcommitted]
    exact hi.ids
  · rw [hcommitted]
    exact hi.unique
  · rw [hcommitted, hconfirmations]
    exact hi.confirmed
  · rw [hconfirmations]
    exact hi.once

/-- A statement that takes no lock and writes no token. -/
theorem still (hi : s.TokenInv sec) (htxs : s'.txs = Function.update s.txs t x)
    (hlog : s'.log = s.log) (hsound : x.InvalidationSound)
    (htokens : s'.resetTokens = s.resetTokens) (hadvisory : s'.advisory = s.advisory)
    (hrole : x.tokenRole.Holds sec s t) : s'.TokenInv sec := by
  have hissues : ∀ t' userId, s.Issues sec t' userId → s'.Issues sec t' userId := by
    intro t' userId h
    unfold State.Issues
    rw [hadvisory]
    exact h
  have hsame : ∀ t', Table.Undisturbed t' s.resetTokens s'.resetTokens := by
    intro t'
    rw [htokens]
    exact Table.undisturbed_refl t' s.resetTokens
  refine hi.move htxs hlog hsound (fun t' _ => hsame t') (fun t' _ => hissues t')
    (by rw [htokens]) ?_
  refine hrole.frame (hsame t) (hissues t) fun _ _ k row h _ _ => ?_
  rw [← htokens]
  exact h

/-- A statement that writes a row. -/
theorem write (hi : s.TokenInv sec) {k : Uuid} {row : Option PasswordResetToken}
    (hfree : s.resetTokens.Free t k) (htxs : s'.txs = Function.update s.txs t x)
    (hlog : s'.log = s.log) (hsound : x.InvalidationSound)
    (htokens : s'.resetTokens = s.resetTokens.write t k row)
    (hadvisory : s'.advisory = s.advisory) (hrole : x.tokenRole.Holds sec s' t) :
    s'.TokenInv sec := by
  refine hi.move htxs hlog hsound ?_ ?_ (by rw [htokens]; rfl) hrole
  · intro t' ht'
    rw [htokens]
    exact Table.undisturbed_write hfree ht'
  · intro t' _ userId h
    unfold State.Issues
    rw [hadvisory]
    exact h

theorem rollback (hi : s.TokenInv sec) (hx : x.tokenRole = .outside)
    (hsound : x.InvalidationSound) : (s.rollback t x).TokenInv sec := by
  refine hi.move rfl rfl hsound (fun t' ht' => Table.undisturbed_rollback ht') ?_ rfl ?_
  · intro t' ht' userId h
    show (if s.advisory (issuanceLockKey sec userId) = some t then none
      else s.advisory (issuanceLockKey sec userId)) = some t'
    rw [h, if_neg]
    exact fun heq => ht' (Option.some.inj heq)
  · rw [hx]
    exact Table.holdsNothing_rollback

/-- The sweep of an issuance has come to a row that is closed, or that another user has. -/
theorem pass {userId k : Uuid} {todo : List Uuid} (hcloses : OnlyCloses s.resetTokens t)
    (hclosing : s.Closing t userId (· ∈ k :: todo))
    (hno : ∀ row, s.resetTokens.view t k = some row → row.userId = userId → ¬ row.Active) :
    s.Closing t userId (· ∈ todo) := by
  intro k' row hrow huser hactive
  obtain hk | hclosed := hclosing k' row hrow huser hactive
  · obtain rfl | hk := List.mem_cons.mp hk
    · refine .inr ?_
      by_cases hholder : s.resetTokens.holder k' = some t
      · obtain ⟨row₀, row', hrow₀, hpending, hrow'⟩ := hcloses k' hholder
        obtain rfl : row₀ = row := Option.some.inj (hrow₀.symm.trans hrow)
        refine ⟨hholder, row', hpending, hno row' ?_ (hrow'.userId_eq.trans huser)⟩
        rw [Table.view_of_holder hholder, hpending]
      · rw [← Table.view_of_not_holder hholder] at hrow
        exact absurd hactive (hno row hrow huser)
    · exact .inl hk
  · exact .inr hclosed

theorem tokenMove (hi : s.TokenInv sec) (htxs : s'.txs = Function.update s.txs t x)
    (hlog : s'.log = s.log) (hsound : x.InvalidationSound) (hmove : TokenMove sec s t s' x) :
    s'.TokenInv sec := by
  have hrole := hi.roles t
  cases hmove with
  | stays htokens hadvisory hx =>
    refine hi.still htxs hlog hsound htokens hadvisory ?_
    obtain hx | hx := hx
    · rw [hx]
      exact hrole
    · rw [hx]
      trivial
  | @locks k token now hp hfree hview htokens hadvisory hx =>
    rw [hp] at hrole
    refine hi.write hfree htxs hlog hsound htokens hadvisory ?_
    obtain ⟨hx, hactive, htimely⟩ | hx := hx
    · rw [Table.HoldsNothing.view hrole] at hview
      obtain rfl := hi.ids k token hview
      rw [hx]
      unfold TokenRole.Holds
      rw [htokens]
      exact ⟨Table.HoldsNothing.clean_acquire hrole, Table.HoldsNothing.write hrole, hview,
        hactive, htimely⟩
    · rw [hx]
      trivial
  | @marks token row now hp hx hfree hview htokens hadvisory =>
    rw [hp] at hrole
    obtain ⟨hclean, honly, hcommitted, hactive, htimely⟩ := hrole
    rw [hclean.view, hcommitted] at hview
    obtain rfl := Option.some.inj hview
    refine hi.write hfree htxs hlog hsound htokens hadvisory ?_
    have hcloses : OnlyCloses s.resetTokens t := by
      intro k hk
      obtain rfl := (honly k).mp hk
      refine ⟨token, token, hcommitted, ?_, .same token⟩
      rw [hclean _ hk, hcommitted]
    rw [hx]
    unfold TokenRole.Holds
    rw [htokens]
    exact ⟨hcloses.write hcommitted (.used now hactive), Table.holder_write_self, hcommitted,
      hactive, htimely, Table.pending_write_self⟩
  | @acquires userId hp hx htokens hlock hadvisory =>
    rw [hp] at hrole
    refine hi.move htxs hlog hsound ?_ ?_ (by rw [htokens]) ?_
    · intro t' _
      rw [htokens]
      exact Table.undisturbed_refl t' s.resetTokens
    · intro t' ht' userId' h
      unfold State.Issues
      rw [hadvisory, Function.update_of_ne]
      · exact h
      · intro hkey
        unfold State.Issues at h
        rw [hkey] at h
        exact ht' (hlock t' h)
    · rw [hx]
      refine ⟨?_, ?_⟩
      · rw [htokens]
        exact hrole
      · unfold State.Issues
        rw [hadvisory, Function.update_self]
  | @scans userId todo hp hx htokens hadvisory htodo =>
    rw [hp] at hrole
    obtain ⟨hnothing, hissues⟩ := hrole
    refine hi.still htxs hlog hsound htokens hadvisory ?_
    rw [hx]
    refine ⟨.of_holdsNothing hnothing, hissues, fun k row hrow huser hactive => .inl ?_⟩
    rw [← hnothing.view] at hrow
    exact htodo k row hrow huser hactive
  | passes hp hx htokens hadvisory hno =>
    rw [hp] at hrole
    obtain ⟨hcloses, hissues, hclosing⟩ := hrole
    refine hi.still htxs hlog hsound htokens hadvisory ?_
    rw [hx]
    exact ⟨hcloses, hissues, pass hcloses hclosing hno⟩
  | @invalidates k row now hp hfree hview hactive htokens hadvisory =>
    refine hi.write hfree htxs hlog hsound htokens hadvisory ?_
    have hissues : ∀ userId, s.Issues sec t userId → s'.Issues sec t userId := by
      intro userId h
      unfold State.Issues
      rw [hadvisory]
      exact h
    obtain ⟨userId, todo, hp, hx⟩ | ⟨token, used, hp, hx⟩ := hp
    · rw [hp] at hrole
      obtain ⟨hcloses, hlock, hclosing⟩ := hrole
      have hcommitted := hcloses.committed_of_view hview hactive
      rw [hx]
      refine ⟨?_, hissues userId hlock, fun k' row' hrow' huser' hactive' => ?_⟩
      · rw [htokens]
        exact hcloses.write hcommitted (.invalidated now hactive)
      · rw [htokens] at hrow' ⊢
        obtain hk' | hclosed := hclosing k' row' hrow' huser' hactive'
        · obtain rfl | hk' := List.mem_cons.mp hk'
          · exact .inr (.write (PasswordResetToken.Closes.not_active_invalidated row now)
              (.inl rfl))
          · exact .inl hk'
        · exact .inr (.write (PasswordResetToken.Closes.not_active_invalidated row now)
            (.inr hclosed))
    · rw [hp] at hrole
      obtain ⟨hcloses, hholder, hcommitted, hlive, htimely, hpending⟩ := hrole
      -- the token of the reset is used already, so that the sweep does not come to it
      have hk : token.id ≠ k := by
        rintro rfl
        rw [Table.view_of_holder hholder, hpending] at hview
        obtain rfl := Option.some.inj hview
        exact PasswordResetToken.Closes.not_active_used token used hactive
      have hrow := hcloses.committed_of_view hview hactive
      rw [hx]
      unfold TokenRole.Holds
      rw [htokens]
      refine ⟨hcloses.write hrow (.invalidated now hactive), ?_, hcommitted, hlive, htimely, ?_⟩
      · rw [Table.holder_write_of_ne hk]
        exact hholder
      · rw [Table.pending_write_of_ne hk]
        exact hpending
  | @inserts id userId row hp hx habsent hholder hid huser htokens hadvisory =>
    rw [hp] at hrole
    obtain ⟨hcloses, hlock, hclosing⟩ := hrole
    refine hi.write (.inl hholder) htxs hlog hsound htokens hadvisory ?_
    rw [hx]
    unfold TokenRole.Holds State.Issues State.Closing
    rw [htokens, hadvisory]
    refine ⟨Table.holder_write_self, habsent, ⟨row, Table.pending_write_self, hid, ?_, ?_⟩, ?_⟩
    · rw [huser]
      exact hlock
    · intro k row' hrow' huser' hactive'
      obtain hk | ⟨hheld, hpending⟩ := hclosing k row' hrow' (huser'.trans huser) hactive'
      · contradiction
      · have hk : k ≠ id := by
          rintro rfl
          rw [hholder] at hheld
          contradiction
        refine .inr ⟨?_, ?_⟩
        · rw [Table.holder_write_of_ne hk]
          exact hheld
        · rw [Table.pending_write_of_ne hk]
          exact hpending
    · intro k hk hheld
      rw [Table.holder_write_of_ne hk] at hheld
      rw [Table.pending_write_of_ne hk]
      exact hcloses k hheld

/-! ## Commits -/

omit [DecidableEq τ] in
/-- A row that a transaction holds is closed by it, or issued. -/
theorem held_row (hi : s.TokenInv sec) {k : Uuid} (hx : (s.txs t).tokenRole ≠ .failing)
    (hk : s.resetTokens.holder k = some t) :
    (∃ row row', s.resetTokens.committed k = some row ∧ s.resetTokens.pending k = some row' ∧
      row.Closes row') ∨ (s.txs t).tokenRole = .issued k := by
  have hrole := hi.roles t
  cases hr : (s.txs t).tokenRole with
  | outside =>
    rw [hr] at hrole
    exact absurd hk (hrole k)
  | locked token now =>
    rw [hr] at hrole
    obtain ⟨hclean, honly, hcommitted, -⟩ := hrole
    obtain rfl := (honly k).mp hk
    exact .inl ⟨token, token, hcommitted, (hclean _ hk).trans hcommitted, .same token⟩
  | consumed token now =>
    rw [hr] at hrole
    exact .inl (hrole.1 k hk)
  | issuing userId =>
    rw [hr] at hrole
    exact absurd hk (hrole.1 k)
  | sweeping userId todo =>
    rw [hr] at hrole
    exact .inl (hrole.1 k hk)
  | issued id =>
    rw [hr] at hrole
    obtain ⟨-, -, -, hothers⟩ := hrole
    by_cases hid : k = id
    · subst hid
      exact .inr rfl
    · exact .inl (hothers k hid hk)
  | failing => contradiction

/-- A row that is committed was committed before, in the same or in an active version, or it is a
token that has just been issued. -/
theorem row_of_view (hi : s.TokenInv sec) {k : Uuid} {row' : PasswordResetToken}
    (hx : (s.txs t).tokenRole ≠ .failing) (hview : s.resetTokens.view t k = some row') :
    (∃ row, s.resetTokens.committed k = some row ∧ row.Closes row') ∨
      (s.txs t).tokenRole = .issued k := by
  by_cases hk : s.resetTokens.holder k = some t
  · rw [Table.view_of_holder hk] at hview
    refine (hi.held_row hx hk).imp_left ?_
    rintro ⟨row, row'', hcommitted, hpending, hcloses⟩
    obtain rfl : row'' = row' := Option.some.inj (hpending.symm.trans hview)
    exact ⟨row, hcommitted, hcloses⟩
  · rw [Table.view_of_not_holder hk] at hview
    exact .inl ⟨row', hview, .same row'⟩

omit [DecidableEq τ] in
theorem absent_of_issued (hi : s.TokenInv sec) {id : Uuid}
    (hr : (s.txs t).tokenRole = .issued id) : s.resetTokens.committed id = none := by
  have hrole := hi.roles t
  rw [hr] at hrole
  exact hrole.2.1

/-- What a transaction commits of a row that is there. -/
theorem view_of_row (hi : s.TokenInv sec) {k : Uuid} {row : PasswordResetToken}
    (hx : (s.txs t).tokenRole ≠ .failing) (hrow : s.resetTokens.committed k = some row) :
    ∃ row', s.resetTokens.view t k = some row' ∧ row.Closes row' := by
  by_cases hk : s.resetTokens.holder k = some t
  · rw [Table.view_of_holder hk]
    obtain ⟨row₀, row', hcommitted, hpending, hcloses⟩ | hissued := hi.held_row hx hk
    · obtain rfl : row₀ = row := Option.some.inj (hcommitted.symm.trans hrow)
      exact ⟨row', hpending, hcloses⟩
    · rw [hi.absent_of_issued hissued] at hrow
      contradiction
  · rw [Table.view_of_not_holder hk]
    exact ⟨row, hrow, .same row⟩

theorem issued_row (hi : s.TokenInv sec) {id : Uuid} {row : PasswordResetToken}
    (hr : (s.txs t).tokenRole = .issued id) (hview : s.resetTokens.view t id = some row) :
    row.id = id ∧ s.Issues sec t row.userId ∧ s.Closing t row.userId fun _ => False := by
  have hrole := hi.roles t
  rw [hr] at hrole
  obtain ⟨hholder, -, ⟨row', hpending, hrest⟩, -⟩ := hrole
  rw [Table.view_of_holder hholder] at hview
  obtain rfl : row' = row := Option.some.inj (hpending.symm.trans hview)
  exact hrest

/-- No other active token of the user is left when an issued one is committed. -/
theorem no_sibling (hi : s.TokenInv sec) {id k : Uuid} {row row' : PasswordResetToken}
    (hr : (s.txs t).tokenRole = .issued id) (hview : s.resetTokens.view t id = some row)
    (hview' : s.resetTokens.view t k = some row') (huser : row'.userId = row.userId)
    (hactive : row'.Active) : k = id := by
  by_contra hne
  obtain ⟨-, -, hclosing⟩ := hi.issued_row hr hview
  obtain ⟨row₀, hrow₀, hcloses⟩ | hissued :=
    hi.row_of_view (by rw [hr]; exact fun h => by contradiction) hview'
  · obtain rfl := hcloses.eq_of_active hactive
    obtain h | ⟨hholder, row'', hpending, hclosed⟩ := hclosing k row' hrow₀ huser hactive
    · exact h
    · rw [Table.view_of_holder hholder, hpending] at hview'
      obtain rfl := Option.some.inj hview'
      exact hclosed hactive
  · rw [hr] at hissued
    injection hissued with h
    exact hne h.symm

/-- At most one active token of a user is left by a commit. -/
theorem unique_commit (hi : s.TokenInv sec) (hx : (s.txs t).tokenRole ≠ .failing) {k k' : Uuid}
    {row row' : PasswordResetToken} (hrow : s.resetTokens.view t k = some row)
    (hrow' : s.resetTokens.view t k' = some row') (huser : row.userId = row'.userId)
    (hactive : row.Active) (hactive' : row'.Active) : k = k' := by
  -- an active row has been so before, or has just been issued, and then it has no sibling
  obtain ⟨row₀, hrow₀, hcloses⟩ | hissued := hi.row_of_view hx hrow
  · obtain ⟨row₀', hrow₀', hcloses'⟩ | hissued' := hi.row_of_view hx hrow'
    · obtain rfl := hcloses.eq_of_active hactive
      obtain rfl := hcloses'.eq_of_active hactive'
      exact hi.unique k k' row row' hrow₀ hrow₀' huser hactive hactive'
    · exact hi.no_sibling hissued' hrow' hrow huser hactive
  · exact (hi.no_sibling hissued hrow hrow' huser.symm hactive').symm

/-- A token that has been confirmed stays used. -/
theorem confirmed_view (hi : s.TokenInv sec) (hx : (s.txs t).tokenRole ≠ .failing)
    {token : PasswordResetToken} {now : Timestamp} (h : (token, now) ∈ s.confirmations) :
    token.Active ∧ now < token.expiresAt ∧
      s.resetTokens.view t token.id = some { token with usedAt := some now } := by
  obtain ⟨hactive, htimely, hrow⟩ := hi.confirmed token now h
  obtain ⟨row', hview, hcloses⟩ := hi.view_of_row hx hrow
  refine ⟨hactive, htimely, ?_⟩
  rw [hview, hcloses.eq_of_not_active (PasswordResetToken.Closes.not_active_used token now)]

omit [DecidableEq τ] in
/-- The token that a transaction has consumed has not been confirmed before: it would be used. -/
theorem once_commit (hi : s.TokenInv sec) {token : PasswordResetToken} {now : Timestamp}
    (hconsumed : (s.txs t).tokenRole = .consumed token now) :
    ((s.confirmations ++ [(token, now)]).map fun c => c.1.id).Nodup := by
  rw [List.map_append, List.nodup_append]
  refine ⟨hi.once, List.nodup_singleton _, fun a ha b hb => ?_⟩
  obtain ⟨⟨token', now'⟩, hmem, rfl⟩ := List.mem_map.mp ha
  obtain rfl := List.mem_singleton.mp hb
  intro hsame
  have hrole := hi.roles t
  rw [hconsumed] at hrole
  obtain ⟨-, -, hlocked, hactive, -, -⟩ := hrole
  obtain ⟨-, -, hused⟩ := hi.confirmed token' now' hmem
  simp only at hsame
  rw [hsame, hlocked] at hused
  rw [Option.some.inj hused] at hactive
  exact PasswordResetToken.Closes.not_active_used token' now' hactive

/-- The end of a transaction by COMMIT, with what it adds to the confirmations. -/
theorem commitRows (hi : s.TokenInv sec) (hx : (s.txs t).tokenRole ≠ .failing)
    (htxs : s'.txs = Function.update s.txs t x) (hrole : x.tokenRole = .outside)
    (hsound : x.InvalidationSound) (htokens : s'.resetTokens = s.resetTokens.commit t)
    (hadvisory : s'.advisory = s.release t)
    (hconfirmations : s'.confirmations = s.confirmations ∨ ∃ token now,
      s'.confirmations = s.confirmations ++ [(token, now)] ∧
        (s.txs t).tokenRole = .consumed token now) : s'.TokenInv sec := by
  have hcommitted : s'.resetTokens.committed = s.resetTokens.view t := by rw [htokens]; rfl
  refine ⟨fun t' => ?_, fun t' => ?_, ?_, ?_, ?_, ?_⟩
  · rw [htxs]
    by_cases ht : t' = t
    · subst ht
      rw [Function.update_self, hrole]
      unfold TokenRole.Holds
      rw [htokens]
      exact Table.holdsNothing_commit
    · rw [Function.update_of_ne ht]
      refine (hi.roles t').frame ?_ ?_ ?_
      · rw [htokens]
        exact Table.undisturbed_commit ht
      · intro userId h
        unfold State.Issues State.release at *
        rw [hadvisory]
        show (if s.advisory (issuanceLockKey sec userId) = some t then none
          else s.advisory (issuanceLockKey sec userId)) = some t'
        rw [h, if_neg]
        exact fun heq => ht (Option.some.inj heq)
      · -- nobody but the holder of the issuance lock issues a token to its user
        intro userId hissues k row hrow huser hactive
        rw [hcommitted] at hrow
        obtain ⟨row₀, hrow₀, hcloses⟩ | hissued := hi.row_of_view hx hrow
        · rw [hrow₀, hcloses.eq_of_active hactive]
        · obtain ⟨-, hissues', -⟩ := hi.issued_row hissued hrow
          rw [huser] at hissues'
          exact absurd (Option.some.inj (hissues.symm.trans hissues')) ht
  · rw [htxs]
    by_cases ht : t' = t
    · subst ht
      rw [Function.update_self]
      exact hsound
    · rw [Function.update_of_ne ht]
      exact hi.sound t'
  · intro k row hrow
    rw [hcommitted] at hrow
    obtain ⟨row₀, hrow₀, hcloses⟩ | hissued := hi.row_of_view hx hrow
    · rw [hcloses.id_eq]
      exact hi.ids k row₀ hrow₀
    · exact (hi.issued_row hissued hrow).1
  · intro k k' row row' hrow hrow' huser hactive hactive'
    rw [hcommitted] at hrow hrow'
    exact hi.unique_commit hx hrow hrow' huser hactive hactive'
  · intro token now h
    rw [hcommitted]
    obtain hsame | ⟨token', now', hsnoc, hconsumed⟩ := hconfirmations
    · rw [hsame] at h
      exact hi.confirmed_view hx h
    · rw [hsnoc] at h
      obtain h | h := List.mem_append.mp h
      · exact hi.confirmed_view hx h
      · -- the transaction has consumed this token itself
        obtain ⟨rfl, rfl⟩ := Prod.mk.inj (List.mem_singleton.mp h)
        have hrole' := hi.roles t
        rw [hconsumed] at hrole'
        obtain ⟨-, hholder, -, hactive, htimely, hpending⟩ := hrole'
        exact ⟨hactive, htimely, by rw [Table.view_of_holder hholder, hpending]⟩
  · obtain hsame | ⟨token, now, hsnoc, hconsumed⟩ := hconfirmations
    · rw [hsame]
      exact hi.once
    · rw [hsnoc]
      exact hi.once_commit hconsumed

theorem confirmations_commit {answer : Answer} :
    State.confirmations { s.commit t (.committed answer) with log := s.log ++ [answer] } =
      s.confirmations ++ answer.confirmation?.toList := by
  unfold State.confirmations
  rw [List.filterMap_append]
  cases h : answer.confirmation? <;> simp [h]

/-- An answer that confirms a token has consumed it. -/
theorem consumed_of_confirmation {answer : Answer} {token : PasswordResetToken} {now : Timestamp}
    (h : answer.confirmation? = some (token, now)) : answer.tokenRole = .consumed token now := by
  cases answer with
  | replaced r =>
    cases hauthority : r.authority with
    | proof claims =>
      simp only [Answer.confirmation?, hauthority] at h
      contradiction
    | resetToken token' now' =>
      simp only [Answer.confirmation?, hauthority, Option.some.injEq, Prod.mk.injEq] at h
      obtain ⟨rfl, rfl⟩ := h
      simp only [Answer.tokenRole, hauthority, Authority.consumedRole]
  | _ => contradiction

theorem not_failing_done (answer : Answer) : (Tx.done answer).tokenRole ≠ .failing := by
  cases answer with
  | replaced r =>
    intro h
    simp only [Tx.tokenRole, Answer.tokenRole] at h
    cases hauthority : r.authority <;> rw [hauthority] at h <;> contradiction
  | resetRequested id =>
    intro h
    cases id <;> contradiction
  | _ => exact fun h => by contradiction

/-- How the end of a request leaves the tokens. -/
theorem ends (hi : s.TokenInv sec) (h : s.Ends t s') : s'.TokenInv sec := by
  cases h with
  | @commit answer hp =>
    refine hi.commitRows (x := .committed answer) ?_ rfl rfl trivial rfl rfl ?_
    · rw [hp]
      exact not_failing_done answer
    · rw [confirmations_commit]
      cases hconfirmation : answer.confirmation? with
      | none => exact .inl (List.append_nil _)
      | some confirmation =>
        refine .inr ⟨confirmation.1, confirmation.2, rfl, ?_⟩
        rw [hp]
        exact consumed_of_confirmation hconfirmation
  | close hp =>
    refine hi.commitRows (x := .rejected _) ?_ rfl rfl trivial rfl rfl (.inl rfl)
    rw [hp]
    exact fun h => by contradiction
  | rollback hx =>
    obtain rfl | ⟨error, rfl⟩ := hx
    · exact hi.rollback rfl trivial
    · exact hi.rollback rfl trivial

/-- One step. -/
theorem step (hi : s.TokenInv sec) (h : Step sec s t s') : s'.TokenInv sec := by
  obtain ⟨x, htxs, hlog, hsound, hmove⟩ | hend := h.tokenMove (hi.sound t)
  · exact hi.tokenMove htxs hlog hsound hmove
  · exact hi.ends hend

omit [DecidableEq τ] in
theorem start (sec : Security) (accounts : Accounts) :
    (State.start accounts : State τ).TokenInv sec where
  roles _ := fun k hk => by contradiction
  sound _ := trivial
  ids _ _ h := by contradiction
  unique _ _ _ _ h := by contradiction
  confirmed _ _ h := by contradiction
  once := List.nodup_nil

/-- A statement leaves the committed tokens alone; only the end of a transaction changes them. -/
theorem committed_tokenMove (h : TokenMove sec s t s' x) :
    s'.resetTokens.committed = s.resetTokens.committed := by
  cases h with
  | stays htokens => rw [htokens]
  | locks _ _ _ htokens =>
    rw [htokens]
    rfl
  | marks _ _ _ _ htokens =>
    rw [htokens]
    rfl
  | acquires _ _ htokens => rw [htokens]
  | scans _ _ htokens => rw [htokens]
  | passes _ _ htokens => rw [htokens]
  | invalidates _ _ _ _ htokens =>
    rw [htokens]
    rfl
  | inserts _ _ _ _ _ _ htokens =>
    rw [htokens]
    rfl

/-- No step takes a committed token away, or changes more of it than closing it does. -/
theorem closes_of_step (hi : s.TokenInv sec) (h : Step sec s t s') {k : Uuid}
    {row : PasswordResetToken} (hrow : s.resetTokens.committed k = some row) :
    ∃ row', s'.resetTokens.committed k = some row' ∧ row.Closes row' := by
  obtain ⟨x, -, -, -, hmove⟩ | hend := h.tokenMove (hi.sound t)
  · rw [committed_tokenMove hmove]
    exact ⟨row, hrow, .same row⟩
  · cases hend with
    | @commit answer hp => exact hi.view_of_row (by rw [hp]; exact not_failing_done answer) hrow
    | close hp => exact hi.view_of_row (by rw [hp]; exact fun h => by contradiction) hrow
    | rollback _ => exact ⟨row, hrow, .same row⟩

/-- A token that is used or invalidated stays as it is. -/
theorem closed_of_run (hi : s.TokenInv sec) {ts : List τ} (hrun : Run (Step sec) s ts s')
    {k : Uuid} {row : PasswordResetToken} (hrow : s.resetTokens.committed k = some row)
    (hclosed : ¬ row.Active) : s'.TokenInv sec ∧ s'.resetTokens.committed k = some row := by
  refine hrun.invariant (fun s₁ t₁ s₂
    (h : s₁.TokenInv sec ∧ s₁.resetTokens.committed k = some row) hstep =>
    ⟨h.1.step hstep, ?_⟩) ⟨hi, hrow⟩
  obtain ⟨row', hrow', hcloses⟩ := h.1.closes_of_step hstep h.2
  rw [hrow', hcloses.eq_of_not_active hclosed]

end State.TokenInv

/-! ## Exclusivity -/

variable [DecidableEq τ] {sec : Security} {accounts : Accounts}

theorem State.TokenInv.run {ts : List τ} {s : State τ}
    (hrun : Run (Step sec) (State.start accounts) ts s) : s.TokenInv sec :=
  hrun.invariant (fun _ _ _ (h : State.TokenInv sec _) hstep => h.step hstep)
    (State.TokenInv.start sec accounts)

/-- In every run of any requests, a user never has two active reset tokens; every token is
confirmed at most once, before it expires; and no token is confirmed that had been invalidated. -/
theorem reset_tokens_exclusive {ts : List τ} {s : State τ}
    (hrun : Run (Step sec) (State.start accounts) ts s) :
    (∀ k k' token token', s.resetTokens.committed k = some token →
      s.resetTokens.committed k' = some token' → token.userId = token'.userId →
      token.Active → token'.Active → k = k') ∧
    (s.confirmations.map fun c => c.1.id).Nodup ∧
    (∀ token now, (token, now) ∈ s.confirmations → now < token.expiresAt ∧
      token.invalidatedAt = none ∧
      s.resetTokens.committed token.id = some { token with usedAt := some now }) ∧
    ∀ ts' s' k row, Run (Step sec) s ts' s' → s.resetTokens.committed k = some row →
      row.invalidatedAt ≠ none → ∀ token now, (token, now) ∈ s'.confirmations →
        token.id ≠ k := by
  have hi : s.TokenInv sec := .run hrun
  refine ⟨hi.unique, hi.once, fun token now h => ?_, ?_⟩
  · obtain ⟨hactive, htimely, hrow⟩ := hi.confirmed token now h
    exact ⟨htimely, hactive.2, hrow⟩
  · intro ts' s' k row hrun' hrow hinvalidated token now hconfirmed hk
    have hclosed : ¬ row.Active := fun h => hinvalidated h.2
    obtain ⟨hi', hrow'⟩ := hi.closed_of_run hrun' hrow hclosed
    obtain ⟨hactive, -, hused⟩ := hi'.confirmed token now hconfirmed
    rw [hk, hrow'] at hused
    obtain rfl := Option.some.inj hused
    exact hinvalidated hactive.2

def resetToken (id : Uuid) (rawToken : String) : PasswordResetToken :=
  ⟨id, 1, rawToken, "secret", 0, 1000000000, none, none⟩

def firstTokens : Table ℕ Uuid PasswordResetToken :=
  (Table.write (.of fun _ => none) 0 2 (some (resetToken 2 "raw"))).commit 0

def invalidatedToken : PasswordResetToken := { resetToken 2 "raw" with invalidatedAt := some 0 }

def secondTokens : Table ℕ Uuid PasswordResetToken :=
  ((firstTokens.write 1 2 (some invalidatedToken)).write 1 3
    (some (resetToken 3 "again"))).commit 1

def consumedTokens : Table ℕ Uuid PasswordResetToken :=
  (secondTokens.acquire 2 3).write 2 3 (some { resetToken 3 "again" with usedAt := some 0 })

theorem version_firstTokens {k : Uuid} {token : PasswordResetToken}
    (h : firstTokens.Version k token) : k = 2 ∧ token = resetToken 2 "raw" := by
  obtain hcommitted | hwritten := Table.version_write (Table.version_commit h)
  · obtain hrow | ⟨⟨t, ht⟩, -⟩ := hcommitted <;> contradiction
  · exact hwritten

theorem version_secondTokens {k : Uuid} {token : PasswordResetToken}
    (h : secondTokens.Version k token) : k = 2 ∨ k = 3 := by
  obtain hbefore | ⟨rfl, -⟩ := Table.version_write (Table.version_commit h)
  · obtain hfirst | ⟨rfl, -⟩ := Table.version_write hbefore
    · exact .inl (version_firstTokens hfirst).1
    · exact .inl rfl
  · exact .inr rfl

theorem scan_firstTokens (issuance : Issuance) (hissuance : issuance.userId = 1) (k : Uuid) :
    k ∈ [2] ↔ ∃ token, firstTokens.view 1 k = some token ∧
      Invalidation.Matches ⟨issuance.userId, issuance.now, none, .issue issuance⟩ token := by
  constructor
  · intro hk
    obtain rfl := List.mem_singleton.mp hk
    exact ⟨resetToken 2 "raw", rfl, hissuance.symm, ⟨rfl, rfl⟩, fun id hid => by contradiction⟩
  · rintro ⟨token, hview, -⟩
    rw [(version_firstTokens (Table.version_of_view hview)).1]
    exact List.mem_singleton_self 2

theorem scan_consumedTokens (r : Replacement) (k : Uuid) :
    k ∈ [] ↔ ∃ token, consumedTokens.view 2 k = some token ∧
      Invalidation.Matches ⟨1, 0, some 3, .endSessions r⟩ token := by
  refine iff_of_false List.not_mem_nil ?_
  rintro ⟨token, hview, -, ⟨-, hvalid⟩, hother⟩
  have hkey : k = 2 ∨ k = 3 := by
    by_cases hk : k = 3
    · exact .inr hk
    · have hbefore : secondTokens.view 2 k = some token := by
        rw [← hview]
        exact (Table.view_write_of_ne hk).symm.trans (Table.view_write_of_ne hk).symm
      exact version_secondTokens (Table.version_of_view hbefore)
  obtain rfl | rfl := hkey
  · obtain rfl : invalidatedToken = token := Option.some.inj hview
    contradiction
  · obtain rfl := Option.some.inj hview
    exact hother 3 rfl rfl

def resetReplacement : Replacement :=
  ⟨1, "secret", "correct horse battery staple", .resetToken (resetToken 3 "again") 0⟩

theorem confirmed_run : ∃ s : State ℕ,
    Run (Step .clear) (State.start (.single 1 "ada" "secret"))
      [0, 0, 0, 0, 0, 1, 1, 1, 1, 1, 1, 2, 2, 2, 2, 2, 2, 2, 2, 2, 2] s ∧ s.log =
        [.resetRequested (some 2), .resetRequested (some 3), .replaced resetReplacement] ∧
    s.resetTokens.committed 2 = some invalidatedToken := by
  have h₁ := (Run.nil (State.start (.single 1 "ada" "secret"))).snoc
    (@Step.requestReset ℕ _ .clear _ 0 "ada" (some (1, ⟨"ada", true, "secret"⟩)) 0 rfl ⟨rfl, rfl⟩)
  have h₂ := h₁.snoc (@Step.acquireIssuanceLock ℕ _ .clear _ 0 ⟨1, "secret", 0⟩ rfl
    fun t' h => by contradiction)
  have h₃ := h₂.snoc (@Step.scanTokens ℕ _ .clear _ 0 ⟨1, "secret", 0⟩ [] rfl fun k =>
    iff_of_false List.not_mem_nil (by rintro ⟨token, hview, -⟩; contradiction))
  have h₄ := h₃.snoc (@Step.insertToken ℕ _ .clear _ 0 ⟨1, 0, none, .issue ⟨1, "secret", 0⟩⟩
    ⟨1, "secret", 0⟩ 2 "raw" rfl rfl rfl rfl
    fun k token h => by obtain h | ⟨⟨t, ht⟩, -⟩ := h <;> contradiction)
  have h₅ := h₄.snoc (@Step.commit ℕ _ .clear _ 0 (.resetRequested (some 2)) rfl)
  -- the second request invalidates what the first one has issued
  have h₆ := h₅.snoc
    (@Step.requestReset ℕ _ .clear _ 1 "ada" (some (1, ⟨"ada", true, "secret"⟩)) 0 rfl ⟨rfl, rfl⟩)
  have h₇ := h₆.snoc (@Step.acquireIssuanceLock ℕ _ .clear _ 1 ⟨1, "secret", 0⟩ rfl
    fun t' h => by contradiction)
  have h₈ := h₇.snoc (@Step.scanTokens ℕ _ .clear _ 1 ⟨1, "secret", 0⟩ [2] rfl
    (scan_firstTokens ⟨1, "secret", 0⟩ rfl))
  have h₉ := h₈.snoc (@Step.invalidateRow ℕ _ .clear _ 1 ⟨1, 0, none, .issue ⟨1, "secret", 0⟩⟩ 2 []
    (resetToken 2 "raw") rfl (.inl rfl) rfl ⟨rfl, ⟨rfl, rfl⟩, fun id h => by contradiction⟩)
  have hdigest (k : Uuid) (token : PasswordResetToken)
      (h : (firstTokens.write 1 2 (some invalidatedToken)).Version k token) :
      token.tokenDigest ≠ "again" := by
    obtain hfirst | ⟨-, rfl⟩ := Table.version_write h
    · rw [(version_firstTokens hfirst).2]
      decide
    · decide
  have h₁₀ := h₉.snoc (@Step.insertToken ℕ _ .clear _ 1 ⟨1, 0, none, .issue ⟨1, "secret", 0⟩⟩
    ⟨1, "secret", 0⟩ 3 "again" rfl rfl rfl rfl hdigest)
  have h₁₁ := h₁₀.snoc (@Step.commit ℕ _ .clear _ 1 (.resetRequested (some 3)) rfl)
  -- and the token of the second one is confirmed
  have h₁₂ := h₁₁.snoc (@Step.lockToken ℕ _ .clear _ 2 3 "again" "correct horse battery staple"
    (resetToken 3 "again") 0 rfl (.inl rfl) rfl rfl)
  have h₁₃ := h₁₂.snoc (@Step.findUser ℕ _ .clear _ 2 (resetToken 3 "again") 0
    "correct horse battery staple" rfl)
  have h₁₄ := h₁₃.snoc (@Step.checkResetToken ℕ _ .clear _ 2 (resetToken 3 "again") 0 "ada"
    "correct horse battery staple" "correct horse battery staple"
    (some (1, ⟨"ada", true, "secret"⟩)) rfl ⟨rfl, rfl⟩ (by decide))
  have h₁₅ := h₁₄.snoc (@Step.swap ℕ _ .clear _ 2 resetReplacement ⟨"ada", true, "secret"⟩ 0 rfl
    (.inl rfl) rfl rfl)
  have h₁₆ := h₁₅.snoc (@Step.markUsed ℕ _ .clear _ 2 resetReplacement (resetToken 3 "again")
    (resetToken 3 "again") 0 rfl rfl (.inr rfl) rfl ⟨rfl, rfl⟩)
  have h₁₇ :=
    h₁₆.snoc (@Step.scanSiblings ℕ _ .clear _ 2 resetReplacement (resetToken 3 "again") 0 []
    rfl rfl (scan_consumedTokens resetReplacement))
  have h₁₈ := h₁₇.snoc (@Step.siblingsInvalidated ℕ _ .clear _ 2
    ⟨1, 0, some 3, .endSessions resetReplacement⟩ resetReplacement rfl rfl)
  have h₁₉ := h₁₈.snoc (@Step.scanSessions ℕ _ .clear _ 2 (.replaced resetReplacement)
    "password_reset" 0 [] rfl fun k =>
      iff_of_false List.not_mem_nil (by rintro ⟨session, hview, -⟩; contradiction))
  have h₂₀ := h₁₉.snoc (@Step.sessionsRevoked ℕ _ .clear _ 2 (.replaced resetReplacement)
    "password_reset" 0 rfl)
  have h₂₁ := h₂₀.snoc (@Step.commit ℕ _ .clear _ 2 (.replaced resetReplacement) rfl)
  exact ⟨_, h₂₁, rfl, rfl⟩

/-- Two requests and a confirmation of the second token; the first one can never be confirmed. -/
theorem reset_tokens_exclusive_requested : ∃ s : State ℕ,
    Run (Step .clear) (State.start (.single 1 "ada" "secret"))
      [0, 0, 0, 0, 0, 1, 1, 1, 1, 1, 1, 2, 2, 2, 2, 2, 2, 2, 2, 2, 2] s ∧
    (resetToken 3 "again", 0) ∈ s.confirmations ∧
    s.resetTokens.committed 3 = some { resetToken 3 "again" with usedAt := some 0 } ∧
    ∀ ts' s', Run (Step .clear) s ts' s' → ∀ token now, (token, now) ∈ s'.confirmations →
      token.id ≠ 2 := by
  obtain ⟨s, hrun, hlog, hinvalidated⟩ := confirmed_run
  obtain ⟨-, -, hconfirmed, hnever⟩ := reset_tokens_exclusive hrun
  have hmem : (resetToken 3 "again", (0 : Timestamp)) ∈ s.confirmations := by
    unfold State.confirmations
    rw [hlog]
    exact List.mem_singleton_self _
  refine ⟨s, hrun, hmem, (hconfirmed _ _ hmem).2.2, fun ts' s' hrun' => ?_⟩
  exact hnever ts' s' 2 invalidatedToken hrun' hinvalidated (by decide)

end OpsFlow.Auth
