import OpsFlow.Auth.Sessions
import OpsFlow.Library.History

namespace OpsFlow.Auth
open RowStore

variable {τ : Type}

/-- A token that no session has had yet, and that its session is about to get. -/
structure Unborn (s : State τ) (k jti : Uuid) : Prop where
  issued : ∃ token ∈ s.refreshTokens, token.sessionId = k ∧ token.tokenId = jti
  notSpent : ∀ k' new, .rotated k' jti new ∉ s.log
  notCurrent : ∀ k' row, s.sessions.committed k' = some row → row.currentJti ≠ jti

def Answer.spent? : Answer → Option Uuid
  | .rotated _ old _ => some old
  | _ => none

structure State.SessionInv (s : State τ) : Prop where
  roles : ∀ t, (s.txs t).sessionRole.Holds s.sessions t
  tokens : ∀ t, (s.txs t).HasCurrentToken
  ids : ∀ k row, s.sessions.committed k = some row → row.id = k
  tokenIds : (s.refreshTokens.map RefreshToken.tokenId).Nodup
  owned : ∀ k row, s.sessions.committed k = some row →
    ∃ token ∈ s.refreshTokens, token.sessionId = k ∧ token.tokenId = row.currentJti
  unborn : ∀ t k jti, (s.txs t).sessionRole.newToken? = some (k, jti) → Unborn s k jti
  spent : ∀ k old new, .rotated k old new ∈ s.log →
    (∃ token ∈ s.refreshTokens, token.sessionId = k ∧ token.tokenId = old) ∧
      ∀ k' row, s.sessions.committed k' = some row → row.currentJti ≠ old
  once : (s.log.filterMap Answer.spent?).Nodup

/-! ## One step -/

namespace State.SessionInv

variable {s s' : State τ} {t : τ} {x : Tx}

/-- A step that commits nothing: the rows of the other transactions are undisturbed, and every
token that it makes is new. -/
theorem move [DecidableEq τ] (hi : s.SessionInv) (htxs : s'.txs = Function.update s.txs t x)
    (hothers : ∀ t', t' ≠ t → Table.Undisturbed t' s.sessions s'.sessions)
    (hcommitted : s'.sessions.committed = s.sessions.committed) (hlog : s'.log = s.log)
    (hissued : ∀ token ∈ s.refreshTokens, token ∈ s'.refreshTokens)
    (htokenIds : (s'.refreshTokens.map RefreshToken.tokenId).Nodup)
    (hrole : x.sessionRole.Holds s'.sessions t) (htoken : x.HasCurrentToken)
    (hnew : ∀ k jti, x.sessionRole.newToken? = some (k, jti) → Unborn s' k jti) :
    s'.SessionInv := by
  refine ⟨fun t' => ?_, fun t' => ?_, ?_, htokenIds, ?_, fun t' k jti h => ?_, ?_, ?_⟩
  · rw [htxs]
    by_cases h : t' = t
    · subst h
      rw [Function.update_self]
      exact hrole
    · rw [Function.update_of_ne h]
      exact (hi.roles t').frame (hothers t' h)
  · rw [htxs]
    by_cases h : t' = t
    · subst h
      rw [Function.update_self]
      exact htoken
    · rw [Function.update_of_ne h]
      exact hi.tokens t'
  · rw [hcommitted]
    exact hi.ids
  · intro k row hrow
    rw [hcommitted] at hrow
    obtain ⟨token, hmem, hrest⟩ := hi.owned k row hrow
    exact ⟨token, hissued token hmem, hrest⟩
  · rw [htxs] at h
    by_cases ht : t' = t
    · subst ht
      rw [Function.update_self] at h
      exact hnew k jti h
    · rw [Function.update_of_ne ht] at h
      obtain ⟨⟨token, hmem, hrest⟩, hspent, hcurrent⟩ := hi.unborn t' k jti h
      refine ⟨⟨token, hissued token hmem, hrest⟩, ?_, ?_⟩
      · rw [hlog]
        exact hspent
      · rw [hcommitted]
        exact hcurrent
  · intro k old new h
    rw [hlog] at h
    obtain ⟨⟨token, hmem, hrest⟩, hcurrent⟩ := hi.spent k old new h
    refine ⟨⟨token, hissued token hmem, hrest⟩, ?_⟩
    rw [hcommitted]
    exact hcurrent
  · rw [hlog]
    exact hi.once

/-- A statement that takes no lock and makes no token. -/
theorem still [DecidableEq τ] (hi : s.SessionInv) (htxs : s'.txs = Function.update s.txs t x)
    (hsessions : s'.sessions = s.sessions) (htokens : s'.refreshTokens = s.refreshTokens)
    (hlog : s'.log = s.log) (hrole : x.sessionRole.Holds s.sessions t) (htoken : x.HasCurrentToken)
    (hnew : ∀ k jti, x.sessionRole.newToken? = some (k, jti) →
      (s.txs t).sessionRole.newToken? = some (k, jti)) : s'.SessionInv := by
  refine hi.move htxs ?_ (by rw [hsessions]) hlog (by simp [htokens]) ?_ ?_ htoken ?_
  · intro t' _
    rw [hsessions]
    exact Table.undisturbed_refl t' s.sessions
  · rw [htokens]
    exact hi.tokenIds
  · rw [hsessions]
    exact hrole
  · intro k jti h
    obtain ⟨hissued, hspent, hcurrent⟩ := hi.unborn t k jti (hnew k jti h)
    refine ⟨?_, ?_, ?_⟩
    · rw [htokens]
      exact hissued
    · rw [hlog]
      exact hspent
    · rw [hsessions]
      exact hcurrent

/-- A write to the sessions that makes no token. -/
theorem write [DecidableEq τ] (hi : s.SessionInv) {k : Uuid} {row : Option AuthSession}
    (hfree : s.sessions.Free t k) (htxs : s'.txs = Function.update s.txs t x)
    (hsessions : s'.sessions = s.sessions.write t k row)
    (htokens : s'.refreshTokens = s.refreshTokens) (hlog : s'.log = s.log)
    (hrole : x.sessionRole.Holds s'.sessions t) (htoken : x.HasCurrentToken)
    (hnew : x.sessionRole.newToken? = none) : s'.SessionInv := by
  refine hi.move htxs ?_ (by rw [hsessions]; rfl) hlog (by simp [htokens]) ?_ hrole htoken ?_
  · intro t' ht'
    rw [hsessions]
    exact Table.undisturbed_write hfree ht'
  · rw [htokens]
    exact hi.tokenIds
  · intro k jti h
    rw [hnew] at h
    contradiction

theorem hasCurrentToken_of_outside (hx : x.sessionRole = .outside) : x.HasCurrentToken := by
  cases x <;> trivial

theorem rollback [DecidableEq τ] (hi : s.SessionInv) (hx : x.sessionRole = .outside) :
    (s.rollback t x).SessionInv := by
  refine hi.move rfl (fun t' ht' => Table.undisturbed_rollback ht') rfl rfl (fun _ h => h)
    hi.tokenIds ?_ (hasCurrentToken_of_outside hx) fun k jti h => ?_
  · rw [hx]
    exact Table.holdsNothing_rollback
  · rw [hx] at h
    contradiction

/-- The end of a transaction that has changed no session. -/
theorem commitClean [DecidableEq τ] (hi : s.SessionInv) (hclean : s.sessions.Clean t)
    (hx : x.sessionRole = .outside) : (s.commit t x).SessionInv := by
  refine hi.move rfl (fun t' ht' => Table.undisturbed_commit ht') hclean.committed_commit rfl
    (fun _ h => h) hi.tokenIds ?_ (hasCurrentToken_of_outside hx) fun k jti h => ?_
  · rw [hx]
    exact Table.holdsNothing_commit
  · rw [hx] at h
    contradiction

theorem eq_of_tokenId (hi : s.SessionInv) {a b : RefreshToken} (ha : a ∈ s.refreshTokens)
    (hb : b ∈ s.refreshTokens) (h : a.tokenId = b.tokenId) : a = b :=
  List.inj_on_of_nodup_map hi.tokenIds ha hb h

/-- A token is that of one session only. -/
theorem eq_of_currentJti (hi : s.SessionInv) {k k' : Uuid} {row row' : AuthSession}
    (hrow : s.sessions.committed k = some row) (hrow' : s.sessions.committed k' = some row')
    (h : row.currentJti = row'.currentJti) : k = k' := by
  obtain ⟨a, ha, hak, haj⟩ := hi.owned k row hrow
  obtain ⟨b, hb, hbk, hbj⟩ := hi.owned k' row' hrow'
  have hab := hi.eq_of_tokenId ha hb (by rw [haj, hbj, h])
  rw [← hak, ← hbk, hab]

theorem nodup_append (hi : s.SessionInv) {token : RefreshToken}
    (hfresh : ∀ a ∈ s.refreshTokens, a.tokenId ≠ token.tokenId) :
    ((s.refreshTokens ++ [token]).map RefreshToken.tokenId).Nodup := by
  rw [List.map_append, List.nodup_append]
  refine ⟨hi.tokenIds, List.nodup_singleton _, ?_⟩
  intro a ha b hb
  obtain ⟨old, hmem, rfl⟩ := List.mem_map.mp ha
  obtain rfl := List.mem_singleton.mp hb
  exact hfresh old hmem

/-- A fresh token has been nowhere yet. -/
theorem unborn_append (hi : s.SessionInv) (token : RefreshToken)
    (hfresh : ∀ a ∈ s.refreshTokens, a.tokenId ≠ token.tokenId)
    (htokens : s'.refreshTokens = s.refreshTokens ++ [token]) (hlog : s'.log = s.log)
    (hcommitted : s'.sessions.committed = s.sessions.committed) :
    Unborn s' token.sessionId token.tokenId := by
  refine ⟨⟨token, ?_, rfl, rfl⟩, ?_, ?_⟩
  · rw [htokens]
    exact List.mem_append_right _ List.mem_cons_self
  · intro k' new hspent
    rw [hlog] at hspent
    obtain ⟨⟨old, hmem, -, hid⟩, -⟩ := hi.spent k' token.tokenId new hspent
    exact hfresh old hmem hid
  · intro k' row hrow
    rw [hcommitted] at hrow
    obtain ⟨old, hmem, -, hid⟩ := hi.owned k' row hrow
    rw [← hid]
    exact hfresh old hmem

section Statements
variable [DecidableEq τ]

/-- What a transaction sees of the row that it has locked. -/
theorem view_locked (hi : s.SessionInv) {session row : AuthSession}
    (hp : (s.txs t).sessionRole = .locked session)
    (hview : s.sessions.view t session.id = some row) : row = session := by
  have h := hi.roles t
  rw [hp] at h
  obtain ⟨hclean, -, hcommitted, -⟩ := h
  rw [hclean.view, hcommitted] at hview
  exact (Option.some.inj hview).symm

/-- The next row of a many-row UPDATE or DELETE: revoked, or removed if `row'` is `none`. -/
theorem sweep {S : Table τ Uuid AuthSession} {k : Uuid} {session : AuthSession}
    {row' : Option AuthSession} (h : SessionRole.Holds S t .sweeping)
    (hview : S.view t k = some session)
    (hrow : ∀ r ∈ row', session.revokedAt = none ∧ ∃ now reason, r = session.revoke now reason) :
    SessionRole.Holds (S.write t k row') t .sweeping := by
  intro k' r hk' hr
  by_cases hk : k' = k
  · subst hk
    have hr' : row' = some r := by
      rw [← hr]
      exact Table.pending_write_self.symm
    obtain ⟨hlive, now, reason, rfl⟩ := hrow r hr'
    -- a row that the sweep has revoked before would not be revocable
    have hcommitted : S.committed k' = some session := by
      by_cases hholder : S.holder k' = some t
      · rw [Table.view_of_holder hholder] at hview
        obtain ⟨row, hrow, rfl | ⟨now', reason', rfl⟩⟩ := h k' session hholder hview
        · exact hrow
        · exact absurd hlive (AuthSession.revokedAt_revoke row now' reason')
      · rw [← hview, Table.view_of_not_holder hholder]
    exact ⟨session, hcommitted, .inr ⟨now, reason, rfl⟩⟩
  · rw [Table.holder_write_of_ne hk] at hk'
    rw [Table.pending_write_of_ne hk] at hr
    exact h k' r hk' hr

/-- A committed row has the token of the row before it, or the one that the transaction made. -/
theorem row_of_commit (hi : s.SessionInv) {k : Uuid} {row' : AuthSession}
    (h : s.sessions.view t k = some row') :
    (∃ row, s.sessions.committed k = some row ∧ row'.id = row.id ∧
        row'.currentJti = row.currentJti) ∨
      ((s.txs t).sessionRole.newToken? = some (k, row'.currentJti) ∧ row'.id = k) := by
  by_cases hholder : s.sessions.holder k = some t
  · rw [Table.view_of_holder hholder] at h
    have hrole := hi.roles t
    cases hr : (s.txs t).sessionRole with
    | outside =>
      rw [hr] at hrole
      exact absurd hholder (hrole k)
    | clean =>
      rw [hr] at hrole
      rw [hrole k hholder] at h
      exact .inl ⟨row', h, rfl, rfl⟩
    | locked session =>
      rw [hr] at hrole
      rw [hrole.1 k hholder] at h
      exact .inl ⟨row', h, rfl, rfl⟩
    | inserted k' jti =>
      rw [hr] at hrole
      obtain ⟨honly, -, row, hrow, hid, hjti⟩ := hrole
      obtain rfl := (honly k).mp hholder
      obtain rfl : row = row' := Option.some.inj (hrow.symm.trans h)
      exact .inr ⟨by simp [SessionRole.newToken?, hjti], hid⟩
    | rotated k' old new =>
      rw [hr] at hrole
      obtain ⟨honly, row, now, hrow, -, -, hpending⟩ := hrole
      obtain rfl := (honly k).mp hholder
      obtain rfl : row.withToken new now = row' := Option.some.inj (hpending.symm.trans h)
      exact .inr ⟨rfl, hi.ids k row hrow⟩
    | revoked k' =>
      rw [hr] at hrole
      obtain ⟨honly, row, now, reason, hrow, hpending⟩ := hrole
      obtain rfl := (honly k).mp hholder
      obtain rfl : row.revoke now reason = row' := Option.some.inj (hpending.symm.trans h)
      exact .inl ⟨row, hrow, by simp, AuthSession.currentJti_revoke row now reason⟩
    | sweeping =>
      rw [hr] at hrole
      obtain ⟨row, hrow, rfl | ⟨now, reason, rfl⟩⟩ := hrole k row' hholder h
      · exact .inl ⟨row', hrow, rfl, rfl⟩
      · exact .inl ⟨row, hrow, by simp, AuthSession.currentJti_revoke row now reason⟩
  · rw [Table.view_of_not_holder hholder] at h
    exact .inl ⟨row', h, rfl, rfl⟩

/-- A rotation that is about to be committed consumes the current token. -/
theorem current_of_rotated (hi : s.SessionInv) {k old new : Uuid}
    (hp : s.txs t = .done (.rotated k old new)) :
    ∃ row now, s.sessions.committed k = some row ∧ row.currentJti = old ∧ row.revokedAt = none ∧
      s.sessions.view t k = some (row.withToken new now) := by
  have h := hi.roles t
  rw [hp] at h
  obtain ⟨honly, row, now, hrow, hold, hlive, hpending⟩ := h
  exact ⟨row, now, hrow, hold, hlive, by rw [Table.view_of_holder honly.holder, hpending]⟩

/-- A token that another transaction is about to give to its session stays new at a commit. -/
theorem unborn_commit (hi : s.SessionInv) {answer : Answer} (hp : s.txs t = .done answer) {t' : τ}
    (ht : t' ≠ t) {k jti : Uuid} (h : (s.txs t').sessionRole.newToken? = some (k, jti)) :
    Unborn { s.commit t (.committed answer) with log := s.log ++ [answer] } k jti := by
  have hunborn := hi.unborn t' k jti h
  refine ⟨hunborn.issued, fun k' new hlog => ?_, fun k' row' hrow' => ?_⟩
  · obtain hlog | hlog := List.mem_append.mp hlog
    · exact hunborn.notSpent k' new hlog
    · have hdone : s.txs t = .done (.rotated k' jti new) := by
        rw [hp, List.mem_singleton.mp hlog]
      obtain ⟨row, -, hrow, hcurrent, -⟩ := hi.current_of_rotated hdone
      exact hunborn.notCurrent k' row hrow hcurrent
  · obtain ⟨row, hrow, -, hjti⟩ | ⟨hnew, -⟩ := hi.row_of_commit hrow'
    · rw [hjti]
      exact hunborn.notCurrent k' row hrow
    · -- two transactions cannot be about to give the same token to a session
      intro hsame
      rw [hsame] at hnew
      obtain ⟨a, ha, hak, haj⟩ := hunborn.issued
      obtain ⟨b, hb, hbk, hbj⟩ := (hi.unborn t k' jti hnew).issued
      obtain rfl : a = b := hi.eq_of_tokenId ha hb (haj.trans hbj.symm)
      have hholder := (hi.roles t').holder_of_newToken h
      have hholder' := (hi.roles t).holder_of_newToken hnew
      rw [← hbk, hak, hholder] at hholder'
      exact ht (Option.some.inj hholder')

/-- A token that has been consumed before a commit is no row's token after it. -/
theorem notCurrent_commit (hi : s.SessionInv) {k old new k' : Uuid} {row' : AuthSession}
    (h : .rotated k old new ∈ s.log) (hrow' : s.sessions.view t k' = some row') :
    row'.currentJti ≠ old := by
  obtain ⟨row, hrow, -, hjti⟩ | ⟨hnew, -⟩ := hi.row_of_commit hrow'
  · rw [hjti]
    exact (hi.spent k old new h).2 k' row hrow
  · intro hsame
    rw [hsame] at hnew
    exact (hi.unborn t k' old hnew).notSpent k new h

/-- A rotation that is committed consumes the token of its session, and no row has it any more. -/
theorem spent_commit (hi : s.SessionInv) {k old new : Uuid}
    (hp : s.txs t = .done (.rotated k old new)) :
    (∃ token ∈ s.refreshTokens, token.sessionId = k ∧ token.tokenId = old) ∧
      ∀ k' row', s.sessions.view t k' = some row' → row'.currentJti ≠ old := by
  obtain ⟨row, now, hrow, hold, -, hview⟩ := hi.current_of_rotated hp
  have hunborn : Unborn s k new := hi.unborn t k new (by rw [hp]; rfl)
  refine ⟨?_, fun k' row' hrow' hsame => ?_⟩
  · obtain ⟨token, hmem, hk, hjti⟩ := hi.owned k row hrow
    exact ⟨token, hmem, hk, hjti.trans hold⟩
  obtain ⟨row'', hrow'', -, hjti⟩ | ⟨hnew, -⟩ := hi.row_of_commit hrow'
  · -- only the row of the session had the token, and it has the new one now
    obtain rfl : k = k' := hi.eq_of_currentJti hrow hrow'' (by rw [hold, ← hjti, hsame])
    obtain rfl : row.withToken new now = row' := Option.some.inj (hview.symm.trans hrow')
    exact hunborn.notCurrent k row hrow (hold.trans hsame.symm)
  · rw [hsame] at hnew
    exact (hi.unborn t k' old hnew).notCurrent k row hrow hold

/-- No token is consumed twice: the second rotation would find it current. -/
theorem once_commit (hi : s.SessionInv) {answer : Answer} (hp : s.txs t = .done answer) :
    ((s.log ++ [answer]).filterMap Answer.spent?).Nodup := by
  refine History.nodup_filterMap_snoc hi.once fun earlier hearlier old hspent hspent' => ?_
  cases earlier with
  | rotated k old' new =>
    obtain rfl : old' = old := Option.some.inj hspent
    cases answer with
    | rotated k' old new' =>
      obtain rfl : old = old' := Option.some.inj hspent'
      obtain ⟨row, -, hrow, hcurrent, -⟩ := hi.current_of_rotated hp
      exact (hi.spent k old new hearlier).2 k' row hrow hcurrent
    | _ => contradiction
  | _ => contradiction

theorem commit (hi : s.SessionInv) {answer : Answer} (hp : s.txs t = .done answer) :
    SessionInv { s.commit t (.committed answer) with log := s.log ++ [answer] } := by
  refine ⟨fun t' => ?_, fun t' => ?_, fun k row' h => ?_, hi.tokenIds, fun k row' h => ?_,
    fun t' k jti h => ?_, fun k old new h => ?_, hi.once_commit hp⟩
  · by_cases ht : t' = t
    · subst ht
      show ((Function.update s.txs t' (.committed answer) t').sessionRole).Holds _ t'
      rw [Function.update_self]
      exact Table.holdsNothing_commit
    · show ((Function.update s.txs t (.committed answer) t').sessionRole).Holds _ t'
      rw [Function.update_of_ne ht]
      exact (hi.roles t').frame (Table.undisturbed_commit ht)
  · show (Function.update s.txs t (.committed answer) t').HasCurrentToken
    by_cases ht : t' = t
    · subst ht
      rw [Function.update_self]
      trivial
    · rw [Function.update_of_ne ht]
      exact hi.tokens t'
  · obtain ⟨row, hrow, hid, -⟩ | ⟨-, hid⟩ := hi.row_of_commit h
    · rw [hid, hi.ids k row hrow]
    · exact hid
  · obtain ⟨row, hrow, -, hjti⟩ | ⟨hnew, -⟩ := hi.row_of_commit h
    · rw [hjti]
      exact hi.owned k row hrow
    · exact (hi.unborn t k _ hnew).issued
  · have ht : t' ≠ t := by
      rintro rfl
      simp [State.commit, Tx.sessionRole, SessionRole.newToken?] at h
    have h' : (s.txs t').sessionRole.newToken? = some (k, jti) := by
      simpa [State.commit, Function.update_of_ne ht] using h
    exact hi.unborn_commit hp ht h'
  · obtain h | h := List.mem_append.mp h
    · exact ⟨(hi.spent k old new h).1, fun k' row' => hi.notCurrent_commit h⟩
    · exact hi.spent_commit (by rw [hp, List.mem_singleton.mp h])

theorem sessionMove (hi : s.SessionInv) (htxs : s'.txs = Function.update s.txs t x)
    (hlog : s'.log = s.log) (hmove : SessionMove s t s' x) : s'.SessionInv := by
  have hrole := hi.roles t
  have htoken := hi.tokens t
  cases hmove with
  | stays hsessions htokens hx hcurrent =>
    refine hi.still htxs hsessions htokens hlog ?_ (hcurrent htoken) fun k jti h => ?_
    · rw [hx]
      exact hrole
    · rw [hx] at h
      exact h
  | fails hsessions htokens hx hcurrent hp =>
    -- whoever fails has locked a session at most
    have hclean : s.sessions.Clean t := by
      obtain hp | ⟨session, hp⟩ := hp
      · rw [hp] at hrole
        exact Table.HoldsNothing.clean hrole
      · rw [hp] at hrole
        exact hrole.1
    refine hi.still htxs hsessions htokens hlog ?_ hcurrent fun k jti h => ?_
    · rw [hx]
      exact hclean
    · rw [hx] at h
      contradiction
  | scans hp hx hcurrent hsessions htokens =>
    rw [hp] at hrole
    refine hi.still htxs hsessions htokens hlog ?_ hcurrent fun k jti h => ?_
    · rw [hx]
      exact fun k row hk _ => absurd hk (hrole k)
    · rw [hx] at h
      contradiction
  | @locks claims session hp hclaims hfree hview hsessions htokens hcurrent hx =>
    rw [hp] at hrole
    have hnothing : s.sessions.HoldsNothing t := hrole
    have hcommitted : s.sessions.committed claims.sessionId = some session := by
      rw [← hnothing.view, hview]
    have hid := hi.ids _ _ hcommitted
    obtain hx | ⟨hx, hlive, -⟩ := hx
    · refine hi.write hfree htxs hsessions htokens hlog ?_ hcurrent (by rw [hx]; rfl)
      rw [hx, hsessions]
      exact hnothing.clean_acquire
    · refine hi.write hfree htxs hsessions htokens hlog ?_ hcurrent (by rw [hx]; rfl)
      rw [hx, hsessions]
      refine ⟨hnothing.clean_acquire, ?_, ?_, hlive⟩
      · rw [hid]
        exact hnothing.write
      · rw [hid]
        exact hcommitted
  | @issues token row hp habsent hholder hfresh hid hjti _ hx hcurrent hsessions htokens =>
    rw [hp] at hrole
    have hnothing : s.sessions.HoldsNothing t := hrole
    have hnew : ∀ old ∈ s.refreshTokens, old.tokenId ≠ token.tokenId :=
      fun old h => (hfresh old h).2
    refine hi.move htxs ?_ (by rw [hsessions]; rfl) hlog ?_ ?_ ?_ hcurrent ?_
    · intro t' ht'
      rw [hsessions]
      exact Table.undisturbed_write (.inl hholder) ht'
    · intro old h
      rw [htokens]
      exact List.mem_append_left _ h
    · rw [htokens]
      exact hi.nodup_append hnew
    · rw [hx, hsessions]
      exact ⟨hnothing.write, habsent, row, Table.pending_write_self, hid, hjti⟩
    · intro k jti h
      rw [hx] at h
      obtain ⟨rfl, rfl⟩ := Prod.mk.inj (Option.some.inj h)
      exact hi.unborn_append token hnew htokens hlog (by rw [hsessions]; rfl)
  | @revokes session row now reason hp hfree hview hx hcurrent hsessions htokens =>
    obtain rfl := hi.view_locked hp hview
    rw [hp] at hrole
    obtain ⟨-, honly, hcommitted, -⟩ := hrole
    refine hi.write hfree htxs hsessions htokens hlog ?_ hcurrent (by rw [hx]; rfl)
    rw [hx, hsessions]
    exact ⟨honly.write, row, now, reason, hcommitted, Table.pending_write_self⟩
  | @rotates claims token session row now hp _ hold hfree hview hfresh hk _ hx hcurrent hsessions
      htokens =>
    obtain rfl := hi.view_locked hp hview
    rw [hp] at hrole
    obtain ⟨-, honly, hcommitted, hlive⟩ := hrole
    refine hi.move htxs ?_ (by rw [hsessions]; rfl) hlog ?_ ?_ ?_ hcurrent ?_
    · intro t' ht'
      rw [hsessions]
      exact Table.undisturbed_write hfree ht'
    · intro old h
      rw [htokens]
      exact List.mem_append_left _ h
    · rw [htokens]
      exact hi.nodup_append hfresh
    · rw [hx, hsessions]
      exact ⟨honly.write, row, now, hcommitted, hold htoken, hlive, Table.pending_write_self⟩
    · intro k jti h
      rw [hx] at h
      obtain ⟨rfl, rfl⟩ := Prod.mk.inj (Option.some.inj h)
      rw [← hk]
      exact hi.unborn_append token hfresh htokens hlog (by rw [hsessions]; rfl)
  | @sweeps k session row' hp hx hcurrent hfree hview hrow hsessions htokens =>
    rw [hp] at hrole
    refine hi.write hfree htxs hsessions htokens hlog ?_ hcurrent (by rw [hx]; rfl)
    rw [hx, hsessions]
    exact sweep hrole hview hrow

/-- One step. -/
theorem step {sec : Security} (hi : s.SessionInv) (h : Step sec s t s') : s'.SessionInv := by
  obtain ⟨x, htxs, hlog, -, hmove⟩ | hend := h.sessionMove
  · exact hi.sessionMove htxs hlog hmove
  have hrole := hi.roles t
  cases hend with
  | commit hp => exact hi.commit hp
  | close hp =>
    rw [hp] at hrole
    exact hi.commitClean hrole rfl
  | rollback hx =>
    obtain rfl | ⟨error, rfl⟩ := hx
    · exact hi.rollback rfl
    · exact hi.rollback rfl

omit [DecidableEq τ] in
theorem start (accounts : Accounts) : (State.start accounts : State τ).SessionInv where
  roles _ := fun k hk => by contradiction
  tokens _ := trivial
  ids _ _ h := by contradiction
  tokenIds := List.nodup_nil
  owned _ _ h := by contradiction
  unborn _ _ _ h := by contradiction
  spent _ _ _ h := by contradiction
  once := List.nodup_nil

end Statements

end State.SessionInv

/-! ## Whose a token is -/

structure State.OwnerInv (s : State τ) : Prop where
  presented : ∀ t claims, (s.txs t).claims? = some claims → claims ∈ s.refreshTokens
  named : ∀ t claims session, (s.txs t).claims? = some claims →
    (s.txs t).sessionRole = .locked session → claims.sessionId = session.id
  family : ∀ a ∈ s.refreshTokens, ∀ b ∈ s.refreshTokens, a.sessionId = b.sessionId →
    a.userId = b.userId
  rows : ∀ k row, s.sessions.Version k row → ∀ token ∈ s.refreshTokens, token.sessionId = k →
    token.userId = row.userId

namespace State.OwnerInv

variable [DecidableEq τ] {s s' : State τ} {t : τ} {x : Tx}

/-- A step that makes no token. -/
theorem move (hi : s.OwnerInv) (htxs : s'.txs = Function.update s.txs t x)
    (htokens : s'.refreshTokens = s.refreshTokens)
    (hclaims : ∀ c, x.claims? = some c → c ∈ s.refreshTokens)
    (hnamed : ∀ c session, x.claims? = some c → x.sessionRole = .locked session →
      c.sessionId = session.id)
    (hrows : ∀ k row, s'.sessions.Version k row →
      ∃ row₀, s.sessions.Version k row₀ ∧ row.userId = row₀.userId) : s'.OwnerInv := by
  refine ⟨fun t' claims h => ?_, fun t' claims session h hlocked => ?_, ?_, ?_⟩
  · rw [htokens]
    rw [htxs] at h
    by_cases ht : t' = t
    · subst ht
      rw [Function.update_self] at h
      exact hclaims claims h
    · rw [Function.update_of_ne ht] at h
      exact hi.presented t' claims h
  · rw [htxs] at h hlocked
    by_cases ht : t' = t
    · subst ht
      rw [Function.update_self] at h hlocked
      exact hnamed claims session h hlocked
    · rw [Function.update_of_ne ht] at h hlocked
      exact hi.named t' claims session h hlocked
  · rw [htokens]
    exact hi.family
  · intro k row hversion token hmem hk
    rw [htokens] at hmem
    obtain ⟨row₀, hversion₀, huser⟩ := hrows k row hversion
    rw [huser]
    exact hi.rows k row₀ hversion₀ token hmem hk

/-- A step that makes one token, for the user that the others of its session have. -/
theorem make (hi : s.OwnerInv) {token : RefreshToken} (htxs : s'.txs = Function.update s.txs t x)
    (htokens : s'.refreshTokens = s.refreshTokens ++ [token]) (hclaims : x.claims? = none)
    (hfamily : ∀ a ∈ s.refreshTokens, a.sessionId = token.sessionId → a.userId = token.userId)
    (hrows : ∀ k row, s'.sessions.Version k row →
      (∀ a ∈ s.refreshTokens, a.sessionId = k → a.userId = row.userId) ∧
        (token.sessionId = k → token.userId = row.userId)) : s'.OwnerInv := by
  have hnone (t' : τ) (claims : RefreshToken) (h : (s'.txs t').claims? = some claims) :
      t' ≠ t ∧ (s.txs t').claims? = some claims := by
    rw [htxs] at h
    by_cases ht : t' = t
    · subst ht
      rw [Function.update_self, hclaims] at h
      contradiction
    · rw [Function.update_of_ne ht] at h
      exact ⟨ht, h⟩
  refine ⟨fun t' claims h => ?_, fun t' claims session h hlocked => ?_, ?_, ?_⟩
  · rw [htokens]
    exact List.mem_append_left _ (hi.presented t' claims (hnone t' claims h).2)
  · obtain ⟨ht, h⟩ := hnone t' claims h
    rw [htxs, Function.update_of_ne ht] at hlocked
    exact hi.named t' claims session h hlocked
  · intro a ha b hb hab
    rw [htokens, List.mem_append, List.mem_singleton] at ha hb
    obtain holda | rfl := ha
    · obtain holdb | rfl := hb
      · exact hi.family a holda b holdb hab
      · exact hfamily a holda hab
    · obtain holdb | rfl := hb
      · exact (hfamily b holdb hab.symm).symm
      · rfl
  · intro k row hversion a ha hk
    rw [htokens] at ha
    obtain ⟨hold, hnew⟩ := hrows k row hversion
    rw [List.mem_append, List.mem_singleton] at ha
    obtain holda | rfl := ha
    · exact hold a holda hk
    · exact hnew hk

theorem sessionMove (hi : s.OwnerInv) (hs : s.SessionInv)
    (htxs : s'.txs = Function.update s.txs t x)
    (hclaims : ∀ c, x.claims? = some c → (s.txs t).claims? = some c ∨
      ((s.txs t).sessionRole = .outside ∧ c ∈ s.refreshTokens))
    (hmove : SessionMove s t s' x) : s'.OwnerInv := by
  have hpresented : ∀ c, x.claims? = some c → c ∈ s.refreshTokens := by
    intro c hc
    obtain h | ⟨-, h⟩ := hclaims c hc
    · exact hi.presented t c h
    · exact h
  have hrole := hs.roles t
  cases hmove with
  | stays hsessions htokens hx _ =>
    refine hi.move htxs htokens hpresented (fun c session hc hlocked => ?_) fun k row h => ?_
    · rw [hx] at hlocked
      obtain h | ⟨houtside, -⟩ := hclaims c hc
      · exact hi.named t c session h hlocked
      · rw [houtside] at hlocked
        contradiction
    · rw [hsessions] at h
      exact ⟨row, h, rfl⟩
  | fails hsessions htokens hx _ _ =>
    refine hi.move htxs htokens hpresented (fun c session hc hlocked => ?_) fun k row h => ?_
    · rw [hx] at hlocked
      contradiction
    · rw [hsessions] at h
      exact ⟨row, h, rfl⟩
  | scans _ hx _ hsessions htokens =>
    refine hi.move htxs htokens hpresented (fun c session hc hlocked => ?_) fun k row h => ?_
    · rw [hx] at hlocked
      contradiction
    · rw [hsessions] at h
      exact ⟨row, h, rfl⟩
  | @locks claims session hp _ hfree hview hsessions htokens _ hx =>
    refine hi.move htxs htokens hpresented (fun c session' hc hlocked => ?_) fun k row h => ?_
    · obtain hx | ⟨hx, -, hsame⟩ := hx
      · rw [hx] at hlocked
        contradiction
      · rw [hx] at hlocked
        obtain rfl : session = session' := by simpa using hlocked
        rw [hsame c hc]
        rw [hp] at hrole
        rw [Table.HoldsNothing.view hrole] at hview
        exact (hs.ids _ _ hview).symm
    · rw [hsessions, Table.acquire, hview] at h
      obtain h | ⟨rfl, rfl⟩ := Table.version_write h
      · exact ⟨row, h, rfl⟩
      · exact ⟨row, Table.version_of_view hview, rfl⟩
  | @issues token row hp habsent hholder hfresh hid _ huser hx _ hsessions htokens =>
    -- the session is new, so that its family has this token only
    have hnone : x.claims? = none := by
      cases x <;> first | rfl | contradiction
    refine hi.make htxs htokens hnone (fun a ha hk => absurd hk (hfresh a ha).1) fun k r h => ?_
    rw [hsessions] at h
    obtain h | ⟨rfl, rfl⟩ := Table.version_write h
    · refine ⟨hi.rows k r h, ?_⟩
      rintro rfl
      obtain h | ⟨⟨t', ht'⟩, -⟩ := h
      · rw [habsent] at h
        contradiction
      · rw [hholder] at ht'
        contradiction
    · exact ⟨fun a ha hk => absurd hk (hfresh a ha).1, fun _ => huser.symm⟩
  | @revokes session row now reason _ _ hview hx _ hsessions htokens =>
    refine hi.move htxs htokens hpresented (fun c session' hc hlocked => ?_) fun k r h => ?_
    · rw [hx] at hlocked
      contradiction
    · rw [hsessions] at h
      obtain h | ⟨rfl, rfl⟩ := Table.version_write h
      · exact ⟨r, h, rfl⟩
      · exact ⟨row, Table.version_of_view hview, AuthSession.userId_revoke row now reason⟩
  | @rotates claims token session row now hp hc _ _ hview _ hk huser hx _ hsessions htokens =>
    -- the new token is of the user that the one presented has
    have hnone : x.claims? = none := by
      cases x <;> first | rfl | contradiction
    have hmem := hi.presented t claims hc
    have hnamed := hi.named t claims session hc hp
    refine hi.make htxs htokens hnone (fun a ha hak => ?_) fun k r h => ?_
    · rw [huser]
      exact hi.family a ha claims hmem (hak.trans (hk.trans hnamed.symm))
    · rw [hsessions] at h
      obtain h | ⟨rfl, rfl⟩ := Table.version_write h
      · refine ⟨hi.rows k r h, fun htoken => ?_⟩
        rw [huser]
        exact hi.rows k r h claims hmem (hnamed.trans (hk.symm.trans htoken))
      · have hold := hi.rows _ row (Table.version_of_view hview)
        refine ⟨hold, fun _ => ?_⟩
        rw [huser]
        exact hold claims hmem hnamed
  | @sweeps k row row' _ hx _ _ hview hrow hsessions htokens =>
    refine hi.move htxs htokens hpresented (fun c session' hc hlocked => ?_) fun k' r h => ?_
    · rw [hx] at hlocked
      contradiction
    · rw [hsessions] at h
      cases row' with
      | none => exact ⟨r, Table.version_write_none h, rfl⟩
      | some r' =>
        obtain h | ⟨rfl, rfl⟩ := Table.version_write h
        · exact ⟨r, h, rfl⟩
        · obtain ⟨-, now, reason, rfl⟩ := hrow r rfl
          exact ⟨row, Table.version_of_view hview, AuthSession.userId_revoke row now reason⟩

theorem step {sec : Security} (hi : s.OwnerInv) (hs : s.SessionInv) (h : Step sec s t s') :
    s'.OwnerInv := by
  obtain ⟨x, htxs, -, hclaims, hmove⟩ | hend := h.sessionMove
  · exact hi.sessionMove hs htxs hclaims hmove
  cases hend with
  | commit _ =>
    exact hi.move (x := .committed _) rfl rfl (fun _ h => by contradiction)
      (fun _ _ h => by contradiction) fun k row h => ⟨row, Table.version_commit h, rfl⟩
  | close _ =>
    exact hi.move (x := .rejected _) rfl rfl (fun _ h => by contradiction)
      (fun _ _ h => by contradiction) fun k row h => ⟨row, Table.version_commit h, rfl⟩
  | @rollback x hx =>
    have hnone : x.claims? = none := by
      obtain rfl | ⟨error, rfl⟩ := hx <;> rfl
    refine hi.move (x := x) rfl rfl (fun _ h => ?_) (fun _ _ h => ?_)
      fun k row h => ⟨row, Table.version_rollback h, rfl⟩
    · rw [hnone] at h
      contradiction
    · rw [hnone] at h
      contradiction

omit [DecidableEq τ] in
theorem start (accounts : Accounts) : (State.start accounts : State τ).OwnerInv where
  presented _ _ h := by contradiction
  named _ _ _ h := by contradiction
  family _ h := by contradiction
  rows _ _ h := by
    obtain h | ⟨⟨t, ht⟩, -⟩ := h
    · contradiction
    · contradiction

end State.OwnerInv

end OpsFlow.Auth
