import OpsFlow.Auth.Credentials
import OpsFlow.Auth.ResetTokens
import OpsFlow.Auth.RefreshTokens

namespace OpsFlow.Auth
open RowStore Transition

variable {τ : Type}

structure State.Inv (sec : Security) (accounts : Accounts) (s : State τ) : Prop where
  users : s.UserInv sec accounts
  resetTokens : s.TokenInv sec
  sessions : s.SessionInv
  owners : s.OwnerInv

variable [DecidableEq τ] {sec : Security} {accounts : Accounts} {s s' : State τ} {t : τ} {x : Tx}

theorem State.Inv.step (hi : s.Inv sec accounts) (h : Step sec s t s') : s'.Inv sec accounts :=
  ⟨hi.users.step h, hi.resetTokens.step h, hi.sessions.step h, hi.owners.step hi.sessions h⟩

omit [DecidableEq τ] in
theorem State.Inv.start (sec : Security) (accounts : Accounts) :
    (State.start accounts : State τ).Inv sec accounts :=
  ⟨.start sec accounts, .start sec accounts, .start accounts, .start accounts⟩

theorem State.Inv.run {ts : List τ} (hrun : Run (Step sec) (State.start accounts) ts s) :
    s.Inv sec accounts :=
  hrun.invariant (fun _ _ _ (h : State.Inv sec accounts _) hstep => h.step hstep)
    (State.Inv.start sec accounts)

/-! ## What is committed, and when -/

structure State.SameCommitted (s s' : State τ) : Prop where
  users : s'.users.committed = s.users.committed
  sessions : s'.sessions.committed = s.sessions.committed
  resetTokens : s'.resetTokens.committed = s.resetTokens.committed

theorem committed_userMove (h : UserMove sec s t s' x) :
    s'.users.committed = s.users.committed := by
  cases h with
  | stays husers => rw [husers]
  | checks _ _ husers => rw [husers]
  | swaps _ _ _ _ _ _ husers =>
    rw [husers]
    rfl

theorem committed_sessionMove (h : SessionMove s t s' x) :
    s'.sessions.committed = s.sessions.committed := by
  cases h with
  | stays hsessions => rw [hsessions]
  | fails hsessions => rw [hsessions]
  | scans _ _ _ hsessions => rw [hsessions]
  | locks _ _ _ _ hsessions =>
    rw [hsessions]
    rfl
  | issues _ _ _ _ _ _ _ _ _ hsessions =>
    rw [hsessions]
    rfl
  | revokes _ _ _ _ _ hsessions =>
    rw [hsessions]
    rfl
  | rotates _ _ _ _ _ _ _ _ _ _ hsessions =>
    rw [hsessions]
    rfl
  | sweeps _ _ _ _ _ _ hsessions =>
    rw [hsessions]
    rfl

theorem committed_ends (hi : s.Inv sec accounts) (hend : s.Ends t s') :
    (∃ answer, s.txs t = .done answer ∧
      s' = { s.commit t (.committed answer) with log := s.log ++ [answer] }) ∨
    (s.SameCommitted s' ∧ s'.log = s.log) := by
  cases hend with
  | commit hp => exact .inl ⟨_, hp, rfl⟩
  | close hp =>
    -- only logout commits a refusal, and it has touched neither the users nor the reset tokens
    have husers := hi.users.roles t
    have htokens := hi.resetTokens.roles t
    have hsessions := hi.sessions.roles t
    rw [hp] at husers htokens hsessions
    exact .inr ⟨⟨Table.Clean.committed_commit (Table.HoldsNothing.clean husers),
      Table.Clean.committed_commit hsessions,
      Table.Clean.committed_commit (Table.HoldsNothing.clean htokens)⟩, rfl⟩
  | rollback _ => exact .inr ⟨⟨rfl, rfl, rfl⟩, rfl⟩

/-- Nothing is committed but the work of a request that has come through. -/
theorem step_commits (hi : s.Inv sec accounts) (h : Step sec s t s') :
    (∃ answer, s.txs t = .done answer ∧
      s' = { s.commit t (.committed answer) with log := s.log ++ [answer] }) ∨
    (s.SameCommitted s' ∧ s'.log = s.log) := by
  obtain ⟨x, htxs, hlog, -, hsessions⟩ | hend := h.sessionMove
  · obtain ⟨y, -, -, -, husers⟩ | hend := h.userMove
    · obtain ⟨z, -, -, -, htokens⟩ | hend := h.tokenMove (hi.resetTokens.sound t)
      · exact .inr ⟨⟨committed_userMove husers, committed_sessionMove hsessions,
          State.TokenInv.committed_tokenMove htokens⟩, hlog⟩
      · exact committed_ends hi hend
    · exact committed_ends hi hend
  · exact committed_ends hi hend

/-- A request that is rejected, or whose connection is lost, commits nothing. -/
theorem sameCommitted_of_rejected (hi : s.Inv sec accounts) (h : Step sec s t s')
    (hend : (∃ error, s'.txs t = .rejected error) ∨ s'.txs t = .aborted) :
    s.SameCommitted s' ∧ s'.log = s.log := by
  obtain ⟨answer, -, rfl⟩ | hsame := step_commits hi h
  · simp [State.commit] at hend
  · exact hsame

end OpsFlow.Auth
