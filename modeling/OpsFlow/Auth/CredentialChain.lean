import OpsFlow.Auth.Atomicity

namespace OpsFlow.Auth
open RowStore Transition

section
variable {τ : Type} [DecidableEq τ] {sec : Security} {accounts : Accounts} {s s' : State τ} {t : τ}

omit [DecidableEq τ] in
/-- A credential that has been made for a hash authorises nothing once the hash is replaced. -/
theorem State.UserInv.stale (hi : s.UserInv sec accounts)
    (hinjective : Function.Injective sec.credentialFingerprint) :
    s.replacements.Pairwise fun r r' => r.userId = r'.userId →
      r'.authority.credentialFingerprint ≠ sec.credentialFingerprint r.expected := by
  refine hi.ordered.imp_of_mem fun {r r'} _ hr' hexpected huser hsame => ?_
  rw [(hi.authorised r' hr').1] at hsame
  exact hexpected huser (hinjective hsame).symm

omit [DecidableEq τ] in
theorem State.UserInv.proofs_once (hi : s.UserInv sec accounts)
    (hinjective : Function.Injective sec.credentialFingerprint) :
    s.replacements.Pairwise fun r r' => ∀ claims, r.authority = .proof claims →
      r'.authority ≠ .proof claims := by
  refine (hi.stale hinjective).imp_of_mem fun {r r'} hr hr' hstale claims h h' => ?_
  obtain ⟨hfingerprint, howner⟩ := hi.authorised r hr
  obtain ⟨-, howner'⟩ := hi.authorised r' hr'
  have hauthority : r'.authority = r.authority := h'.trans h.symm
  refine hstale (howner.symm.trans (.trans ?_ howner')) ?_
  · rw [hauthority]
  · rw [hauthority]
    exact hfingerprint

/-- In every run of any requests: the replacements of a user's hash form one chain from the first
hash to the one that is stored; what authorises them was made for the hash that they replace, serves
once, and is void when that hash is gone; and a step that does not commit a replacement, or another
request that has come through, leaves all that is committed as it is. -/
theorem credentials_linear (hinjective : Function.Injective sec.credentialFingerprint) {ts : List τ}
    (hrun : Run (Step sec) (State.start accounts) ts s) :
    (∀ userId user, accounts.users userId = some user →
      ∃ user', s.users.committed userId = some user' ∧
        HashChain userId user.hashedPassword s.replacements user'.hashedPassword) ∧
    (∀ r ∈ s.replacements, r.Authorised sec) ∧
    (s.replacements.Pairwise fun r r' => r.userId = r'.userId →
      r'.authority.credentialFingerprint ≠ sec.credentialFingerprint r.expected) ∧
    (s.replacements.Pairwise fun r r' => ∀ claims, r.authority = .proof claims →
      r'.authority ≠ .proof claims) ∧
    (s.confirmations.map fun c => c.1.id).Nodup ∧
    ∀ t s', Step sec s t s' → (∀ answer, s'.txs t ≠ .committed answer) → s.SameCommitted s' := by
  have hi : s.Inv sec accounts := .run hrun
  refine ⟨hi.users.chain, hi.users.authorised, hi.users.stale hinjective,
    hi.users.proofs_once hinjective, hi.resetTokens.once, fun t s' hstep hopen => ?_⟩
  obtain ⟨answer, -, rfl⟩ | ⟨hsame, -⟩ := step_commits hi hstep
  · exact absurd (Function.update_self ..) (hopen answer)
  · exact hsame

end

def oldPassword : String := "0123456789abcdef0123456789abcdef0123456789abcdef0123456789abcdef"

def newPassword : String := "correct horse battery staple"

/-- Request 1 has verified the old password when request 2 replaces it. -/
theorem replaced_run : ∃ s : State ℕ,
    Run (Step .clear) (State.start (.single 1 "ada" oldPassword))
      [0, 0, 0, 1, 2, 2, 2, 2, 2, 2, 2] s ∧
    s.txs 1 = .authenticated 1 oldPassword ∧
    s.log = [.reauthenticated, .replaced ⟨1, oldPassword, newPassword,
      .proof ⟨1, 5, oldPassword, 0, 1000⟩⟩] ∧
    s.refreshTokens = [] ∧ s.sessions.committed 2 = none ∧ s.sessions.holder 2 = none := by
  have h₁ := (Run.nil (State.start (.single 1 "ada" oldPassword))).snoc
    (@Step.identify ℕ _ .clear _ 0 1 (.reauthenticate oldPassword) rfl)
  have h₂ := h₁.snoc (@Step.reauthenticate ℕ _ .clear _ 0 1 5 "ada" oldPassword oldPassword
    (some (1, ⟨"ada", true, oldPassword⟩)) 0 1000000000 rfl ⟨rfl, rfl⟩ rfl)
  have h₃ := h₂.snoc (@Step.commit ℕ _ .clear _ 0 .reauthenticated rfl)
  have h₄ := h₃.snoc (@Step.authenticate ℕ _ .clear _ 1 "ada" oldPassword
    (some (1, ⟨"ada", true, oldPassword⟩)) rfl ⟨rfl, rfl⟩)
  have h₅ := h₄.snoc (@Step.identify ℕ _ .clear _ 2 1
    (.changePassword (some ⟨1, 5, oldPassword, 0, 1000⟩) newPassword) rfl)
  have h₆ := h₅.snoc (@Step.prove ℕ _ .clear _ 2 1 "ada" newPassword
    (some ⟨1, 5, oldPassword, 0, 1000⟩) 0 rfl fun token h => List.mem_of_mem_head? h)
  have h₇ := h₆.snoc (@Step.checkProof ℕ _ .clear _ 2 1 "ada" newPassword newPassword
    ⟨1, 5, oldPassword, 0, 1000⟩ (some (1, ⟨"ada", true, oldPassword⟩)) rfl ⟨rfl, rfl⟩ (by decide))
  have h₈ := h₇.snoc (@Step.swap ℕ _ .clear _ 2 ⟨1, oldPassword, newPassword,
    .proof ⟨1, 5, oldPassword, 0, 1000⟩⟩ ⟨"ada", true, oldPassword⟩ 0 rfl (.inl rfl) rfl rfl)
  have h₉ := h₈.snoc (@Step.scanSessions ℕ _ .clear _ 2 (.replaced ⟨1, oldPassword, newPassword,
    .proof ⟨1, 5, oldPassword, 0, 1000⟩⟩) "password_changed" 0 [] rfl fun k =>
      iff_of_false List.not_mem_nil (by rintro ⟨session, hview, -⟩; contradiction))
  have h₁₀ := h₉.snoc (@Step.sessionsRevoked ℕ _ .clear _ 2 (.replaced ⟨1, oldPassword,
    newPassword, .proof ⟨1, 5, oldPassword, 0, 1000⟩⟩) "password_changed" 0 rfl)
  have h₁₁ := h₁₀.snoc (@Step.commit ℕ _ .clear _ 2 (.replaced ⟨1, oldPassword, newPassword,
    .proof ⟨1, 5, oldPassword, 0, 1000⟩⟩) rfl)
  exact ⟨_, h₁₁, rfl, rfl, rfl, rfl, rfl⟩

/-- After one change the stored hash is the new one. -/
theorem credentials_linear_changed : ∃ s : State ℕ,
    Run (Step .clear) (State.start (.single 1 "ada" oldPassword))
      [0, 0, 0, 1, 2, 2, 2, 2, 2, 2, 2] s ∧
    ∃ user, s.users.committed 1 = some user ∧ user.hashedPassword = newPassword := by
  obtain ⟨s, hrun, -, hlog, -⟩ := replaced_run
  obtain ⟨hchain, -⟩ := credentials_linear Function.injective_id hrun
  obtain ⟨user, huser, hlinked⟩ := hchain 1 ⟨"ada", true, oldPassword⟩ rfl
  refine ⟨s, hrun, user, huser, ?_⟩
  have hreplacements : s.replacements = [⟨1, oldPassword, newPassword,
      .proof ⟨1, 5, oldPassword, 0, 1000⟩⟩] := by
    unfold State.replacements
    rw [hlog]
    rfl
  rw [hreplacements] at hlinked
  exact hlinked.2.symm

end OpsFlow.Auth
