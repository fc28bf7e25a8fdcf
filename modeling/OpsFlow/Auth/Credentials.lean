import OpsFlow.Auth.Users
import OpsFlow.Library.History

namespace OpsFlow.Auth
open RowStore

variable {τ : Type}

/-! ## The chain of the hashes -/

def State.planned? (s : State τ) (t : τ) : Option Replacement := (s.txs t).userRole.planned?

def State.replacements (s : State τ) : List Replacement := s.log.filterMap Answer.replacement?

/-- A hash that some user has, or that a replacement has taken or is to take the place of. -/
inductive State.Seen (s : State τ) (hash : String) : Prop
  | stored {userId : Uuid} {user : UserModel} : s.users.committed userId = some user →
      user.hashedPassword = hash → Seen s hash
  | replaced {r : Replacement} : r ∈ s.replacements → r.expected = hash → Seen s hash
  | planned {t : τ} {r : Replacement} : s.planned? t = some r → r.expected = hash → Seen s hash

/-- The replacements of one user lead from the first hash to the last. -/
def HashChain (userId : Uuid) (first : String) (rs : List Replacement) (last : String) : Prop :=
  History.Chained Replacement.expected Replacement.replacement first
    (rs.filter fun r => r.userId = userId) last

structure State.UserInv (sec : Security) (accounts : Accounts) (s : State τ) : Prop where
  roles : ∀ t, (s.txs t).userRole.Holds s.users t
  proofs : ∀ t, (s.txs t).ProofOwned
  known : ∀ hash, s.Seen hash → hash ∈ s.hashes
  planned : ∀ t r, s.planned? t = some r →
    r.Authorised sec ∧ r.replacement ∈ s.hashes ∧ ¬ s.Seen r.replacement
  distinct : ∀ t t' r r', s.planned? t = some r → s.planned? t' = some r' →
    r.replacement = r'.replacement → t = t'
  authorised : ∀ r ∈ s.replacements, r.Authorised sec
  spent : ∀ r ∈ s.replacements, ∀ user, s.users.committed r.userId = some user →
    user.hashedPassword ≠ r.expected
  ordered : s.replacements.Pairwise fun r r' => r.userId = r'.userId → r.expected ≠ r'.expected
  chain : ∀ userId user, accounts.users userId = some user →
    ∃ user', s.users.committed userId = some user' ∧
      HashChain userId user.hashedPassword s.replacements user'.hashedPassword

namespace State.UserInv

variable [DecidableEq τ] {sec : Security} {accounts : Accounts} {s s' : State τ} {t : τ} {x : Tx}

structure New (sec : Security) (s s' : State τ) (r : Replacement) : Prop where
  authorised : r.Authorised sec
  fresh : r.replacement ∉ s.hashes
  made : r.replacement ∈ s'.hashes
  expected : s.Seen r.expected

theorem planned_eq (htxs : s'.txs = Function.update s.txs t x) {t' : τ} (h : t' ≠ t) :
    s'.planned? t' = s.planned? t' := by
  unfold State.planned?
  rw [htxs, Function.update_of_ne h]

theorem planned_self (htxs : s'.txs = Function.update s.txs t x) :
    s'.planned? t = x.userRole.planned? := by
  unfold State.planned?
  rw [htxs, Function.update_self]

/-- A step that commits no replacement. -/
theorem move (hi : s.UserInv sec accounts) (htxs : s'.txs = Function.update s.txs t x)
    (hreplacements : s'.replacements = s.replacements) (hproof : x.ProofOwned)
    (hothers : ∀ t', t' ≠ t → Table.Undisturbed t' s.users s'.users)
    (hcommitted : s'.users.committed = s.users.committed)
    (hhashes : ∀ h ∈ s.hashes, h ∈ s'.hashes) (hrole : x.userRole.Holds s'.users t)
    (hplanned : ∀ r, x.userRole.planned? = some r → s.planned? t = some r ∨ New sec s s' r) :
    s'.UserInv sec accounts := by
  have hseen : ∀ hash, s'.Seen hash → s.Seen hash := by
    intro hash h
    cases h with
    | stored hrow hash =>
      rw [hcommitted] at hrow
      exact .stored hrow hash
    | replaced hmem hash =>
      rw [hreplacements] at hmem
      exact .replaced hmem hash
    | @planned t' r hr hash =>
      by_cases ht : t' = t
      · subst ht
        rw [planned_self htxs] at hr
        obtain hr | hnew := hplanned r hr
        · exact .planned hr hash
        · rw [← hash]
          exact hnew.expected
      · rw [planned_eq htxs ht] at hr
        exact .planned hr hash
  have hold : ∀ t' r, s'.planned? t' = some r →
      s.planned? t' = some r ∨ (t' = t ∧ New sec s s' r) := by
    intro t' r hr
    by_cases ht : t' = t
    · subst ht
      rw [planned_self htxs] at hr
      exact (hplanned r hr).imp_right fun hnew => ⟨rfl, hnew⟩
    · rw [planned_eq htxs ht] at hr
      exact .inl hr
  refine ⟨fun t' => ?_, fun t' => ?_, fun hash h => hhashes _ (hi.known hash (hseen hash h)), ?_,
    ?_, ?_, ?_, ?_, ?_⟩
  · rw [htxs]
    by_cases ht : t' = t
    · subst ht
      rw [Function.update_self]
      exact hrole
    · rw [Function.update_of_ne ht]
      exact (hi.roles t').frame (hothers t' ht)
  · rw [htxs]
    by_cases ht : t' = t
    · subst ht
      rw [Function.update_self]
      exact hproof
    · rw [Function.update_of_ne ht]
      exact hi.proofs t'
  · intro t' r hr
    obtain hr | ⟨-, hnew⟩ := hold t' r hr
    · obtain ⟨hauthorised, hmade, hunseen⟩ := hi.planned t' r hr
      exact ⟨hauthorised, hhashes _ hmade, fun h => hunseen (hseen _ h)⟩
    · exact ⟨hnew.authorised, hnew.made, fun h => hnew.fresh (hi.known _ (hseen _ h))⟩
  · intro t₁ t₂ r₁ r₂ h₁ h₂ hsame
    -- a hash that has just been made is not one that was planned before
    obtain h₁ | ⟨rfl, hnew₁⟩ := hold t₁ r₁ h₁
    · obtain h₂ | ⟨rfl, hnew₂⟩ := hold t₂ r₂ h₂
      · exact hi.distinct t₁ t₂ r₁ r₂ h₁ h₂ hsame
      · refine absurd (hi.planned t₁ r₁ h₁).2.1 ?_
        rw [hsame]
        exact hnew₂.fresh
    · obtain h₂ | ⟨rfl, -⟩ := hold t₂ r₂ h₂
      · refine absurd (hi.planned t₂ r₂ h₂).2.1 ?_
        rw [← hsame]
        exact hnew₁.fresh
      · rfl
  · rw [hreplacements]
    exact hi.authorised
  · rw [hreplacements, hcommitted]
    exact hi.spent
  · rw [hreplacements]
    exact hi.ordered
  · rw [hreplacements, hcommitted]
    exact hi.chain

/-- The end of a transaction that has not written a user. -/
theorem commitClean (hi : s.UserInv sec accounts) (hnothing : s.users.HoldsNothing t)
    (htxs : s'.txs = Function.update s.txs t x) (hx : x.userRole = .outside) (hproof : x.ProofOwned)
    (hreplacements : s'.replacements = s.replacements) (husers : s'.users = s.users.commit t)
    (hhashes : s'.hashes = s.hashes) : s'.UserInv sec accounts := by
  refine hi.move htxs hreplacements hproof ?_ ?_ (fun h hmem => by rw [hhashes]; exact hmem) ?_ ?_
  · intro t' ht'
    rw [husers]
    exact Table.undisturbed_commit ht'
  · rw [husers]
    exact hnothing.clean.committed_commit
  · rw [husers, hx]
    exact Table.holdsNothing_commit
  · intro r hr
    rw [hx] at hr
    contradiction

theorem rollback (hi : s.UserInv sec accounts) (hx : x.userRole = .outside)
    (hproof : x.ProofOwned) : (s.rollback t x).UserInv sec accounts := by
  refine hi.move rfl rfl hproof (fun t' ht' => Table.undisturbed_rollback ht') rfl
    (fun _ h => h) ?_ fun r hr => ?_
  · rw [hx]
    exact Table.holdsNothing_rollback
  · rw [hx] at hr
    contradiction

theorem userMove (hi : s.UserInv sec accounts) (htxs : s'.txs = Function.update s.txs t x)
    (hlog : s'.log = s.log) (hproof : x.ProofOwned) (hmove : UserMove sec s t s' x) :
    s'.UserInv sec accounts := by
  have hreplacements : s'.replacements = s.replacements := by
    unfold State.replacements
    rw [hlog]
  have hrole := hi.roles t
  cases hmove with
  | stays husers hhashes hx =>
    refine hi.move htxs hreplacements hproof ?_ (by rw [husers]) hhashes ?_ ?_
    · intro t' _
      rw [husers]
      exact Table.undisturbed_refl t' s.users
    · rw [husers]
      obtain hx | hx := hx
      · rw [hx]
        exact hrole
      · rw [hx]
        trivial
    · intro r hr
      obtain hx | hx := hx
      · rw [hx] at hr
        exact .inl hr
      · rw [hx] at hr
        contradiction
  | @checks r user hp hx husers hfresh hhashes hview hexpected hauthorised =>
    -- the replacement is planned from now on, with a hash that has just been made
    rw [hp] at hrole
    refine hi.move htxs hreplacements hproof ?_ (by rw [husers]) ?_ ?_ ?_
    · intro t' _
      rw [husers]
      exact Table.undisturbed_refl t' s.users
    · intro h hmem
      rw [hhashes]
      exact List.mem_append_left _ hmem
    · rw [husers, hx]
      exact hrole
    · intro r' hr'
      rw [hx] at hr'
      obtain rfl : r = r' := Option.some.inj hr'
      refine .inr ⟨hauthorised (hi.proofs t), hfresh, ?_, ?_⟩
      · rw [hhashes]
        exact List.mem_append_right _ List.mem_cons_self
      · rw [Table.HoldsNothing.view hrole] at hview
        exact .stored hview hexpected
  | @swaps r user hp hx hhashes hfree hview hexpected husers =>
    -- the new hash is pending: nobody sees it before the commit
    rw [hp] at hrole
    refine hi.move htxs hreplacements hproof ?_ (by rw [husers]; rfl) ?_ ?_ ?_
    · intro t' ht'
      rw [husers]
      exact Table.undisturbed_write hfree ht'
    · intro h hmem
      rw [hhashes]
      exact hmem
    · rw [husers, hx]
      rw [Table.HoldsNothing.view hrole] at hview
      exact ⟨Table.HoldsNothing.write hrole, user, hview, hexpected, Table.pending_write_self⟩
    · intro r' hr'
      rw [hx] at hr'
      refine .inl ?_
      unfold State.planned?
      rw [hp]
      exact hr'

theorem replacements_commit {answer : Answer} :
    State.replacements { s.commit t (.committed answer) with log := s.log ++ [answer] } =
      s.replacements ++ answer.replacement?.toList := by
  unfold State.replacements
  rw [List.filterMap_append]
  cases h : answer.replacement? <;> simp [h]

/-- The commit of a replacement: its new hash has not been seen before, and takes the place of the
hash that was committed until now. -/
theorem commitReplacement (hi : s.UserInv sec accounts) {r : Replacement}
    (hp : s.txs t = .done (.replaced r)) :
    State.UserInv sec accounts
      { s.commit t (.committed (.replaced r)) with log := s.log ++ [.replaced r] } := by
  have hplan : s.planned? t = some r := by
    unfold State.planned?
    rw [hp]
    rfl
  obtain ⟨hauthorised, hmade, hunseen⟩ := hi.planned t r hplan
  have hrole := hi.roles t
  rw [hp] at hrole
  obtain ⟨honly, user, hcommitted, hexpected, hpending⟩ := hrole
  have hlog : State.replacements
      { s.commit t (.committed (.replaced r)) with log := s.log ++ [.replaced r] } =
        s.replacements ++ [r] := replacements_commit
  have husers : (s.users.commit t).committed = Function.update s.users.committed r.userId
      (some { user with hashedPassword := r.replacement }) := by
    rw [honly.committed_commit, hpending]
  generalize hs' : ({ s.commit t (.committed (.replaced r)) with log := s.log ++ [.replaced r] } :
    State τ) = s' at hlog ⊢
  have htxs : s'.txs = Function.update s.txs t (.committed (.replaced r)) := by rw [← hs']; rfl
  have husers' : s'.users = s.users.commit t := by rw [← hs']; rfl
  have hhashes : s'.hashes = s.hashes := by rw [← hs']; rfl
  have hold : ∀ t' r', s'.planned? t' = some r' → t' ≠ t ∧ s.planned? t' = some r' := by
    intro t' r' hr'
    by_cases ht : t' = t
    · subst ht
      rw [planned_self htxs] at hr'
      contradiction
    · rw [planned_eq htxs ht] at hr'
      exact ⟨ht, hr'⟩
  -- the user is the only one whose hash has changed
  have hrow : ∀ userId row, s'.users.committed userId = some row →
      (userId = r.userId ∧ row.hashedPassword = r.replacement) ∨
        (userId ≠ r.userId ∧ s.users.committed userId = some row) := by
    intro userId row h
    rw [husers', husers] at h
    by_cases hu : userId = r.userId
    · subst hu
      rw [Function.update_self] at h
      obtain rfl := Option.some.inj h
      exact .inl ⟨rfl, rfl⟩
    · rw [Function.update_of_ne hu] at h
      exact .inr ⟨hu, h⟩
  have hseen : ∀ hash, s'.Seen hash → s.Seen hash ∨ hash = r.replacement := by
    intro hash h
    cases h with
    | stored h hash =>
      obtain ⟨-, hnew⟩ | ⟨-, hrow⟩ := hrow _ _ h
      · exact .inr (hash.symm.trans hnew)
      · exact .inl (.stored hrow hash)
    | replaced hmem hash =>
      rw [hlog] at hmem
      obtain hmem | hmem := List.mem_append.mp hmem
      · exact .inl (.replaced hmem hash)
      · obtain rfl := List.mem_singleton.mp hmem
        exact .inl (.planned hplan hash)
    | planned hr hash => exact .inl (.planned (hold _ _ hr).2 hash)
  refine ⟨fun t' => ?_, fun t' => ?_, ?_, ?_, ?_, ?_, ?_, ?_, ?_⟩
  · rw [htxs, husers']
    by_cases ht : t' = t
    · subst ht
      rw [Function.update_self]
      exact Table.holdsNothing_commit
    · rw [Function.update_of_ne ht]
      exact (hi.roles t').frame (Table.undisturbed_commit ht)
  · rw [htxs]
    by_cases ht : t' = t
    · subst ht
      rw [Function.update_self]
      trivial
    · rw [Function.update_of_ne ht]
      exact hi.proofs t'
  · intro hash h
    rw [hhashes]
    obtain h | rfl := hseen hash h
    · exact hi.known hash h
    · exact hmade
  · intro t' r' hr'
    obtain ⟨ht, hr'⟩ := hold t' r' hr'
    obtain ⟨hauthorised', hmade', hunseen'⟩ := hi.planned t' r' hr'
    refine ⟨hauthorised', by rw [hhashes]; exact hmade', fun h => ?_⟩
    obtain h | hsame := hseen _ h
    · exact hunseen' h
    · exact ht (hi.distinct t' t r' r hr' hplan hsame)
  · intro t₁ t₂ r₁ r₂ h₁ h₂
    exact hi.distinct t₁ t₂ r₁ r₂ (hold t₁ r₁ h₁).2 (hold t₂ r₂ h₂).2
  · intro r' hr'
    rw [hlog] at hr'
    obtain hr' | hr' := List.mem_append.mp hr'
    · exact hi.authorised r' hr'
    · obtain rfl := List.mem_singleton.mp hr'
      exact hauthorised
  · intro r' hr' row h heq
    have hseen' : s.Seen r'.expected := by
      rw [hlog] at hr'
      obtain hr' | hr' := List.mem_append.mp hr'
      · exact .replaced hr' rfl
      · obtain rfl := List.mem_singleton.mp hr'
        exact .planned hplan rfl
    obtain ⟨-, hnew⟩ | ⟨hu, hrow⟩ := hrow _ _ h
    · rw [← heq, hnew] at hseen'
      exact hunseen hseen'
    · rw [hlog] at hr'
      obtain hr' | hr' := List.mem_append.mp hr'
      · exact hi.spent r' hr' row hrow heq
      · obtain rfl := List.mem_singleton.mp hr'
        exact hu rfl
  · rw [hlog, List.pairwise_append]
    refine ⟨hi.ordered, List.pairwise_singleton _ _, fun r₁ h₁ r₂ h₂ huser heq => ?_⟩
    obtain rfl := List.mem_singleton.mp h₂
    rw [← huser] at hcommitted
    exact hi.spent r₁ h₁ user hcommitted (hexpected.trans heq.symm)
  · intro userId first hfirst
    obtain ⟨last, hlast, hchain⟩ := hi.chain userId first hfirst
    unfold HashChain
    rw [hlog, List.filter_append]
    by_cases hu : r.userId = userId
    · subst hu
      obtain rfl : user = last := Option.some.inj (hcommitted.symm.trans hlast)
      refine ⟨{ user with hashedPassword := r.replacement }, ?_, ?_⟩
      · rw [husers', husers, Function.update_self]
      · rw [List.filter_cons_of_pos (by simp)]
        exact hchain.snoc hexpected.symm
    · refine ⟨last, ?_, ?_⟩
      · rw [husers', husers, Function.update_of_ne (Ne.symm hu)]
        exact hlast
      · rw [List.filter_cons_of_neg (by simpa using hu), List.filter_nil, List.append_nil]
        exact hchain

/-- One step. -/
theorem step (hi : s.UserInv sec accounts) (h : Step sec s t s') : s'.UserInv sec accounts := by
  obtain ⟨x, htxs, hlog, hproof, hmove⟩ | hend := h.userMove
  · exact hi.userMove htxs hlog hproof hmove
  have hrole := hi.roles t
  cases hend with
  | @commit answer hp =>
    cases answer with
    | replaced r => exact hi.commitReplacement hp
    | _ =>
      rw [hp] at hrole
      refine hi.commitClean (x := .committed _) hrole rfl rfl trivial ?_ rfl rfl
      rw [replacements_commit]
      exact List.append_nil _
  | close hp =>
    rw [hp] at hrole
    exact hi.commitClean (x := .rejected _) hrole rfl rfl trivial rfl rfl rfl
  | rollback hx =>
    obtain rfl | ⟨error, rfl⟩ := hx
    · exact hi.rollback rfl trivial
    · exact hi.rollback rfl trivial

omit [DecidableEq τ] in
theorem start (sec : Security) (accounts : Accounts) :
    (State.start accounts : State τ).UserInv sec accounts where
  roles _ := fun k hk => by contradiction
  proofs _ := trivial
  known hash h := by
    cases h with
    | stored hrow hash =>
      rw [← hash]
      exact accounts.stored _ _ hrow
    | replaced hmem _ => contradiction
    | planned hr _ => contradiction
  planned _ _ hr := by contradiction
  distinct _ _ _ _ hr := by contradiction
  authorised _ hr := by contradiction
  spent _ hr := by contradiction
  ordered := List.Pairwise.nil
  chain _ user h := ⟨user, h, rfl⟩

end State.UserInv

end OpsFlow.Auth
