import OpsFlow.Catalog.System

namespace OpsFlow.Catalog
open RowStore

variable {τ : Type} [DecidableEq τ] {s s' : State τ} {t t' : τ}

@[simp] theorem State.txs_advance (s : State τ) (t : τ) (x : Tx) : (s.advance t x).txs t = x :=
  Function.update_self ..

@[simp] theorem State.txs_commit (s : State τ) (t : τ) (changes : List Change) (answer : Answer) :
    (s.commit t changes answer).txs t = .ended answer :=
  Function.update_self ..

@[simp] theorem State.txs_rollback (s : State τ) (t : τ) (answer : Answer) :
    (s.rollback t answer).txs t = .ended answer :=
  Function.update_self ..

/-! ## What a step can do to the tables -/

/-- The row is as the columns store it, and its texts are clean. -/
structure ServiceModel.Sound (row : ServiceModel) : Prop where
  stored : ∀ c : Column, c.store (row.get c) = some (row.get c)
  cleaned : row.Cleaned

def UserRole.rank : UserRole → ℕ
  | .viewer => 0
  | .operator => 1
  | .admin => 2

/-- Nothing takes the address, the access or the role of an account away. -/
structure Account.Grows (account account' : Account) : Prop where
  email : account'.email = account.email
  active : account.isActive = true → account'.isActive = true
  role : account.role.rank ≤ account'.role.rank

/-- The role was there from the beginning, or was given out by a script; everyone may view. -/
def RoleGiven (initial : State τ) (scripts : List (String × UserRole)) (userId : Uuid)
    (account : Account) : Prop :=
  account.role = .viewer ∨ (account.email, account.role) ∈ scripts ∨
    ∃ first, initial.accounts.committed userId = some first ∧ first.email = account.email ∧
      first.role = account.role

/-- A step of transaction `t`, as far as the other ones can tell. -/
inductive Moves (initial s : State τ) (t : τ) : State τ → Prop
  | advance (x : Tx) : Moves initial s t (s.advance t x)
  | script (entry : String × UserRole) (x : Tx) :
      Moves initial s t (State.advance { s with scripts := s.scripts ++ [entry] } t x)
  | putService {id : Uuid} {row : ServiceModel} (x : Tx) : s.services.Free t id →
      (∀ k other, s.services.Version k other → other.name = row.name → k = id) → row.Sound →
      Moves initial s t (State.advance { s with services := s.services.write t id (some row) } t x)
  | dropService {id : Uuid} (x : Tx) : s.services.Free t id →
      (∀ c t', c.1 = id → s.dependencies.holder c = some t' → s.dependencies.pending c = none) →
      Moves initial s t (State.advance { s with services := s.services.write t id none } t x)
  | link {key : Uuid × String} (x : Tx) : s.dependencies.Free t key →
      s.services.view t key.1 ≠ none → s.services.Stays key.1 →
      Moves initial s t
        (State.advance { s with dependencies := s.dependencies.write t key (some ()) } t x)
  | unlink {key : Uuid × String} (x : Tx) : s.dependencies.Free t key →
      Moves initial s t
        (State.advance { s with dependencies := s.dependencies.write t key none } t x)
  | putAccount {userId : Uuid} {account : Account} (x : Tx) : s.accounts.Free t userId →
      (∀ k other, s.accounts.Version k other → other.email = account.email → k = userId) →
      (∀ old, s.accounts.committed userId = some old → old.Grows account) →
      RoleGiven initial s.scripts userId account →
      Moves initial s t
        (State.advance { s with accounts := s.accounts.write t userId (some account) } t x)
  | commit (changes : List Change) (answer : Answer) :
      (∀ c : Uuid × String, s.services.holder c.1 = some t → s.services.pending c.1 = none →
        s.dependencies.view t c = none) →
      Moves initial s t (s.commit t changes answer)
  | rollback (answer : Answer) : Moves initial s t (s.rollback t answer)

variable {initial : State τ}

/-- The other transactions are where they were, and hold what they held. -/
theorem Moves.others (h : Moves initial s t s') (ht : t' ≠ t) :
    s'.txs t' = s.txs t' ∧ Table.Undisturbed t' s.services s'.services ∧
      Table.Undisturbed t' s.dependencies s'.dependencies ∧
      Table.Undisturbed t' s.accounts s'.accounts := by
  have htx (u : State τ) (x : Tx) : (u.advance t x).txs t' = u.txs t' := Function.update_of_ne ht ..
  have hs := Table.undisturbed_refl t' s.services
  have hd := Table.undisturbed_refl t' s.dependencies
  have ha := Table.undisturbed_refl t' s.accounts
  cases h with
  | advance x => exact ⟨htx s x, hs, hd, ha⟩
  | script entry x => exact ⟨htx _ x, hs, hd, ha⟩
  | putService x hfree => exact ⟨htx _ x, Table.undisturbed_write hfree ht, hd, ha⟩
  | dropService x hfree => exact ⟨htx _ x, Table.undisturbed_write hfree ht, hd, ha⟩
  | link x hfree => exact ⟨htx _ x, hs, Table.undisturbed_write hfree ht, ha⟩
  | unlink x hfree => exact ⟨htx _ x, hs, Table.undisturbed_write hfree ht, ha⟩
  | putAccount x hfree => exact ⟨htx _ x, hs, hd, Table.undisturbed_write hfree ht⟩
  | commit changes answer =>
    exact ⟨Function.update_of_ne ht .., Table.undisturbed_commit ht, Table.undisturbed_commit ht,
      Table.undisturbed_commit ht⟩
  | rollback answer =>
    exact ⟨Function.update_of_ne ht .., Table.undisturbed_rollback ht,
      Table.undisturbed_rollback ht, Table.undisturbed_rollback ht⟩

/-! ## The constraints of the database -/

structure Constraints (s : State τ) : Prop where
  names : s.services.Unique ServiceModel.name
  rows : s.services.Checked fun _ row => row.Sound
  emails : s.accounts.Unique fun account => account.email
  references : References Prod.fst s.services s.dependencies

theorem Constraints.moves (hc : Constraints s) (h : Moves initial s t s') : Constraints s' := by
  cases h with
  | advance x => exact ⟨hc.names, hc.rows, hc.emails, hc.references⟩
  | script entry x => exact ⟨hc.names, hc.rows, hc.emails, hc.references⟩
  | putService x hfree hname hsound =>
    exact ⟨hc.names.write hname, hc.rows.write hsound, hc.emails, hc.references.writeParent hfree⟩
  | dropService x hfree hchildren =>
    exact ⟨hc.names.mono fun _ _ => Table.version_write_none,
      hc.rows.mono fun _ _ => Table.version_write_none, hc.emails,
      hc.references.removeParent fun c t' hc' => hchildren c t' hc'⟩
  | link x hfree hview hstays =>
    exact ⟨hc.names, hc.rows, hc.emails, hc.references.insertChild hview hstays⟩
  | unlink x hfree => exact ⟨hc.names, hc.rows, hc.emails, hc.references.removeChild⟩
  | putAccount x hfree hemail hgrows hrole =>
    exact ⟨hc.names, hc.rows, hc.emails.write hemail, hc.references⟩
  | commit changes answer hcascade =>
    exact ⟨hc.names.mono fun _ _ => Table.version_commit,
      hc.rows.mono fun _ _ => Table.version_commit,
      hc.emails.mono fun _ _ => Table.version_commit, hc.references.commit hcascade⟩
  | rollback answer =>
    exact ⟨hc.names.mono fun _ _ => Table.version_rollback,
      hc.rows.mono fun _ _ => Table.version_rollback,
      hc.emails.mono fun _ _ => Table.version_rollback, hc.references.rollback⟩

/-! ## Accounts and roles -/

omit [DecidableEq τ] in
theorem RoleGiven.mono {scripts scripts' : List (String × UserRole)} {userId : Uuid}
    {account : Account} (h : RoleGiven initial scripts userId account)
    (hsub : ∀ entry ∈ scripts, entry ∈ scripts') : RoleGiven initial scripts' userId account := by
  rcases h with h | h | h
  · exact .inl h
  · exact .inr (.inl (hsub _ h))
  · exact .inr (.inr h)

structure AccountsInv (initial s : State τ) : Prop where
  grows : s.accounts.Grows Account.Grows
  roles : s.accounts.Checked (RoleGiven initial s.scripts)

theorem AccountsInv.moves (ha : AccountsInv initial s) (h : Moves initial s t s') :
    AccountsInv initial s' := by
  cases h with
  | advance x => exact ⟨ha.grows, ha.roles⟩
  | script entry x =>
    exact ⟨ha.grows, fun k account hversion => (ha.roles k account hversion).mono fun _ hmem =>
      List.mem_append_left _ hmem⟩
  | putService => exact ⟨ha.grows, ha.roles⟩
  | dropService => exact ⟨ha.grows, ha.roles⟩
  | link => exact ⟨ha.grows, ha.roles⟩
  | unlink => exact ⟨ha.grows, ha.roles⟩
  | putAccount x hfree hemail hgrows hrole =>
    exact ⟨ha.grows.write hgrows, ha.roles.write hrole⟩
  | commit changes answer hcascade =>
    exact ⟨ha.grows.commit, ha.roles.mono fun _ _ => Table.version_commit⟩
  | rollback answer => exact ⟨ha.grows.rollback, ha.roles.mono fun _ _ => Table.version_rollback⟩

theorem Account.grows_refl (account : Account) : account.Grows account :=
  ⟨rfl, id, le_rfl⟩

theorem Account.Grows.trans {a b c : Account} (h : a.Grows b) (h' : b.Grows c) : a.Grows c :=
  ⟨h'.email.trans h.email, fun hactive => h'.active (h.active hactive), h.role.trans h'.role⟩

theorem hasPermission_mono {role role' : UserRole} {permission : Permission}
    (h : hasPermission role permission = true) (hrank : role.rank ≤ role'.rank) :
    hasPermission role' permission = true := by
  have hviewer : ∀ permission, hasPermission .viewer permission = true →
      hasPermission .operator permission = true := by
    intro permission
    cases permission <;> decide
  have hadmin : ∀ permission, hasPermission .admin permission = true := by
    intro permission
    cases permission <;> decide
  cases role' with
  | admin => exact hadmin permission
  | operator =>
    cases role with
    | viewer => exact hviewer permission h
    | operator => exact h
    | admin => exact absurd hrank (by decide)
  | viewer =>
    cases role with
    | viewer => exact h
    | operator => exact absurd hrank (by decide)
    | admin => exact absurd hrank (by decide)

def State.MayDo (s : State τ) (userId : Uuid) (permission : Permission) : Prop :=
  ∃ account, s.accounts.committed userId = some account ∧ account.isActive = true ∧
    hasPermission account.role permission = true

theorem Moves.accounts (ha : AccountsInv initial s) (h : Moves initial s t s') {userId : Uuid}
    {account : Account} (haccount : s.accounts.committed userId = some account) :
    ∃ account', s'.accounts.committed userId = some account' ∧ account.Grows account' := by
  cases h with
  | commit changes answer =>
    exact ha.grows.committed_commit Account.grows_refl haccount
  | _ => exact ⟨account, haccount, account.grows_refl⟩

/-- Whoever may do something may go on doing it. -/
theorem State.MayDo.moves {userId : Uuid} {permission : Permission} (ha : AccountsInv initial s)
    (hmay : s.MayDo userId permission) (h : Moves initial s t s') : s'.MayDo userId permission := by
  obtain ⟨account, haccount, hactive, hpermission⟩ := hmay
  obtain ⟨account', haccount', hgrows⟩ := h.accounts ha haccount
  exact ⟨account', haccount', hgrows.active hactive, hasPermission_mono hpermission hgrows.role⟩

theorem getCurrentUser_eq_ok {accounts : Uuid → Option Account} {token : Option Uuid}
    {user : Uuid × Account} (h : getCurrentUser accounts token = .ok user) :
    accounts user.1 = some user.2 ∧ user.2.isActive = true := by
  unfold getCurrentUser at h
  split at h
  · contradiction
  · split at h
    · contradiction
    · rename_i haccount
      split at h
      · rename_i hactive
        obtain rfl := Except.ok.inj h
        exact ⟨haccount, hactive⟩
      · contradiction

theorem permissionDependency_eq_ok {permission : Permission} {current user : Uuid × Account}
    (h : permissionDependency permission current = .ok user) :
    current = user ∧ hasPermission user.2.role permission = true := by
  unfold permissionDependency requirePermission at h
  by_cases hpermission : hasPermission current.2.role permission = true
  · rw [if_pos hpermission] at h
    obtain rfl := Except.ok.inj h
    exact ⟨rfl, hpermission⟩
  · rw [if_neg hpermission] at h
    contradiction

theorem permit_eq_ok {accounts : Uuid → Option Account} {token : Option Uuid}
    {permission : Permission} {user : Uuid × Account}
    (h : permit accounts token permission = .ok user) :
    accounts user.1 = some user.2 ∧ user.2.isActive = true ∧
      hasPermission user.2.role permission = true := by
  unfold permit at h
  obtain ⟨current, hcurrent, hdependency⟩ := bind_eq_ok.mp h
  obtain ⟨rfl, hpermission⟩ := permissionDependency_eq_ok hdependency
  exact ⟨(getCurrentUser_eq_ok hcurrent).1, (getCurrentUser_eq_ok hcurrent).2, hpermission⟩

end OpsFlow.Catalog
