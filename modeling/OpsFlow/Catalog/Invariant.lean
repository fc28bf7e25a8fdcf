import OpsFlow.Catalog.Transactions

namespace OpsFlow.Catalog
open RowStore

variable {τ : Type} [DecidableEq τ] {sec : Auth.Security} {initial s s' : State τ} {t t' : τ}

/-! ## Every step is a move -/

/-- What an UPDATE makes of a sound row is sound. -/
theorem ServiceModel.Sound.flushed {payload : ServiceUpdate}
    {first loaded requested latest row : ServiceModel} (hlatest : latest.Sound)
    (hfirst : first.Cleaned) (hrequested : replaced first payload.toChanges = some requested)
    (hrow : (flushed loaded requested latest).stored = some row) : row.Sound := by
  refine ⟨fun c => Column.store_store (get_stored hrow c), fun c => ?_⟩
  refine Column.cleaned_store ?_ (get_stored hrow c)
  rw [get_flushed]
  split
  · exact hlatest.cleaned c
  · have hassigned := get_replaced hrequested c
    cases hpayload : payload.toChanges.get c with
    | none =>
      rw [hpayload] at hassigned
      rw [← Option.some.inj hassigned]
      exact hfirst c
    | some value =>
      rw [hpayload] at hassigned
      obtain rfl : value = some (requested.get c) := hassigned
      exact payload.cleaned c _ hpayload

theorem ServiceModel.Sound.created {payload : ServiceCreate} {row : ServiceModel}
    (hrow : payload.row.stored = some row) : row.Sound :=
  ⟨fun c => Column.store_store (get_stored hrow c),
    fun c => Column.cleaned_store (payload.cleaned c) (get_stored hrow c)⟩

/-- The transaction removes no service that still has dependencies. -/
theorem Tx.Ok.cascaded {change : Change} {links : Links} (h : (Tx.done change links).Ok s t)
    (c : Uuid × String) (hheld : s.services.holder c.1 = some t)
    (hpending : s.services.pending c.1 = none) : s.dependencies.view t c = none := by
  cases change with
  | created caller id payload =>
    obtain ⟨⟨honly, -, row, -, hrow⟩, -⟩ := h.holds
    rw [(honly c.1).mp hheld, hrow] at hpending
    contradiction
  | updated plan payload =>
    obtain ⟨⟨requested, -, ⟨-, hnothing⟩ | ⟨honly, old, row, -, -, hrow⟩⟩, -⟩ := h.holds
    · exact absurd hheld (hnothing _)
    · rw [(honly c.1).mp hheld, hrow] at hpending
      contradiction
  | deleted plan =>
    rcases h.holds with ⟨hnothing, -⟩ | ⟨hremoved, -⟩
    · exact absurd hheld (hnothing _)
    · have hid := (hremoved.1 c.1).mp hheld
      have hview := h.cleared (hid ▸ hheld) c.2
      rw [← hid] at hview
      exact hview

theorem Account.grows_recovered {old latest : Account} (hashedPassword : String) :
    latest.Grows (recovered old latest hashedPassword) := by
  refine ⟨rfl, fun hactive => ?_, ?_⟩
  · unfold recovered written
    dsimp only
    split
    · exact hactive
    · rfl
  · unfold recovered written
    dsimp only
    split
    · exact le_rfl
    · cases latest.role <;> decide

/-- The version of a row that a transaction sees has grown out of the committed one. -/
theorem AccountsInv.view {userId : Uuid} {latest : Account} (ha : AccountsInv initial s)
    (hview : s.accounts.view t userId = some latest) (old : Account)
    (hold : s.accounts.committed userId = some old) : old.Grows latest := by
  by_cases hheld : s.accounts.holder userId = some t
  · rw [Table.view_of_holder hheld] at hview
    obtain ⟨row, hrow, hgrows⟩ := ha.grows t userId old hheld hold
    obtain rfl := Option.some.inj (hrow.symm.trans hview)
    exact hgrows
  · rw [Table.view_of_not_holder hheld] at hview
    obtain rfl := Option.some.inj (hold.symm.trans hview)
    exact old.grows_refl

/-- An account keeps its address, which no other one has. -/
theorem Constraints.email {userId : Uuid} {latest account : Account} (hc : Constraints s)
    (hview : s.accounts.view t userId = some latest) (hemail : account.email = latest.email)
    (k : Uuid) (other : Account) (hother : s.accounts.Version k other)
    (heq : other.email = account.email) : k = userId :=
  hc.emails k userId other latest hother (Table.version_of_view hview) (heq.trans hemail)

theorem Step.moves (hc : Constraints s) (ha : AccountsInv initial s) (hx : (s.txs t).Ok s t)
    (h : Step sec s t s') : Moves initial s t s' := by
  cases h with
  | insertService htx hrow hnames hfresh hfree hname =>
    exact .putService _ (.inl hfree) hname (.created hrow)
  | @updateService plan payload requested latest row requestedNames additions htx hgoal hrequested
      hne hnames hadditions hfree hview hrow hname =>
    have hfirst : plan.first.Cleaned := by
      rw [htx] at hx
      exact hx.reading plan.toReading rfl
    have hlatest := hc.rows _ _ (Table.version_of_view hview)
    exact .putService _ hfree hname (hlatest.flushed hfirst hrequested hrow)
  | linkDependency htx hfree hnew hview hstays => exact .link _ hfree hview hstays
  | unlinkDependency htx hfree hview => exact .unlink _ hfree
  | cascade htx hfree hview => exact .unlink _ hfree
  | deleteService htx hfree hview hchildren =>
    refine .dropService _ hfree fun c t' hid hheld => ?_
    obtain ⟨id, name⟩ := c
    obtain rfl : id = _ := hid
    exact hchildren name t' hheld
  | createUser htx hemail => exact .script _ _
  | createAdmin htx hemail haccount hnew => exact .script _ _
  | findAdmin htx hemail => exact .script _ _
  | @insertAccount userId account htx hfits hfresh hfree hemail =>
    rw [htx] at hx
    refine .putAccount _ (.inl hfree) hemail (fun old hold => ?_) ?_
    · rw [hfresh] at hold
      contradiction
    · exact hx.gives.imp_right .inl
  | @recover userId old latest hashedPassword htx hfree hview =>
    rw [htx] at hx
    refine .putAccount _ hfree (hc.email hview rfl) (fun row hrow => ?_) ?_
    · exact (ha.view hview row hrow).trans (Account.grows_recovered hashedPassword)
    · obtain ⟨hscript, account, haccount, hgrows⟩ := hx.gives
      have hrole := ha.roles _ _ (Table.version_of_view hview)
      have hemail : latest.email = old.email :=
        ((ha.view hview account haccount).email).trans hgrows.email
      by_cases hadmin : UserRole.admin = old.role
      · have hsame : (recovered old latest hashedPassword).role = latest.role := if_pos hadmin
        unfold RoleGiven
        rw [hsame]
        exact hrole
      · have hrole : (recovered old latest hashedPassword).role = .admin := if_neg hadmin
        refine .inr (.inl ?_)
        rw [hrole]
        change (latest.email, UserRole.admin) ∈ s.scripts
        rwa [hemail]
  | @replacePassword userId latest hashedPassword htx hfree hview =>
    refine .putAccount _ hfree (hc.email hview rfl) (fun row hrow => ?_) ?_
    · have hgrows := ha.view hview row hrow
      exact ⟨hgrows.email, hgrows.active, hgrows.role⟩
    · have hrole := ha.roles _ _ (Table.version_of_view hview)
      exact hrole
  | commitChange htx =>
    rw [htx] at hx
    exact .commit _ _ hx.cascaded
  | commitAccount htx =>
    rw [htx] at hx
    exact .commit _ _ fun c hheld _ => absurd hheld (hx.holds.services c.1)
  | deny => exact .rollback _
  | nameTaken => exact .rollback _
  | notFound => exact .rollback _
  | otherNameTaken => exact .rollback _
  | vanished => exact .rollback _
  | fail => exact .rollback _
  | _ => exact .advance _

/-! ## Where the transaction stands after a step -/

theorem MayDo_of_permit {token : Option Uuid} {permission : Permission} {user : Uuid × Account}
    (hnothing : s.accounts.HoldsNothing t)
    (h : permit (s.accounts.view t) token permission = .ok user) : s.MayDo user.1 permission := by
  obtain ⟨haccount, hactive, hpermission⟩ := permit_eq_ok h
  rw [hnothing.view] at haccount
  exact ⟨user.2, haccount, hactive, hpermission⟩

def Tx.reads : Tx → Prop
  | .linking _ _ _ | .unlinking _ _ _ | .deleting _ | .cascading _ | .done _ _ => False
  | _ => True

theorem Tx.holds_eq {x : Tx} (hx : x.reads) (S : Services τ) (D : Dependencies τ) (t : τ) :
    x.Holds S D t = Nothing S D t ∧ x.Cleared S D t = True := by
  cases x with
  | linking | unlinking | deleting | cascading | done => exact hx.elim
  | _ => exact ⟨rfl, rfl⟩

theorem Tx.Ok.of_nothing {x : Tx} (hreads : x.reads)
    (hnothing : Nothing s.services s.dependencies t)
    (hidle : x ≠ .idle) (hasks : ∀ ask ∈ x.asks, s.MayDo ask.1 ask.2)
    (hreading : ∀ r ∈ x.reading, r.first.Cleaned) (hgives : x.Gives s) : x.Ok s t where
  holds := by
    rw [(holds_eq hreads s.services s.dependencies t).1]
    exact hnothing
  fresh := fun h => absurd h hidle
  cleared := by
    rw [(holds_eq hreads s.services s.dependencies t).2]
    trivial
  asks := hasks
  reading := hreading
  gives := hgives

/-- Reading on needs no more than what has been asked for. -/
theorem Tx.Ok.read_on {x y : Tx} (hx : x.Ok s t) (hreads : x.reads) (hreads' : y.reads)
    (hidle : y ≠ .idle) (hasks : y.asks = x.asks)
    (hreading : y.reading = x.reading ∨ y.reading = none)
    (hgives : y.Gives (s.advance t y)) : y.Ok (s.advance t y) t := by
  have hnothing := hx.holds
  rw [(holds_eq hreads s.services s.dependencies t).1] at hnothing
  refine .of_nothing hreads' hnothing hidle (fun ask hask => ?_) (fun r hr => ?_) hgives
  · rw [hasks] at hask
    exact hx.asks ask hask
  · rcases hreading with hsame | hnone
    · rw [hsame] at hr
      exact hx.reading r hr
    · rw [hnone] at hr
      contradiction

/-- Neither does writing. -/
theorem Tx.Ok.write_on {x y : Tx} (hx : x.Ok s t) (hwrites : ¬ y.reads)
    (haccounts : s'.accounts = s.accounts) (hasks : y.asks = x.asks)
    (hholds : y.Holds s'.services s'.dependencies t)
    (hcleared : y.Cleared s'.services s'.dependencies t) : y.Ok s' t where
  holds := hholds
  fresh := by
    rintro rfl
    exact absurd trivial hwrites
  cleared := hcleared
  asks := fun ask hask => by
    rw [hasks] at hask
    unfold State.MayDo
    rw [haccounts]
    exact hx.asks ask hask
  reading := fun r hr => by
    cases y with
    | linking | unlinking | deleting | cascading | done => cases hr
    | _ => exact absurd trivial hwrites
  gives := by
    cases y with
    | linking | unlinking | deleting | cascading | done => trivial
    | _ => exact absurd trivial hwrites

/-- A state that asks for nothing. -/
theorem Tx.Ok.of_silent {x : Tx} (hreads : x.reads) (hnothing : Nothing s.services s.dependencies t)
    (hidle : x ≠ .idle) (hasks : x.asks = none) (hreading : x.reading = none) (hgives : x.Gives s) :
    x.Ok s t := by
  refine .of_nothing hreads hnothing hidle (fun ask hask => ?_) (fun r hr => ?_) hgives
  · rw [hasks] at hask
    contradiction
  · rw [hreading] at hr
    contradiction

theorem asks_update {plan : Plan} {payload : ServiceUpdate} {links : Links} {todo : List String}
    (hgoal : plan.goal = .update payload) :
    (Tx.linking (.updated plan payload) links todo).asks = (Tx.loaded plan).asks := by
  change some (plan.caller, Permission.serviceUpdate) = some (plan.caller, plan.goal.permission)
  rw [hgoal]
  rfl

theorem asks_delete {plan : Plan} {links : Links} {todo : List String}
    (hgoal : plan.goal = .delete) :
    (Tx.unlinking (.deleted plan) links todo).asks = (Tx.loaded plan).asks := by
  change some (plan.caller, Permission.serviceDelete) = some (plan.caller, plan.goal.permission)
  rw [hgoal]
  rfl

theorem Tx.Ok.rolled_back (s : State τ) (t : τ) (answer : Answer) :
    (Tx.ended answer).Ok (s.rollback t answer) t :=
  .of_silent trivial ⟨Table.holdsNothing_rollback, Table.holdsNothing_rollback⟩ Tx.noConfusion
    rfl rfl
    trivial

theorem Tx.Ok.committed (s : State τ) (t : τ) (changes : List Change) (answer : Answer) :
    (Tx.ended answer).Ok (s.commit t changes answer) t :=
  .of_silent trivial ⟨Table.holdsNothing_commit, Table.holdsNothing_commit⟩ Tx.noConfusion rfl rfl
    trivial

/-- There is no dependency of a service that is not there. -/
theorem Linked.clean {id : Uuid} {gone : List String} (hc : Constraints s)
    (hlinked : Linked s.dependencies t id [] gone) (hmissing : s.services.committed id = none) :
    s.dependencies.Clean t := by
  intro c hheld
  obtain ⟨hid, ⟨hmem, -⟩ | ⟨-, hnone⟩⟩ := hlinked.held c hheld
  · exact absurd hmem List.not_mem_nil
  · rw [hnone]
    by_contra hcommitted
    have hparent := hc.references.committed c (Ne.symm hcommitted)
    rw [hid] at hparent
    exact hparent hmissing

theorem Step.ok (hc : Constraints s) (hx : (s.txs t).Ok s t)
    (h : Step sec s t s') : (s'.txs t).Ok s' t := by
  cases h with
  | permit htx hpermit =>
    rw [htx] at hx
    rw [State.txs_advance]
    refine .of_nothing trivial hx.holds Tx.noConfusion (fun ask hask => ?_)
      (fun r hr => absurd hr (Option.not_mem_none r)) trivial
    obtain rfl := Option.some.inj hask
    exact MayDo_of_permit (hx.fresh rfl) hpermit
  | checkNewName htx =>
    rw [htx] at hx
    rw [State.txs_advance]
    exact hx.read_on trivial trivial Tx.noConfusion rfl (.inr rfl) trivial
  | @insertService caller id payload row additions htx hrow hnames hfresh =>
    rw [htx] at hx
    rw [State.txs_advance]
    have hwritten : (s.services.write t id (some row)).HoldsOnly t id := hx.holds.services.write
    exact hx.write_on (fun h => h) rfl rfl ⟨⟨hwritten, hfresh, row, hrow, Table.pending_write_self⟩,
      ⟨hnames, rfl⟩, [], rfl, .of_nothing hx.holds.dependencies id⟩ trivial
  | findService htx hview =>
    rw [htx] at hx
    rw [State.txs_advance]
    refine .of_nothing trivial hx.holds Tx.noConfusion hx.asks (fun r hr => ?_) trivial
    obtain rfl := Option.some.inj hr
    exact (hc.rows _ _ (Table.version_of_view hview)).cleaned
  | readDependencies htx =>
    rw [htx] at hx
    rw [State.txs_advance]
    exact hx.read_on trivial trivial Tx.noConfusion rfl (.inl rfl) trivial
  | checkOtherName htx =>
    rw [htx] at hx
    rw [State.txs_advance]
    exact hx.read_on trivial trivial Tx.noConfusion rfl (.inl rfl) trivial
  | checkNothing htx =>
    rw [htx] at hx
    rw [State.txs_advance]
    exact hx.read_on trivial trivial Tx.noConfusion rfl (.inl rfl) trivial
  | findAgain htx =>
    rw [htx] at hx
    rw [State.txs_advance]
    exact hx.read_on trivial trivial Tx.noConfusion rfl (.inl rfl) trivial
  | readAgain htx =>
    rw [htx] at hx
    rw [State.txs_advance]
    exact hx.read_on trivial trivial Tx.noConfusion rfl (.inl rfl) trivial
  | @updateService plan payload requested latest row requestedNames additions htx hgoal hrequested
      hne hnames hadditions hfree hview hrow hname =>
    rw [htx] at hx
    rw [State.txs_advance]
    rw [hx.holds.services.view] at hview
    have hwritten : (s.services.write t plan.serviceId (some row)).HoldsOnly t plan.serviceId :=
      hx.holds.services.write
    exact hx.write_on id rfl (asks_update hgoal)
      ⟨⟨requested, hrequested, .inr ⟨hwritten, latest, row,
      hview, hrow, Table.pending_write_self⟩⟩, ⟨requestedNames, hnames, hadditions, rfl⟩, [], rfl,
      .of_nothing hx.holds.dependencies _⟩ trivial
  | @keepService plan payload requestedNames additions htx hgoal hrequested hnames hadditions =>
    rw [htx] at hx
    rw [State.txs_advance]
    exact hx.write_on id rfl (asks_update hgoal) ⟨⟨plan.loaded, hrequested, .inl ⟨rfl,
      hx.holds.services⟩⟩, ⟨requestedNames, hnames, hadditions, rfl⟩, [], rfl,
      .of_nothing hx.holds.dependencies _⟩ trivial
  | linkDependency htx =>
    rw [htx] at hx
    rw [State.txs_advance]
    obtain ⟨hrow, hlinks, added, hadded, hlinked⟩ := hx.holds
    refine hx.write_on id rfl rfl ⟨hrow, hlinks, added ++ [_], ?_, hlinked.add⟩ trivial
    rw [hadded, List.append_assoc, List.singleton_append]
  | linked htx =>
    rw [htx] at hx
    rw [State.txs_advance]
    obtain ⟨hrow, hlinks, added, hadded, hlinked⟩ := hx.holds
    rw [List.append_nil] at hadded
    refine hx.write_on id rfl rfl ⟨hrow, hlinks, [], rfl, ?_⟩ trivial
    rw [hadded]
    exact hlinked
  | deleteDependencies htx hgoal =>
    rw [htx] at hx
    rw [State.txs_advance]
    exact hx.write_on id rfl (asks_delete hgoal) ⟨hx.holds.services, rfl, [], rfl,
      .of_nothing hx.holds.dependencies _⟩ trivial
  | unlinkDependency htx =>
    rw [htx] at hx
    rw [State.txs_advance]
    obtain ⟨hrow, hlinks, gone, hgone, hlinked⟩ := hx.holds
    refine hx.write_on id rfl rfl ⟨hrow, hlinks, gone ++ [_], ?_, hlinked.remove⟩ trivial
    rw [hgone, List.append_assoc, List.singleton_append]
  | passDependency htx hfree hview =>
    rw [htx] at hx
    rw [State.txs_advance]
    obtain ⟨hrow, hlinks, gone, hgone, hlinked⟩ := hx.holds
    refine hx.write_on id rfl rfl ⟨hrow, hlinks, gone ++ [_], ?_, hlinked.pass hview⟩ trivial
    rw [hgone, List.append_assoc, List.singleton_append]
  | @unlinked change links htx =>
    rw [htx] at hx
    rw [State.txs_advance]
    obtain ⟨hrow, hlinks, gone, hgone, hlinked⟩ := hx.holds
    rw [List.append_nil] at hgone
    cases change with
    | deleted plan =>
      have hadditions : links.additions = [] := hlinks
      rw [hadditions] at hlinked
      exact hx.write_on id rfl rfl ⟨hrow, gone, hlinked⟩ trivial
    | _ =>
      rw [← hgone] at hlinked
      exact hx.write_on id rfl rfl ⟨hrow, hlinks, hlinked⟩ trivial
  | @deleteService plan row htx =>
    rw [htx] at hx
    rw [State.txs_advance]
    obtain ⟨hnothing, gone, hlinked⟩ := hx.holds
    have hwritten : (s.services.write t plan.serviceId none).HoldsOnly t plan.serviceId :=
      hnothing.write
    exact hx.write_on id rfl rfl ⟨⟨hwritten, Table.pending_write_self⟩, gone, hlinked⟩ trivial
  | deleteNothing htx hfree hview =>
    rw [htx] at hx
    rw [State.txs_advance]
    obtain ⟨hnothing, gone, hlinked⟩ := hx.holds
    rw [hnothing.view] at hview
    have hclean : s.dependencies.Clean t := hlinked.clean hc hview
    exact hx.write_on id rfl rfl (.inl ⟨hnothing, hclean⟩) fun hheld => absurd hheld (hnothing _)
  | cascade htx =>
    rw [htx] at hx
    rw [State.txs_advance]
    obtain ⟨hremoved, gone, hlinked⟩ := hx.holds
    exact hx.write_on id rfl rfl ⟨hremoved, gone ++ [_], hlinked.remove⟩ trivial
  | cascaded htx hlist =>
    rw [htx] at hx
    rw [State.txs_advance]
    obtain ⟨hremoved, gone, hlinked⟩ := hx.holds
    refine hx.write_on id rfl rfl (.inr ⟨hremoved, gone, hlinked⟩) fun hheld name => ?_
    by_contra hview
    exact absurd ((hlist name).mpr hview) List.not_mem_nil
  | register htx =>
    rw [htx] at hx
    rw [State.txs_advance]
    exact .of_silent trivial hx.holds Tx.noConfusion rfl rfl (.inl rfl)
  | createUser htx =>
    rw [htx] at hx
    rw [State.txs_advance]
    exact .of_silent trivial hx.holds Tx.noConfusion rfl rfl
      (.inr (List.mem_append_right _ (List.mem_singleton.mpr rfl)))
  | createAdmin htx hemail haccount =>
    rw [htx] at hx
    rw [State.txs_advance]
    refine .of_silent trivial hx.holds Tx.noConfusion rfl rfl (.inr (List.mem_append_right _ ?_))
    rw [haccount]
    exact List.mem_singleton.mpr rfl
  | @findAdmin typed hashedPassword userId account htx hemail =>
    rw [htx] at hx
    rw [State.txs_advance]
    obtain ⟨hview, hemail⟩ := hemail
    rw [(hx.fresh rfl).view] at hview
    refine .of_silent trivial hx.holds Tx.noConfusion rfl rfl
      ⟨?_, account, hview, account.grows_refl⟩
    rw [hemail]
    exact List.mem_append_right _ (List.mem_singleton.mpr rfl)
  | insertAccount htx =>
    rw [htx] at hx
    rw [State.txs_advance]
    exact .of_silent trivial hx.holds Tx.noConfusion rfl rfl trivial
  | recover htx =>
    rw [htx] at hx
    rw [State.txs_advance]
    exact .of_silent trivial hx.holds Tx.noConfusion rfl rfl trivial
  | replacePassword htx =>
    rw [htx] at hx
    rw [State.txs_advance]
    exact .of_silent trivial hx.holds Tx.noConfusion rfl rfl trivial
  | commitChange =>
    rw [State.txs_commit]
    exact .committed s t _ _
  | commitAccount =>
    rw [State.txs_commit]
    exact .committed s t _ _
  | _ =>
    rw [State.txs_rollback]
    exact .rolled_back s t _

/-! ## All transactions together -/

/-- Nothing has been asked for yet; the rows that are there satisfy the constraints. -/
structure State.Initial (s : State τ) : Prop where
  idle : ∀ t, s.txs t = .idle
  accounts : ∀ t, s.accounts.HoldsNothing t
  services : ∀ t, s.services.HoldsNothing t
  dependencies : ∀ t, s.dependencies.HoldsNothing t
  log : s.log = []
  constraints : Constraints s

structure Inv (initial s : State τ) : Prop where
  constraints : Constraints s
  accounts : AccountsInv initial s
  txs : ∀ t, (s.txs t).Ok s t
  authorised : ∀ change ∈ s.log, s.MayDo change.caller change.permission

theorem Inv.of_initial (h : initial.Initial) : Inv initial initial where
  constraints := h.constraints
  accounts :=
    { grows := fun t k _ hheld => absurd hheld (h.accounts t k)
      roles := fun k account hversion => by
        rcases hversion with hcommitted | ⟨⟨t, hheld⟩, -⟩
        · exact .inr (.inr ⟨account, hcommitted, rfl, rfl⟩)
        · exact absurd hheld (h.accounts t k) }
  txs := fun t => by
    rw [h.idle t]
    exact ⟨⟨h.services t, h.dependencies t⟩, fun _ => h.accounts t, trivial,
      fun ask hask => absurd hask (Option.not_mem_none ask),
      fun r hr => absurd hr (Option.not_mem_none r), trivial⟩
  authorised := by
    rw [h.log]
    exact fun _ hmem => absurd hmem List.not_mem_nil

/-- What a step adds to the log is what the transaction was about to commit. -/
theorem Step.log (h : Step sec s t s') : s'.log = s.log ∨
    ∃ change links, s.txs t = .done change links ∧
      s' = s.commit t [change] (.success change.status) := by
  cases h with
  | @commitChange change links htx => exact .inr ⟨change, links, htx, rfl⟩
  | commitAccount htx => exact .inl (List.append_nil _)
  | _ => exact .inl rfl

theorem Inv.step (hi : Inv initial s) (h : Step sec s t s') : Inv initial s' := by
  have hmove : Moves initial s t s' := h.moves hi.constraints hi.accounts (hi.txs t)
  refine ⟨hi.constraints.moves hmove, hi.accounts.moves hmove, fun t' => ?_,
    fun change hchange => ?_⟩
  · by_cases ht : t' = t
    · rw [ht]
      exact h.ok hi.constraints (hi.txs t)
    · rw [(hmove.others ht).1]
      exact (hi.txs t').frame hi.constraints hi.accounts hmove (Ne.symm ht)
  · have hmem : change ∈ s.log ∨ ∃ links, s.txs t = .done change links := by
      rcases h.log with hsame | ⟨other, links, htx, rfl⟩
      · rw [hsame] at hchange
        exact .inl hchange
      · rcases List.mem_append.mp hchange with hold | hnew
        · exact .inl hold
        · obtain rfl := List.mem_singleton.mp hnew
          exact .inr ⟨links, htx⟩
    rcases hmem with hold | ⟨links, htx⟩
    · exact (hi.authorised change hold).moves hi.accounts hmove
    · have hx := hi.txs t
      rw [htx] at hx
      exact (hx.asks (change.caller, change.permission) rfl).moves hi.accounts hmove

end OpsFlow.Catalog
