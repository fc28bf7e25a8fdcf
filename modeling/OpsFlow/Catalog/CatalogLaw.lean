import OpsFlow.Auth.System
import OpsFlow.Catalog.Invariant
import Mathlib.Data.Set.Basic

namespace OpsFlow.Catalog
open RowStore Transition

variable {τ : Type} [DecidableEq τ] {sec : Auth.Security} {initial s s' : State τ} {t t' : τ}

/-! ## The catalog as its readers see it -/

structure ServiceCatalog where
  service : Uuid → Option ServiceModel
  dependencies : Uuid → Set String

namespace ServiceCatalog

def put (c : ServiceCatalog) (id : Uuid) (row : Option ServiceModel) (names : Set String) :
    ServiceCatalog :=
  ⟨Function.update c.service id row, Function.update c.dependencies id names⟩

/-- The names are those of different services, every row is sound, and only services that exist have
dependencies. -/
structure WellFormed (c : ServiceCatalog) : Prop where
  names : ∀ id id' row row', c.service id = some row → c.service id' = some row' →
    row.name = row'.name → id = id'
  rows : ∀ id row, c.service id = some row → row.Sound
  dependencies : ∀ id, c.service id = none → c.dependencies id = ∅

end ServiceCatalog

/-- The columns of a row after an update: those whose requested value is not the one that was loaded
are set. -/
def Plan.Sets (plan : Plan) (requested : ServiceModel) (old new : Option ServiceModel) : Prop :=
  (requested = plan.loaded ∧ new = old) ∨
    ∃ row row', old = some row ∧ (flushed plan.loaded requested row).stored = some row' ∧
      new = some row'

/-- What each change does, at one stroke. -/
inductive Effect : ServiceCatalog → Change → ServiceCatalog → Prop
  | created {c : ServiceCatalog} {caller id : Uuid} {payload : ServiceCreate} {row : ServiceModel}
      {names : List String} :
      c.service id = none → payload.row.stored = some row →
      payload.dependencies.mapM storeDependency = some names →
      Effect c (.created caller id payload) (c.put id (some row) {name | name ∈ names})
  | updated {c : ServiceCatalog} {plan : Plan} {payload : ServiceUpdate} {requested : ServiceModel}
      {row : Option ServiceModel} {requestedNames added : List String} {names : Set String} :
      plan.requested payload = some requested →
      plan.Sets requested (c.service plan.serviceId) row →
      plan.requestedDependencies payload = some requestedNames →
      (plan.additions requestedNames).mapM storeDependency = some added →
      (∀ name ∈ plan.removals requestedNames, name ∈ names → name ∈ c.dependencies plan.serviceId) →
      (∀ name ∉ plan.removals requestedNames,
        name ∈ names ↔ name ∈ added ∨ name ∈ c.dependencies plan.serviceId) →
      Effect c (.updated plan payload) (c.put plan.serviceId row names)
  | deleted {c : ServiceCatalog} {plan : Plan} :
    Effect c (.deleted plan) (c.put plan.serviceId none ∅)
  | alreadyDeleted {c : ServiceCatalog} {plan : Plan} : Effect c (.deleted plan) c

/-- A change is about one service. -/
theorem Effect.other {c c' : ServiceCatalog} {change : Change} {id : Uuid} (h : Effect c change c')
    (hid : change.serviceId ≠ id) :
    c'.service id = c.service id ∧ c'.dependencies id = c.dependencies id := by
  cases h with
  | alreadyDeleted => exact ⟨rfl, rfl⟩
  | _ =>
    unfold ServiceCatalog.put
    exact ⟨Function.update_of_ne (Ne.symm hid) .., Function.update_of_ne (Ne.symm hid) ..⟩

theorem untouched {c c' : ServiceCatalog} {changes : List Change} {id : Uuid}
    (h : Run Effect c changes c') (hid : ∀ change ∈ changes, change.serviceId ≠ id) :
    c'.service id = c.service id ∧ c'.dependencies id = c.dependencies id := by
  induction h with
  | nil => exact ⟨rfl, rfl⟩
  | snoc _ heffect ih =>
    rw [List.forall_mem_append] at hid
    have hlast := heffect.other (hid.2 _ List.mem_cons_self)
    have hbefore := ih hid.1
    exact ⟨hlast.1.trans hbefore.1, hlast.2.trans hbefore.2⟩

/-! ## Every commit is one change -/

def State.catalog (s : State τ) : ServiceCatalog :=
  ⟨s.services.committed, fun id => {name | s.dependencies.committed (id, name) ≠ none}⟩

theorem Constraints.wellFormed (h : Constraints s) : s.catalog.WellFormed where
  names := fun id id' row row' hrow hrow' => h.names id id' row row' (.inl hrow) (.inl hrow')
  rows := fun id row hrow => h.rows id row (.inl hrow)
  dependencies := fun id hmissing => by
    ext name
    refine iff_of_false (fun hname => ?_) (Set.notMem_empty name)
    exact h.references.committed (id, name) hname hmissing

/-- A transaction that has written to one service commits what it sees of this service. -/
theorem catalog_commit {id : Uuid} (hs : ∀ k, s.services.holder k = some t → k = id)
    (hd : ∀ c, s.dependencies.holder c = some t → c.1 = id) (changes : List Change)
    (answer : Answer) :
    (s.commit t changes answer).catalog = s.catalog.put id (s.services.view t id)
      {name | s.dependencies.view t (id, name) ≠ none} := by
  have hservice : s.services.view t =
      Function.update s.services.committed id (s.services.view t id) := by
    funext k
    by_cases hk : k = id
    · rw [hk, Function.update_self]
    · rw [Function.update_of_ne hk, Table.view_of_not_holder fun hheld => hk (hs k hheld)]
  have hdependencies : (fun k => {name | s.dependencies.view t (k, name) ≠ none}) =
      Function.update (fun k => {name | s.dependencies.committed (k, name) ≠ none}) id
        {name | s.dependencies.view t (id, name) ≠ none} := by
    funext k
    by_cases hk : k = id
    · rw [hk, Function.update_self]
    · rw [Function.update_of_ne hk]
      ext name
      rw [Set.mem_ofPred_eq, Set.mem_ofPred_eq,
        Table.view_of_not_holder fun hheld => hk (hd (k, name) hheld)]
  unfold State.catalog ServiceCatalog.put
  exact congrArg₂ ServiceCatalog.mk hservice hdependencies

theorem Linked.view {id : Uuid} {added gone : List String} {name : String}
    (h : Linked s.dependencies t id added gone) :
    (name ∈ gone → s.dependencies.view t (id, name) ≠ none →
      s.dependencies.committed (id, name) ≠ none) ∧
    (name ∉ gone → (s.dependencies.view t (id, name) ≠ none ↔
      name ∈ added ∨ s.dependencies.committed (id, name) ≠ none)) := by
  by_cases hheld : s.dependencies.holder (id, name) = some t
  · rw [Table.view_of_holder hheld]
    obtain ⟨-, ⟨hmem, hgone, hsome⟩ | ⟨hgone, hnone⟩⟩ := h.held _ hheld
    · exact ⟨fun hgone' => absurd hgone' hgone, fun _ => iff_of_true (by simp [hsome]) (.inl hmem)⟩
    · exact ⟨fun _ hview => absurd hnone hview, fun hgone' => absurd hgone hgone'⟩
  · rw [Table.view_of_not_holder hheld]
    refine ⟨fun _ hview => hview, fun _ => ⟨.inr, fun h' => h'.resolve_left fun hmem => ?_⟩⟩
    exact hheld (h.added name hmem)

theorem Tx.Ok.effect {change : Change} {links : Links} (hc : Constraints s)
    (h : (Tx.done change links).Ok s t) (changes : List Change) (answer : Answer) :
    Effect s.catalog change (s.commit t changes answer).catalog := by
  cases change with
  | created caller id payload =>
    obtain ⟨⟨honly, hmissing, row, hrow, hpending⟩, ⟨hnames, hremovals⟩, hlinked⟩ := h.holds
    rw [catalog_commit (fun k => (honly k).mp) fun c hheld => (hlinked.held c hheld).1,
      Table.view_of_holder honly.holder, hpending]
    have hadded : {name | s.dependencies.view t (id, name) ≠ none} =
        {name | name ∈ links.additions} := by
      ext name
      have hnone : s.dependencies.committed (id, name) = none := by
        by_contra hcommitted
        exact hc.references.committed (id, name) hcommitted hmissing
      have hview : s.dependencies.view t (id, name) ≠ none ↔
          name ∈ links.additions ∨ s.dependencies.committed (id, name) ≠ none :=
        hlinked.view.2 (by simp [hremovals])
      simpa [hnone] using hview
    change Effect s.catalog _
      (s.catalog.put id (some row) {name | s.dependencies.view t (id, name) ≠ none})
    rw [hadded]
    exact .created hmissing hrow hnames
  | updated plan payload =>
    obtain ⟨⟨requested, hrequested, hrow⟩, ⟨names, hnames, hadditions, hremovals⟩, hlinked⟩ :=
      h.holds
    have hservice (k : Uuid) (hheld : s.services.holder k = some t) : k = plan.serviceId := by
      rcases hrow with ⟨-, hnothing⟩ | ⟨honly, -⟩
      · exact absurd hheld (hnothing k)
      · exact (honly k).mp hheld
    rw [catalog_commit hservice fun c hheld => (hlinked.held c hheld).1]
    rw [hremovals] at hlinked
    refine .updated hrequested ?_ hnames hadditions (fun name hname => (hlinked.view).1 hname)
      fun name hname => (hlinked.view).2 hname
    rcases hrow with ⟨hkept, hnothing⟩ | ⟨honly, old, row, hold, hstored, hpending⟩
    · exact .inl ⟨hkept, hnothing.view⟩
    · exact .inr ⟨old, row, hold, hstored, (Table.view_of_holder honly.holder).trans hpending⟩
  | deleted plan =>
    rcases h.holds with ⟨hnothing, hclean⟩ | ⟨hremoved, gone, hlinked⟩
    · have hsame : (s.commit t changes answer).catalog = s.catalog := by
        unfold State.catalog State.commit
        dsimp only
        rw [Table.committed_commit, hclean.committed_commit, hnothing.clean.view]
      rw [hsame]
      exact .alreadyDeleted
    · rw [catalog_commit (fun k => (hremoved.1 k).mp) fun c hheld => (hlinked.held c hheld).1,
        Table.view_of_holder hremoved.1.holder, hremoved.2]
      have hempty : {name | s.dependencies.view t (plan.serviceId, name) ≠ none} = ∅ := by
        ext name
        exact iff_of_false (fun hname => hname (h.cleared hremoved.1.holder name))
          (Set.notMem_empty name)
      rw [hempty]
      exact .deleted

/-- A step changes nothing that a reader sees, or commits one change. -/
theorem Step.catalog (hi : Inv initial s) (h : Step sec s t s') :
    (s'.log = s.log ∧ s'.catalog = s.catalog) ∨
      ∃ change, s'.log = s.log ++ [change] ∧ Effect s.catalog change s'.catalog := by
  have hx := hi.txs t
  cases h with
  | @commitChange change links htx =>
    rw [htx] at hx
    exact .inr ⟨change, rfl, hx.effect hi.constraints _ _⟩
  | @commitAccount status htx =>
    rw [htx] at hx
    refine .inl ⟨List.append_nil _, ?_⟩
    unfold State.catalog State.commit
    dsimp only
    rw [Table.committed_commit, Table.committed_commit, hx.holds.services.clean.view,
      hx.holds.dependencies.clean.view]
  | _ => exact .inl ⟨rfl, rfl⟩

/-- The log explains what readers see. -/
structure Explained (initial s : State τ) : Prop where
  inv : Inv initial s
  effects : Run Effect initial.catalog s.log s.catalog

theorem Explained.of_initial (h : initial.Initial) : Explained initial initial := by
  refine ⟨.of_initial h, ?_⟩
  rw [h.log]
  exact .nil _

theorem Explained.step (he : Explained initial s) (h : Step sec s t s') : Explained initial s' := by
  refine ⟨he.inv.step h, ?_⟩
  rcases h.catalog he.inv with ⟨hlog, hcatalog⟩ | ⟨change, hlog, heffect⟩
  · rw [hlog, hcatalog]
    exact he.effects
  · rw [hlog]
    exact .snoc he.effects heffect

/-! ## An update of one column, statement by statement -/

def statusChanges (status : Overview.ServiceStatus) : ServiceUpdate where
  name := none
  owner := none
  status := some (some status)
  uptime := none
  latencyMs := none
  description := none
  region := none
  version := none
  lastDeployedAt := none
  dependencies := none
  cleaned c value h := by
    cases c with
    | status => trivial
    | _ => contradiction

def descriptionChanges (description : String) : ServiceUpdate where
  name := none
  owner := none
  status := none
  uptime := none
  latencyMs := none
  description := some (some description)
  region := none
  version := none
  lastDeployedAt := none
  dependencies := none
  cleaned c value h := by
    cases c with
    | description => trivial
    | _ => contradiction

theorem advance_advance (s : State τ) (t : τ) (x y : Tx) :
    (s.advance t x).advance t y = s.advance t y := by
  unfold State.advance
  simp only [Function.update_idem]

/-- The service is read for the first time, and its name stays. -/
theorem reading_run {caller id : Uuid} {account : Account} {row : ServiceModel}
    {payload : ServiceUpdate} (hidle : s.txs t = .idle)
    (haccount : s.accounts.view t caller = some account) (hactive : account.isActive = true)
    (hrole : hasPermission account.role .serviceUpdate = true)
    (hrow : s.services.view t id = some row)
    (hlinks : ∀ name, s.dependencies.view t (id, name) = none) (hname : payload.name = none) :
    Run (Step sec) s [t, t, t, t]
      (s.advance t (.distinct ⟨caller, id, .update payload, s.log.length, row⟩ [])) := by
  have hpermit : permit (s.accounts.view t) (some caller)
      (Request.permission (.existing id (.update payload))) = .ok (caller, account) := by
    simp [permit, getCurrentUser, permissionDependency, requirePermission, Request.permission,
      Goal.permission, haccount, hactive, hrole, bind, Except.bind]
  have hlist : s.Lists t id [] := fun name => by simp [hlinks name]
  let r : Reading := ⟨caller, id, .update payload, s.log.length, row⟩
  have h₁ : Step sec s t (s.advance t (.permitted caller (.existing id (.update payload)))) :=
    .permit hidle hpermit
  have h₂ : Step sec (s.advance t (.permitted caller (.existing id (.update payload)))) t
      ((s.advance t (.permitted caller (.existing id (.update payload)))).advance t (.found r)) :=
    .findService (s.txs_advance t _) hrow
  have h₃ : Step sec (s.advance t (.found r)) t ((s.advance t (.found r)).advance t (.read r [])) :=
    .readDependencies (s.txs_advance t _) hlist
  have h₄ : Step sec (s.advance t (.read r [])) t
      ((s.advance t (.read r [])).advance t (.distinct r [])) := by
    refine @Step.checkOtherName _ _ _ _ _ _ _ _ none (s.txs_advance t _) rfl fun name hnamed => ?_
    rw [hname] at hnamed
    contradiction
  rw [advance_advance] at h₂ h₃ h₄
  exact .cons h₁ (.cons h₂ (.cons h₃ (.single h₄)))

/-- The service is read again, and its row is written. -/
theorem writing_run {plan : Plan} {payload : ServiceUpdate} {requested row : ServiceModel}
    (hdistinct : s.txs t = .distinct plan.toReading []) (hgoal : plan.goal = .update payload)
    (hplan : plan.firstDependencies = [] ∧ plan.loadedDependencies = [] ∧ plan.upTo = s.log.length)
    (hloaded : s.services.view t plan.serviceId = some plan.loaded)
    (hlinks : ∀ name, s.dependencies.view t (plan.serviceId, name) = none)
    (hrequested : plan.requested payload = some requested) (hne : requested ≠ plan.loaded)
    (hnames : payload.dependencies = none) (hfree : s.services.Free t plan.serviceId)
    (hrow : (flushed plan.loaded requested plan.loaded).stored = some row)
    (hunique : ∀ k other, s.services.Version k other → other.name = row.name → k = plan.serviceId) :
    Run (Step sec) s [t, t, t, t, t] (State.advance
      { s with services := s.services.write t plan.serviceId (some row) } t
      (.done (.updated plan payload) ⟨[], []⟩)) := by
  obtain ⟨r, firstDependencies, loaded, loadedDependencies, upTo⟩ := plan
  obtain ⟨rfl, rfl, rfl⟩ := hplan
  have hlist : s.Lists t r.serviceId [] := fun name => by
    have hnone := hlinks name
    simp [hnone]
  have hrequestedNames :
      Plan.requestedDependencies ⟨r, [], loaded, [], s.log.length⟩ payload = some [] := by
    unfold Plan.requestedDependencies
    rw [hnames]
    rfl
  let p : Plan := ⟨r, [], loaded, [], s.log.length⟩
  have h₁ : Step sec s t (s.advance t (.again r [] loaded)) := .findAgain hdistinct hloaded
  have h₂ : Step sec (s.advance t (.again r [] loaded)) t
      ((s.advance t (.again r [] loaded)).advance t (.loaded p)) :=
    .readAgain (s.txs_advance t _) hlist
  have h₃ : Step sec (s.advance t (.loaded p)) t (State.advance
      (State.advance { s with services := s.services.write t r.serviceId (some row) } t
        (.loaded p)) t (.linking (.updated p payload) ⟨[], []⟩ [])) :=
    .updateService (s.txs_advance t _) hgoal hrequested hne hrequestedNames rfl hfree hloaded hrow
      hunique
  have h₄ (u : State τ) : Step sec (u.advance t (.linking (.updated p payload) ⟨[], []⟩ [])) t
      ((u.advance t (.linking (.updated p payload) ⟨[], []⟩ [])).advance t
        (.unlinking (.updated p payload) ⟨[], []⟩ [])) :=
    .linked (u.txs_advance t _)
  have h₅ (u : State τ) : Step sec (u.advance t (.unlinking (.updated p payload) ⟨[], []⟩ [])) t
      ((u.advance t (.unlinking (.updated p payload) ⟨[], []⟩ [])).advance t
        (.done (.updated p payload) ⟨[], []⟩)) :=
    .unlinked (u.txs_advance t _)
  rw [advance_advance] at h₂ h₃
  simp only [advance_advance] at h₄ h₅
  exact .cons h₁ (.cons h₂ (.cons h₃ (.cons (h₄ _) (.single (h₅ _)))))

/-! ### A second update between the two readings of the first -/

def anOperator : Account := ⟨⟨"ann@example.com", true, "hash"⟩, "Ann", .operator⟩

def checkout : ServiceModel := ⟨"checkout", "Ann", .healthy, "99.9%", 20, "", "eu", "1", 0⟩

def checkoutDown : ServiceModel := { checkout with status := .critical }

def checkoutDescribed : ServiceModel := { checkout with description := "Pays" }

theorem sound_checkout : checkout.Sound := by
  constructor
  · intro c
    cases c with
    | _ => decide +kernel
  · intro c
    cases c with
    | name => exact ⟨by decide +kernel, by decide⟩
    | owner => exact ⟨by decide +kernel, by decide⟩
    | region => exact ⟨by decide +kernel, by decide⟩
    | version => exact ⟨by decide +kernel, by decide⟩
    | _ => trivial

def oneService : State Bool where
  accounts := .of (Function.update (fun _ => none) 1 (some anOperator))
  services := .of (Function.update (fun _ => none) 7 (some checkout))
  dependencies := .of fun _ => none
  txs := fun _ => .idle
  log := []
  scripts := []

theorem initial_oneService : oneService.Initial where
  idle _ := rfl
  accounts _ _ h := by contradiction
  services _ _ h := by contradiction
  dependencies _ _ h := by contradiction
  log := rfl
  constraints := by
    have hservice (k : Uuid) (row : ServiceModel) (h : oneService.services.Version k row) :
        k = 7 ∧ row = checkout := by
      have hrow := Table.version_of h
      by_cases hk : k = 7
      · rw [hk, Function.update_self] at hrow
        exact ⟨hk, (Option.some.inj hrow).symm⟩
      · rw [Function.update_of_ne hk] at hrow
        contradiction
    have haccount (k : Uuid) (account : Account) (h : oneService.accounts.Version k account) :
        k = 1 := by
      have hrow := Table.version_of h
      by_contra hk
      rw [Function.update_of_ne hk] at hrow
      contradiction
    refine ⟨?_, ?_, ?_, ⟨?_, ?_⟩⟩
    · intro k k' row row' hrow hrow' _
      exact (hservice k row hrow).1.trans (hservice k' row' hrow').1.symm
    · intro k row hrow
      rw [(hservice k row hrow).2]
      exact sound_checkout
    · intro k k' account account' hrow hrow' _
      exact (haccount k account hrow).trans (haccount k' account' hrow').symm
    · intro c hc
      exact absurd rfl hc
    · intro t c hheld
      contradiction

theorem version_oneService {k : Uuid} {row : ServiceModel}
    (h : oneService.services.Version k row) : k = 7 := by
  have hrow := Table.version_of h
  by_contra hk
  rw [Function.update_of_ne hk] at hrow
  contradiction

def statusPlan : Plan :=
  ⟨⟨1, 7, .update (statusChanges .critical), 0, checkout⟩, [], checkout, [], 0⟩

/-- The update of the description, which reads the service before and after the other one has been
committed. -/
def overtakenPlan : Plan :=
  ⟨⟨1, 7, .update (descriptionChanges "Pays"), 0, checkout⟩, [], checkoutDown, [], 1⟩

def bothRead : State Bool :=
  (oneService.advance false (.distinct overtakenPlan.toReading [])).advance true
    (.distinct statusPlan.toReading [])

def statusWritten : State Bool :=
  State.advance
    { bothRead with services := bothRead.services.write true 7 (some checkoutDown) } true
    (.done (.updated statusPlan (statusChanges .critical)) ⟨[], []⟩)

def statusCommitted : State Bool :=
  statusWritten.commit true [.updated statusPlan (statusChanges .critical)] (.success 200)

def descriptionWritten : State Bool :=
  State.advance { statusCommitted with
    services := statusCommitted.services.write false 7 (some checkoutDescribed) } false
    (.done (.updated overtakenPlan (descriptionChanges "Pays")) ⟨[], []⟩)

def descriptionCommitted : State Bool :=
  descriptionWritten.commit false [.updated overtakenPlan (descriptionChanges "Pays")]
    (.success 200)

theorem bothRead_run (sec : Auth.Security) :
    ∃ labels, Run (Step sec) oneService labels bothRead := by
  have hrow (t : Bool) : oneService.services.view t 7 = some checkout := rfl
  have haccount (t : Bool) : oneService.accounts.view t 1 = some anOperator := rfl
  have hname : (descriptionChanges "Pays").name = none := rfl
  have hname' : (statusChanges .critical).name = none := rfl
  have h₁ : Run (Step sec) oneService _ _ :=
    reading_run rfl (haccount false) rfl (by decide) (hrow false) (fun _ => rfl) hname
  have h₂ : Run (Step sec) (oneService.advance false (.distinct overtakenPlan.toReading [])) _ _ :=
    reading_run (t := true) rfl (haccount true) rfl (by decide) (hrow true) (fun _ => rfl) hname'
  exact ⟨_, h₁.append h₂⟩

theorem statusWritten_run (sec : Auth.Security) :
    ∃ labels, Run (Step sec) oneService labels statusWritten := by
  obtain ⟨labels, hread⟩ := bothRead_run sec
  have hdistinct : bothRead.txs true = .distinct statusPlan.toReading [] := rfl
  have hrequested : statusPlan.requested (statusChanges .critical) = some checkoutDown := rfl
  have hstored : (flushed checkout checkoutDown checkout).stored = some checkoutDown := by
    decide +kernel
  have hwritten : Run (Step sec) bothRead _ statusWritten :=
    writing_run hdistinct rfl ⟨rfl, rfl, rfl⟩ rfl (fun _ => rfl) hrequested (by decide) rfl
      (.inl rfl)
      hstored fun k other hversion _ => version_oneService hversion
  exact ⟨_, hread.append hwritten⟩

theorem descriptionWritten_run (sec : Auth.Security) :
    ∃ labels, Run (Step sec) oneService labels descriptionWritten := by
  obtain ⟨labels, hwritten⟩ := statusWritten_run sec
  have hcommit : Step sec statusWritten true statusCommitted := .commitChange (State.txs_advance ..)
  have hdistinct : statusCommitted.txs false = .distinct overtakenPlan.toReading [] := rfl
  have hrequested : overtakenPlan.requested (descriptionChanges "Pays") = some checkoutDescribed :=
    rfl
  have hstored : (flushed checkoutDown checkoutDescribed checkoutDown).stored =
      some checkoutDescribed := by decide +kernel
  have hunique (k : Uuid) (other : ServiceModel)
      (hversion : statusCommitted.services.Version k other) :
      k = 7 := by
    obtain hold | ⟨rfl, -⟩ := Table.version_write (Table.version_commit hversion)
    · exact version_oneService hold
    · rfl
  have hwritten' : Run (Step sec) statusCommitted _ descriptionWritten :=
    writing_run hdistinct rfl ⟨rfl, rfl, rfl⟩ rfl (fun _ => rfl) hrequested (by decide) rfl
      (.inl rfl)
      hstored fun k other hversion _ => hunique k other hversion
  exact ⟨_, (hwritten.snoc hcommit).append hwritten'⟩

theorem descriptionCommitted_run (sec : Auth.Security) :
    ∃ labels, Run (Step sec) oneService labels descriptionCommitted := by
  obtain ⟨labels, hwritten⟩ := descriptionWritten_run sec
  exact ⟨_, hwritten.snoc (.commitChange (State.txs_advance ..))⟩

/-! ## The law -/

/-- Whatever requests come, and however their statements interleave: the catalog is what the
committed changes make of it one after the other, and is well formed. -/
theorem catalog_of_run {labels : List τ} (h : initial.Initial)
    (hrun : Run (Step sec) initial labels s) :
    Run Effect initial.catalog s.log s.catalog ∧ s.catalog.WellFormed := by
  have he : Explained initial s :=
    hrun.invariant (fun _ _ _ he hstep => he.step hstep) (.of_initial h)
  exact ⟨he.effects, he.inv.constraints.wellFormed⟩

theorem catalog_of_overtaken :
    Run Effect oneService.catalog descriptionCommitted.log descriptionCommitted.catalog ∧
      descriptionCommitted.log.length = 2 ∧ descriptionCommitted.catalog.WellFormed := by
  obtain ⟨_, hrun⟩ := descriptionCommitted_run Auth.Security.clear
  obtain ⟨heffects, hwellFormed⟩ := catalog_of_run initial_oneService hrun
  exact ⟨heffects, rfl, hwellFormed⟩

/-! ## Who may change what -/

def Change.roles : Change → List UserRole
  | .created _ _ _ | .updated _ _ => [.operator, .admin]
  | .deleted _ => [.admin]

theorem Change.mem_roles {change : Change} {role : UserRole}
    (h : hasPermission role change.permission = true) : role ∈ change.roles := by
  have hroles (role : UserRole) :
      (hasPermission role .serviceCreate = true → role ∈ [.operator, .admin]) ∧
      (hasPermission role .serviceUpdate = true → role ∈ [.operator, .admin]) ∧
      (hasPermission role .serviceDelete = true → role ∈ [.admin]) := by
    cases role with
    | _ => decide
  cases change with
  | created => exact (hroles role).1 h
  | updated => exact (hroles role).2.1 h
  | deleted => exact (hroles role).2.2 h

/-- What has changed in the catalog was changed by users who are active and have a role for it, and
nobody has a role that neither was there at the beginning nor was given out by a script. -/
theorem catalog_changes_authorised {labels : List τ} (h : initial.Initial)
    (hrun : Run (Step sec) initial labels s) :
    (∀ id, (s.catalog.service id ≠ initial.catalog.service id ∨
        s.catalog.dependencies id ≠ initial.catalog.dependencies id) →
      ∃ change ∈ s.log, change.serviceId = id) ∧
    (∀ change ∈ s.log, ∃ account, s.accounts.committed change.caller = some account ∧
      account.isActive = true ∧ account.role ∈ change.roles) ∧
    ∀ userId account, s.accounts.committed userId = some account → account.role = .viewer ∨
      (account.email, account.role) ∈ s.scripts ∨
      ∃ first, initial.accounts.committed userId = some first ∧ first.email = account.email ∧
        first.role = account.role := by
  have hi : Inv initial s := hrun.invariant (fun _ _ _ hi hstep => hi.step hstep) (.of_initial h)
  refine ⟨fun id hchanged => ?_, fun change hchange => ?_, fun userId account haccount =>
    hi.accounts.roles userId account (.inl haccount)⟩
  · by_contra hnone
    have heffects := (catalog_of_run h hrun).1
    have hunchanged := untouched heffects fun change hchange hid => hnone ⟨change, hchange, hid⟩
    exact hchanged.elim (fun hne => hne hunchanged.1) fun hne => hne hunchanged.2
  · obtain ⟨account, haccount, hactive, hpermission⟩ := hi.authorised change hchange
    exact ⟨account, haccount, hactive, change.mem_roles hpermission⟩

theorem catalog_changes_authorised_overtaken :
    (∃ change ∈ descriptionCommitted.log, change.serviceId = 7) ∧
    ∀ change ∈ descriptionCommitted.log, ∃ account,
      descriptionCommitted.accounts.committed change.caller = some account ∧
        account.isActive = true ∧ account.role ∈ change.roles := by
  obtain ⟨_, hrun⟩ := descriptionCommitted_run Auth.Security.clear
  obtain ⟨hchanged, hauthorised, -⟩ := catalog_changes_authorised initial_oneService hrun
  have hdifferent : descriptionCommitted.catalog.service 7 ≠ oneService.catalog.service 7 := by
    decide +kernel
  exact ⟨hchanged 7 (.inl hdifferent), hauthorised⟩

end OpsFlow.Catalog
