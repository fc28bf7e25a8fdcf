import OpsFlow.Catalog.CatalogLaw

namespace OpsFlow.Catalog
open RowStore Transition

variable {τ : Type} [DecidableEq τ] {sec : Auth.Security} {initial s s' : State τ} {t t' : τ}

/-! ## What a request has read -/

def Quiet (log : List Change) (since : ℕ) (id : Uuid) : Prop :=
  ∀ change ∈ log.drop since, change.serviceId ≠ id

theorem Quiet.of_append {log more : List Change} {since : ℕ} {id : Uuid}
    (h : Quiet (log ++ more) since id) (hsince : since ≤ log.length) :
    Quiet log since id ∧ ∀ change ∈ more, change.serviceId ≠ id := by
  unfold Quiet at h
  rw [List.drop_append_of_le_length hsince, List.forall_mem_append] at h
  exact h

/-- The first row that a request has read, as long as nothing has happened to it. -/
def Reading.Fresh (log : List Change) (c : ServiceCatalog) (r : Reading) : Prop :=
  r.since ≤ log.length ∧ (Quiet log r.since r.serviceId → c.service r.serviceId = some r.first)

def Reading.Lists (log : List Change) (c : ServiceCatalog) (r : Reading) (names : List String) :
    Prop :=
  Quiet log r.since r.serviceId → ∀ name, name ∈ names ↔ name ∈ c.dependencies r.serviceId

/-- If nothing has happened between its readings, a request has read the same twice. -/
structure Plan.Consistent (log : List Change) (plan : Plan) : Prop where
  since : plan.since ≤ log.length
  upTo : plan.upTo ≤ log.length
  loaded : Quiet (log.take plan.upTo) plan.since plan.serviceId → plan.loaded = plan.first
  dependencies : Quiet (log.take plan.upTo) plan.since plan.serviceId →
    ∀ name, name ∈ plan.loadedDependencies ↔ name ∈ plan.firstDependencies

def Tx.Reads (log : List Change) (c : ServiceCatalog) : Tx → Prop
  | .found r => r.Fresh log c
  | .read r names | .distinct r names => r.Fresh log c ∧ r.Lists log c names
  | .again r names row => r.Fresh log c ∧ r.Lists log c names ∧
      (Quiet log r.since r.serviceId → row = r.first)
  | .loaded plan => plan.Fresh log c ∧ plan.Consistent log
  | .linking (.updated plan _) _ _ | .unlinking (.updated plan _) _ _ | .done (.updated plan _) _ =>
    plan.Fresh log c ∧ plan.Consistent log
  | _ => True

section Frame
variable {log : List Change} {c c' : ServiceCatalog} {change : Change} (h : Effect c change c')
include h

theorem Reading.Fresh.frame {r : Reading} (hr : r.Fresh log c) : r.Fresh (log ++ [change]) c' := by
  refine ⟨?_, fun hquiet => ?_⟩
  · rw [List.length_append]
    exact hr.1.trans (Nat.le_add_right _ _)
  · obtain ⟨hquiet, hother⟩ := hquiet.of_append hr.1
    rw [(h.other (hother change List.mem_cons_self)).1]
    exact hr.2 hquiet

theorem Reading.Lists.frame {r : Reading} {names : List String} (hr : r.Fresh log c)
    (hnames : r.Lists log c names) : r.Lists (log ++ [change]) c' names := by
  intro hquiet
  obtain ⟨hquiet, hother⟩ := hquiet.of_append hr.1
  rw [(h.other (hother change List.mem_cons_self)).2]
  exact hnames hquiet

omit h in
theorem Plan.Consistent.frame {plan : Plan} (hplan : plan.Consistent log) :
    plan.Consistent (log ++ [change]) := by
  have hlength : log.length ≤ (log ++ [change]).length := by
    rw [List.length_append]
    exact Nat.le_add_right _ _
  have htake : (log ++ [change]).take plan.upTo = log.take plan.upTo :=
    List.take_append_of_le_length hplan.upTo
  refine ⟨hplan.since.trans hlength, hplan.upTo.trans hlength, ?_, ?_⟩
  · rw [htake]
    exact hplan.loaded
  · rw [htake]
    exact hplan.dependencies

/-- A change that is committed meanwhile. -/
theorem Tx.Reads.frame {x : Tx} (hx : x.Reads log c) : x.Reads (log ++ [change]) c' := by
  cases x with
  | found r => exact Reading.Fresh.frame h hx
  | read r names => exact ⟨hx.1.frame h, hx.2.frame h hx.1⟩
  | distinct r names => exact ⟨hx.1.frame h, hx.2.frame h hx.1⟩
  | again r names row =>
    exact ⟨hx.1.frame h, hx.2.1.frame h hx.1, fun hquiet => hx.2.2 (hquiet.of_append hx.1.1).1⟩
  | loaded plan => exact ⟨hx.1.frame h, hx.2.frame⟩
  | linking change' links todo =>
    cases change' with
    | updated plan payload => exact ⟨hx.1.frame h, hx.2.frame⟩
    | _ => trivial
  | unlinking change' links todo =>
    cases change' with
    | updated plan payload => exact ⟨hx.1.frame h, hx.2.frame⟩
    | _ => trivial
  | done change' links =>
    cases change' with
    | updated plan payload => exact ⟨hx.1.frame h, hx.2.frame⟩
    | _ => trivial
  | _ => trivial

end Frame

theorem lists_of_view {r : Reading} {names : List String} (hnothing : s.dependencies.HoldsNothing t)
    (h : s.Lists t r.serviceId names) : r.Lists s.log s.catalog names := by
  intro _ name
  rw [h name, hnothing.view]
  exact Iff.rfl

/-- What a transaction has read, after a step of its own. -/
theorem Step.reads (hx : (s.txs t).Ok s t) (hr : (s.txs t).Reads s.log s.catalog)
    (h : Step sec s t s') : (s'.txs t).Reads s.log s.catalog := by
  cases h with
  | findService htx hview =>
    rw [htx] at hx
    rw [State.txs_advance]
    rw [hx.holds.services.view] at hview
    exact ⟨le_rfl, fun _ => hview⟩
  | readDependencies htx hlist =>
    rw [htx] at hx hr
    rw [State.txs_advance]
    exact ⟨hr, lists_of_view hx.holds.dependencies hlist⟩
  | checkOtherName htx =>
    rw [htx] at hr
    rw [State.txs_advance]
    exact hr
  | checkNothing htx =>
    rw [htx] at hr
    rw [State.txs_advance]
    exact hr
  | findAgain htx hview =>
    rw [htx] at hx hr
    rw [State.txs_advance]
    rw [hx.holds.services.view] at hview
    refine ⟨hr.1, hr.2, fun hquiet => ?_⟩
    exact Option.some.inj (hview.symm.trans (hr.1.2 hquiet))
  | @readAgain r names loadedNames row htx hlist =>
    rw [htx] at hx hr
    rw [State.txs_advance]
    obtain ⟨hfresh, hnames, hrow⟩ := hr
    have htake : s.log.take s.log.length = s.log := List.take_length
    refine ⟨hfresh, hfresh.1, le_rfl, ?_, ?_⟩
    · dsimp only
      rw [htake]
      exact hrow
    · dsimp only
      rw [htake]
      intro hquiet name
      rw [hnames hquiet name]
      exact lists_of_view hx.holds.dependencies hlist hquiet name
  | updateService htx =>
    rw [htx] at hr
    rw [State.txs_advance]
    exact hr
  | keepService htx =>
    rw [htx] at hr
    rw [State.txs_advance]
    exact hr
  | @linkDependency change links name todo htx =>
    rw [htx] at hr
    rw [State.txs_advance]
    cases change with
    | updated => exact hr
    | _ => trivial
  | @linked change links htx =>
    rw [htx] at hr
    rw [State.txs_advance]
    cases change with
    | updated => exact hr
    | _ => trivial
  | @unlinkDependency change links name todo htx =>
    rw [htx] at hr
    rw [State.txs_advance]
    cases change with
    | updated => exact hr
    | _ => trivial
  | @passDependency change links name todo htx =>
    rw [htx] at hr
    rw [State.txs_advance]
    cases change with
    | updated => exact hr
    | _ => trivial
  | @unlinked change links htx =>
    rw [htx] at hr
    rw [State.txs_advance]
    cases change with
    | updated => exact hr
    | _ => trivial
  | commitChange =>
    rw [State.txs_commit]
    trivial
  | commitAccount =>
    rw [State.txs_commit]
    trivial
  | deny | nameTaken | notFound | otherNameTaken | vanished | fail =>
    rw [State.txs_rollback]
    trivial
  | _ =>
    rw [State.txs_advance]
    trivial

structure ReadInv (initial s : State τ) : Prop where
  inv : Inv initial s
  reads : ∀ t, (s.txs t).Reads s.log s.catalog

theorem ReadInv.of_initial (h : initial.Initial) : ReadInv initial initial := by
  refine ⟨.of_initial h, fun t => ?_⟩
  rw [h.idle t]
  trivial

theorem ReadInv.step (hi : ReadInv initial s) (h : Step sec s t s') : ReadInv initial s' := by
  refine ⟨hi.inv.step h, fun t' => ?_⟩
  have hmove : Moves initial s t s' := h.moves hi.inv.constraints hi.inv.accounts (hi.inv.txs t)
  have hbefore : (s'.txs t').Reads s.log s.catalog := by
    by_cases ht : t' = t
    · rw [ht]
      exact h.reads (hi.inv.txs t) (hi.reads t)
    · rw [(hmove.others ht).1]
      exact hi.reads t'
  rcases h.catalog hi.inv with ⟨hlog, hcatalog⟩ | ⟨change, hlog, heffect⟩
  · rw [hlog, hcatalog]
    exact hbefore
  · rw [hlog]
    exact hbefore.frame heffect

/-! ## What an update changes -/

theorem assigned_eq_some {payload : ServiceUpdate} {plan : Plan} {requested : ServiceModel}
    (h : plan.requested payload = some requested) (c : Column) :
    (payload.get c = none → requested.get c = plan.first.get c) ∧
    ∀ value, payload.get c = some (some value) → requested.get c = value := by
  have hassigned := get_replaced h c
  refine ⟨fun hnone => ?_, fun value hvalue => ?_⟩
  · rw [hnone] at hassigned
    exact (Option.some.inj hassigned).symm
  · rw [hvalue] at hassigned
    exact (Option.some.inj hassigned).symm

theorem Plan.Sets.unnamed {plan : Plan} {payload : ServiceUpdate} {requested : ServiceModel}
    {old new : Option ServiceModel} (h : plan.Sets requested old new)
    (hrequested : plan.requested payload = some requested) (hloaded : plan.loaded = plan.first)
    (hsound : ∀ row, old = some row → row.Sound) {c : Column} (hc : payload.get c = none) :
    new.map (·.get c) = old.map (·.get c) := by
  rcases h with ⟨-, rfl⟩ | ⟨row, row', rfl, hstored, rfl⟩
  · rfl
  · have hkept : (flushed plan.loaded requested row).get c = row.get c := by
      rw [get_flushed, if_pos]
      rw [(assigned_eq_some hrequested c).1 hc, hloaded]
    have hstore := get_stored hstored c
    rw [hkept, (hsound row rfl).stored c] at hstore
    rw [Option.map_some, Option.map_some, Option.some.inj hstore]

theorem Plan.Sets.named {plan : Plan} {payload : ServiceUpdate} {requested row : ServiceModel}
    {old new : Option ServiceModel} (h : plan.Sets requested old new)
    (hrequested : plan.requested payload = some requested) (hold : old = some row)
    (hloaded : plan.loaded = row) (hsound : row.Sound) :
    ∃ row', new = some row' ∧ ∀ c value, payload.get c = some (some value) →
      c.store value = some (row'.get c) := by
  rcases h with ⟨hkept, rfl⟩ | ⟨latest, row', hlatest, hstored, rfl⟩
  · refine ⟨row, hold, fun c value hvalue => ?_⟩
    rw [← (assigned_eq_some hrequested c).2 value hvalue, hkept, hloaded]
    exact hsound.stored c
  · obtain rfl := Option.some.inj (hlatest.symm.trans hold)
    refine ⟨row', rfl, fun c value hvalue => ?_⟩
    have hset : (flushed plan.loaded requested latest).get c = value := by
      rw [get_flushed, (assigned_eq_some hrequested c).2 value hvalue]
      split
      · rename_i hsame
        rw [hsame, hloaded]
      · rfl
    rw [← hset]
    exact get_stored hstored c

/-- The dependencies stay where they are named neither in the request nor differently in the two
readings. -/
theorem dependencies_unnamed {plan : Plan} {names added : List String}
    (hsame : ∀ name, name ∈ plan.loadedDependencies ↔ name ∈ plan.firstDependencies)
    (hnames : names = plan.firstDependencies)
    (hadded : (plan.additions names).mapM storeDependency = some added) :
    plan.removals names = [] ∧ added = [] := by
  subst hnames
  have hadditions : plan.additions plan.firstDependencies = [] := by
    refine List.filter_eq_nil_iff.mpr fun name hname => ?_
    simp [(hsame name).mpr hname]
  have hremovals : plan.removals plan.firstDependencies = [] := by
    refine List.filter_eq_nil_iff.mpr fun name hname => ?_
    simp [(hsame name).mp hname]
  rw [hadditions] at hadded
  exact ⟨hremovals, (Option.some.inj hadded).symm⟩

theorem Plan.Sets.reverted {plan : Plan} {payload : ServiceUpdate} {requested : ServiceModel}
    {old new : Option ServiceModel} (h : plan.Sets requested old new)
    (hrequested : plan.requested payload = some requested) {c : Column} (hc : payload.get c = none)
    (hne : plan.loaded.get c ≠ plan.first.get c) :
    ∃ row', new = some row' ∧ c.store (plan.first.get c) = some (row'.get c) := by
  have hfirst := (assigned_eq_some hrequested c).1 hc
  rcases h with ⟨rfl, -⟩ | ⟨row, row', -, hstored, rfl⟩
  · exact absurd hfirst hne
  · refine ⟨row', rfl, ?_⟩
    have hset : (flushed plan.loaded requested row).get c = plan.first.get c := by
      rw [get_flushed, hfirst, if_neg (Ne.symm hne)]
    rw [← hset]
    exact get_stored hstored c

/-- An update keeps every column that it does not name, and the dependencies if it does not name
these, unless the service has changed between its two readings; a column that has changed there is
set back. It gives the columns that it names the requested values, unless the service has changed
since the first reading. -/
theorem update_committed {labels : List τ} (h : initial.Initial)
    (hrun : Run (Step sec) initial labels s) {plan : Plan} {payload : ServiceUpdate} {links : Links}
    (hdone : s.txs t = .done (.updated plan payload) links) {s' : State τ}
    (hs' : s' = s.commit t [.updated plan payload] (.success 200)) :
    (Quiet (s.log.take plan.upTo) plan.since plan.serviceId →
      (∀ c : Column, payload.get c = none →
        (s'.catalog.service plan.serviceId).map (·.get c) =
          (s.catalog.service plan.serviceId).map (·.get c)) ∧
      (payload.dependencies = none →
        s'.catalog.dependencies plan.serviceId = s.catalog.dependencies plan.serviceId)) ∧
    (∀ c : Column, payload.get c = none → plan.loaded.get c ≠ plan.first.get c →
      ∃ row, s'.catalog.service plan.serviceId = some row ∧
        c.store (plan.first.get c) = some (row.get c)) ∧
    (Quiet s.log plan.since plan.serviceId → ∃ row, s'.catalog.service plan.serviceId = some row ∧
      ∀ (c : Column) (value : c.Value), payload.get c = some (some value) →
        c.store value = some (row.get c)) := by
  have hi : ReadInv initial s :=
    hrun.invariant (fun _ _ _ hi hstep => hi.step hstep) (.of_initial h)
  have hx := hi.inv.txs t
  have hreads := hi.reads t
  rw [hdone] at hx hreads
  obtain ⟨hfresh, hconsistent⟩ := hreads
  have heffect := hx.effect hi.inv.constraints [.updated plan payload] (.success 200)
  rw [← hs'] at heffect
  have hrows := hi.inv.constraints.wellFormed.rows
  generalize s'.catalog = c' at heffect ⊢
  cases heffect with
  | @updated _ _ requested row requestedNames added names hrequested hsets hnames hadded hgone
    hkept =>
    have hrow : (s.catalog.put plan.serviceId row names).service plan.serviceId = row :=
      Function.update_self ..
    have hlinks : (s.catalog.put plan.serviceId row names).dependencies plan.serviceId = names :=
      Function.update_self ..
    rw [hrow, hlinks]
    refine ⟨fun hquiet => ⟨fun c hc => ?_, fun hunnamed => ?_⟩, fun c hc hne => ?_,
      fun hquiet => ?_⟩
    · exact hsets.unnamed hrequested (hconsistent.loaded hquiet) (hrows plan.serviceId) hc
    · unfold Plan.requestedDependencies at hnames
      rw [hunnamed] at hnames
      obtain ⟨hremovals, rfl⟩ := dependencies_unnamed (hconsistent.dependencies hquiet)
        (Option.some.inj hnames).symm hadded
      ext name
      have hname : name ∉ plan.removals requestedNames := by
        rw [hremovals]
        exact List.not_mem_nil
      rw [hkept name hname]
      exact ⟨fun h => h.resolve_left List.not_mem_nil, .inr⟩
    · exact hsets.reverted hrequested hc hne
    · have hold := hfresh.2 hquiet
      have hquiet' : Quiet (s.log.take plan.upTo) plan.since plan.serviceId := by
        intro change hchange
        refine hquiet change ?_
        rw [List.drop_take] at hchange
        exact List.mem_of_mem_take hchange
      exact hsets.named hrequested hold (hconsistent.loaded hquiet') (hrows _ _ hold)

/-- The first update sets the status and keeps the name; the other one, which has not seen that,
sets the status back. -/
theorem update_committed_overtaken :
    (∃ row, statusCommitted.catalog.service 7 = some row ∧ row.status = .critical) ∧
    (statusCommitted.catalog.service 7).map (·.name) = some "checkout" ∧
    ∃ row, descriptionCommitted.catalog.service 7 = some row ∧ row.status = .healthy := by
  obtain ⟨_, hstatus⟩ := statusWritten_run Auth.Security.clear
  obtain ⟨_, hdescription⟩ := descriptionWritten_run Auth.Security.clear
  have hdone : statusWritten.txs true =
      .done (.updated statusPlan (statusChanges .critical)) ⟨[], []⟩ := State.txs_advance ..
  have hdone' : descriptionWritten.txs false =
      .done (.updated overtakenPlan (descriptionChanges "Pays")) ⟨[], []⟩ := State.txs_advance ..
  obtain ⟨hkept, -, hnamed⟩ := update_committed initial_oneService hstatus hdone rfl
  obtain ⟨-, hreverted, -⟩ := update_committed initial_oneService hdescription hdone' rfl
  have hquiet : Quiet statusWritten.log statusPlan.since statusPlan.serviceId :=
    fun change hchange => by contradiction
  obtain ⟨row, hrow, hset⟩ := hnamed hquiet
  obtain ⟨row', hrow', hback⟩ := hreverted .status rfl (by decide)
  exact ⟨⟨row, hrow, (Option.some.inj (hset .status _ rfl)).symm⟩,
    (hkept fun change hchange => by contradiction).1 .name rfl,
    row', hrow', (Option.some.inj hback).symm⟩

end OpsFlow.Catalog
