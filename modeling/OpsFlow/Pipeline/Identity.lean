import OpsFlow.Pipeline.Provenance

namespace OpsFlow.Pipeline
open Transition RowStore Execution ConditionalStore
open OpsFlow.Incidents (Incident IncidentCreate Draw createdIncident Reconciliation ReconcileLabel
  ReconcileStep Job Effect CompletionMessage CompletionRow)
open OpsFlow.Outbox (IncidentTaskOutboxMessage taskOutbox taskPublication)

variable {κ ω τ ι : Type}

/-! ## The invariant -/

structure CreatedInv (created : List IncidentTaskOutboxMessage) : Prop where
  requests : ∀ m ∈ created, IsRequest m
  /-- a message is known by its task, and by its incident -/
  unique : ∀ m ∈ created, ∀ m' ∈ created,
    m.taskId = m'.taskId ∨ m.incidentId = m'.incidentId → m = m'

structure TasksInv (tasks : Outbox.State IncidentTaskOutboxMessage κ)
    (created : List IncidentTaskOutboxMessage) : Prop where
  inv : tasks.Inv taskOutbox
  rows : ∀ k row, tasks.rows.committed k = some row → row.message ∈ created
  kept : ∀ m ∈ created, ∃ row, tasks.rows.committed m.id = some row ∧ row.message = m
  sent : ∀ message ∈ tasks.sent, ∃ m ∈ created, message = taskPublication m

def couldNotBeLoaded : TaskExecutionCollisionError :=
  ⟨"Task execution record reported an existing task_id but could not be loaded"⟩

def IntakeInv (created : List IncidentTaskOutboxMessage) : Intake → Prop
  | .idle => True
  | .loading task incidentId => ∃ m ∈ created, task.identity incidentId = identityOf m
  | .raised error => error = couldNotBeLoaded

/-- The records that workers have put, and the executions that reconcilers have claimed. -/
structure StoreInv (store : Reconciliation τ ι) (created : List IncidentTaskOutboxMessage) :
    Prop where
  inv : store.Inv
  executions : ∀ key item, store.executions key = some item →
    ∃ m ∈ created, key = m.taskId.str ∧ item.identity = identityOf m
  held : ∀ execution, Held store execution → ∃ m ∈ created, OfMessage execution m

structure Inv (s : System κ ω τ ι) : Prop where
  requests : ∀ c ∈ s.created, RequestOf c.message c.incident c.correlationId
  created : CreatedInv s.messages
  tasks : TasksInv s.tasks s.messages
  workers : ∀ w, IntakeInv s.messages (s.workers w)
  store : StoreInv s.store s.messages

variable {created created' : List IncidentTaskOutboxMessage} {m m' : IncidentTaskOutboxMessage}
  {store store' : Reconciliation τ ι} {tasks tasks' : Outbox.State IncidentTaskOutboxMessage κ}
  {s s' : System κ ω τ ι}

theorem IntakeInv.mono {x : Intake} (h : IntakeInv created x) (hsub : created ⊆ created') :
    IntakeInv created' x := by
  cases x with
  | idle => trivial
  | loading task incidentId =>
    obtain ⟨m, hm, hidentity⟩ := h
    exact ⟨m, hsub hm, hidentity⟩
  | raised error => exact h

theorem StoreInv.mono (h : StoreInv store created) (hsub : created ⊆ created') :
    StoreInv store created' where
  inv := h.inv
  executions := fun key item hitem => by
    obtain ⟨m, hm, hrest⟩ := h.executions key item hitem
    exact ⟨m, hsub hm, hrest⟩
  held := fun execution hheld => by
    obtain ⟨m, hm, hof⟩ := h.held execution hheld
    exact ⟨m, hsub hm, hof⟩

/-! ## The steps -/

/-- A new request with identifiers of its own. -/
theorem CreatedInv.create (h : CreatedInv created) (hm : IsRequest m)
    (hfresh : ∀ m' ∈ created, m'.taskId ≠ m.taskId ∧ m'.incidentId ≠ m.incidentId) :
    CreatedInv (created ++ [m]) where
  requests := fun m' hm' => by
    obtain hm' | hm' := List.mem_append.mp hm'
    · exact h.requests m' hm'
    · obtain rfl := List.mem_singleton.mp hm'
      exact hm
  unique := fun a ha b hb hid => by
    obtain hold | ha := List.mem_append.mp ha
    · obtain hb | hb := List.mem_append.mp hb
      · exact h.unique a hold b hb hid
      · obtain rfl := List.mem_singleton.mp hb
        obtain ⟨htask, hincident⟩ := hfresh a hold
        exact (hid.elim htask hincident).elim
    · obtain rfl := List.mem_singleton.mp ha
      obtain hb | hb := List.mem_append.mp hb
      · obtain ⟨htask, hincident⟩ := hfresh b hb
        exact (hid.elim (fun h => htask h.symm) fun h => hincident h.symm).elim
      · obtain rfl := List.mem_singleton.mp hb
        rfl

theorem StoreInv.edit {k : Uuid} {row : Option Incident} (h : StoreInv store created)
    (hrow : ∀ incident ∈ row, incident.id = k) :
    StoreInv (System.editIncident store k row) created where
  inv := Incidents.Reconciliation.inv_edit h.inv hrow
  executions := h.executions
  held := h.held

theorem StoreInv.put {executions' : Execution.Table} {task : Task} {incidentId acceptedAt : String}
    {expiration : ℤ} (h : StoreInv store created) (hm : m ∈ created)
    (hidentity : task.identity incidentId = identityOf m)
    (hput : putExecution store.executions task incidentId acceptedAt expiration =
      some executions') :
    StoreInv { store with executions := executions' } created where
  inv := by
    have hinv : Reconciliation.Inv { store with
        executions := (putExecution store.executions task incidentId acceptedAt expiration).getD
          store.executions } := Incidents.Reconciliation.inv_put h.inv
    rw [hput] at hinv
    exact hinv
  executions := fun key item hitem => by
    obtain ⟨-, rfl⟩ := putIfAbsent_eq_some.mp hput
    obtain ⟨rfl, rfl⟩ | ⟨-, hitem⟩ := update_eq_some.mp hitem
    · exact ⟨m, hm, congrArg TaskIdentity.taskId hidentity, hidentity⟩
    · exact h.executions key item hitem
  held := h.held

theorem StoreInv.expire (h : StoreInv store created) (taskId : String) :
    StoreInv { store with executions := Function.update store.executions taskId none } created := by
  have hold {key : String} {item : Item}
      (hitem : Function.update store.executions taskId none key = some item) :
      store.executions key = some item := by
    by_cases hkey : key = taskId
    · subst hkey
      rw [Function.update_self] at hitem
      contradiction
    · rw [Function.update_of_ne hkey] at hitem
      exact hitem
  exact
    { inv := Incidents.Reconciliation.inv_executions h.inv fun key item hitem _ => .inl (hold hitem)
      executions := fun key item hitem => h.executions key item (hold hitem)
      held := h.held }

/-- A worker that takes a delivered message goes by the identity of its row. -/
theorem identity_delivered {message : Outbox.SqsMessage} {members : Members} {task : Task}
    {messageId idempotencyKey incidentId : String} (hcreated : CreatedInv created)
    (htasks : TasksInv tasks created) (hsent : message ∈ tasks.sent)
    (hrecord : taskOfRecord Json.parse? (sqsRecord messageId message) =
      .ok (members, idempotencyKey))
    (hincident : incidentIdFromTask members = .ok incidentId)
    (htask : Task.ofMembers? members = some task) :
    ∃ m ∈ created, task.identity incidentId = identityOf m := by
  obtain ⟨m, hm, rfl⟩ := htasks.sent message hsent
  obtain rfl := taskOfRecord_sqsRecord (hcreated.requests m hm) hrecord
  exact ⟨m, hm, identity_received htask hincident⟩

/-- The record that a worker reads after its put has failed is one of its own task. -/
theorem loadExisting_error {task : Task} {incidentId : String} {error : TaskExecutionCollisionError}
    (hcreated : CreatedInv created) (hstore : StoreInv store created) (hm : m ∈ created)
    (hidentity : task.identity incidentId = identityOf m)
    (h : loadExisting store.executions task incidentId = .error error) :
    error = couldNotBeLoaded := by
  unfold loadExisting at h
  cases hexisting : store.executions task.taskId with
  | none =>
    rw [hexisting] at h
    exact (Except.error.inj h).symm
  | some existing =>
    obtain ⟨m', hm', hkey, hidentity'⟩ := hstore.executions _ _ hexisting
    have htask : task.taskId = m.taskId.str := congrArg TaskIdentity.taskId hidentity
    obtain rfl := hcreated.unique m hm m' hm' (.inl (str_injective (htask.symm.trans hkey)))
    have hvalid : validateExistingRecord existing task incidentId = .ok () :=
      validateExistingRecord_eq_ok.mpr (hidentity'.trans hidentity.symm)
    rw [hexisting] at h
    change validateExistingRecord existing task incidentId = _ at h
    rw [hvalid] at h
    contradiction

theorem Inv.workers_update [DecidableEq ω] {w : ω} {x : Intake} (hi : Inv s)
    (hx : IntakeInv s.messages x) :
    ∀ w', IntakeInv s.messages (Function.update s.workers w x w') := by
  intro w'
  by_cases hw : w' = w
  · subst hw
    rw [Function.update_self]
    exact hx
  · rw [Function.update_of_ne hw]
    exact hi.workers w'

section Steps
variable [DecidableEq κ] [DecidableEq ω] [DecidableEq τ] [DecidableEq ι] {retrySeconds : κ → ℕ}

theorem TasksInv.create (h : TasksInv tasks created)
    (hstep : Outbox.Step taskOutbox retrySeconds tasks (.create m) tasks') :
    TasksInv tasks' (created ++ [m]) := by
  have hinv := h.inv.step hstep
  cases hstep with
  | create habsent hfree =>
    refine ⟨hinv, fun k row hrow => ?_, fun m' hm' => ?_, fun message hmessage => ?_⟩
    · obtain ⟨rfl, rfl⟩ | ⟨-, hrow⟩ := update_eq_some.mp hrow
      · exact List.mem_append_right _ List.mem_cons_self
      · exact List.mem_append_left _ (h.rows k row hrow)
    · obtain hm' | hm' := List.mem_append.mp hm'
      · obtain ⟨row, hrow, hmessage⟩ := h.kept m' hm'
        refine ⟨row, update_eq_some.mpr (.inr ⟨?_, hrow⟩), hmessage⟩
        intro hid
        rw [hid, habsent] at hrow
        contradiction
      · obtain rfl := List.mem_singleton.mp hm'
        exact ⟨_, Function.update_self .., rfl⟩
    · obtain ⟨m', hm', heq⟩ := h.sent message hmessage
      exact ⟨m', List.mem_append_left _ hm', heq⟩

theorem TasksInv.relay {label : Outbox.Label IncidentTaskOutboxMessage κ}
    (h : TasksInv tasks created) (hlabel : ∀ message, label ≠ .create message)
    (hstep : Outbox.Step taskOutbox retrySeconds tasks label tasks') : TasksInv tasks' created where
  inv := h.inv.step hstep
  rows := fun k row hrow => by
    obtain ⟨old, hold, hmessage⟩ := hstep.old h.inv hlabel hrow
    rw [← hmessage]
    exact h.rows k old hold
  kept := fun m hm => by
    obtain ⟨row, hrow, hmessage⟩ := h.kept m hm
    obtain ⟨row', hrow', hmessage', -⟩ := hstep.keeps h.inv hrow
    exact ⟨row', hrow', hmessage'.trans hmessage⟩
  sent := fun message hmessage => by
    obtain hold | ⟨k, row, hrow, rfl⟩ := hstep.sent_of_row h.inv hmessage
    · exact h.sent message hold
    · exact ⟨row.message, h.rows k row hrow, rfl⟩

theorem StoreInv.reconcile {label : ReconcileLabel τ ι} (h : StoreInv store created)
    (hown : ownLabel label = true) (hstep : ReconcileStep store label store') :
    StoreInv store' created := by
  have hexecutions : ∀ key item, store'.executions key = some item →
      ∃ m ∈ created, key = m.taskId.str ∧ item.identity = identityOf m := by
    intro key item hitem
    obtain ⟨old, hold, hsame⟩ := executions_step hstep hown hitem
    obtain ⟨m, hm, hkey, hidentity⟩ := h.executions key old hold
    exact ⟨m, hm, hkey, hsame.trans hidentity⟩
  refine ⟨Incidents.Reconciliation.inv_step h.inv hstep, hexecutions, fun execution hheld => ?_⟩
  obtain hheld | ⟨key, item, hitem, hdomain⟩ := held_step hstep hheld
  · exact h.held execution hheld
  · obtain ⟨m, hm, -, hidentity⟩ := hexecutions key item hitem
    exact ⟨m, hm, ofMessage_toDomain hdomain hidentity⟩

theorem Inv.step {label : Label κ ω τ ι} (hi : Inv s) (h : Step retrySeconds s label s') :
    Inv s' := by
  cases h with
  | @create payload draw creation tasks' hincident hstored hholder hcommitted hfresh hstep =>
    have hmessages : System.messages { s with
        tasks := tasks'
        store := System.editIncident s.store creation.incident.id (some creation.incident)
        created := s.created ++ [creation] } = s.messages ++ [creation.message] :=
          List.map_append ..
    have hsub : s.messages ⊆ s.messages ++ [creation.message] := List.subset_append_left _ _
    have hrequest := requestOf_storedTask hstored
    have hedit :
        StoreInv (System.editIncident s.store creation.incident.id (some creation.incident))
        s.messages := hi.store.edit fun i hmem => by rw [Option.mem_some_iff.mp hmem]
    refine ⟨fun c hc => ?_, ?_, ?_, fun w => ?_, ?_⟩
    · obtain hc | hc := List.mem_append.mp hc
      · exact hi.requests c hc
      · obtain rfl := List.mem_singleton.mp hc
        exact hrequest
    · rw [hmessages]
      exact hi.created.create hrequest.toIsRequest hfresh
    · rw [hmessages]
      exact hi.tasks.create hstep
    · rw [hmessages]
      exact (hi.workers w).mono hsub
    · rw [hmessages]
      exact hedit.mono hsub
  | @update k row row' hholder hrow hid =>
    exact
      { requests := hi.requests
        created := hi.created
        tasks := hi.tasks
        workers := hi.workers
        store := hi.store.edit fun i hmem => by rw [← Option.mem_some_iff.mp hmem, hid] }
  | delete hholder =>
    exact
      { requests := hi.requests
        created := hi.created
        tasks := hi.tasks
        workers := hi.workers
        store := hi.store.edit fun i hmem => by contradiction }
  | relay hlabel hstep =>
    exact
      { requests := hi.requests
        created := hi.created
        tasks := hi.tasks.relay hlabel hstep
        workers := hi.workers
        store := hi.store }
  | accept hidle hsent hrecord htype hincident htask hput =>
    -- what the worker stores is the identity of a message that has been created
    obtain ⟨m, hm, hidentity⟩ :=
      identity_delivered hi.created hi.tasks hsent hrecord hincident htask
    exact
      { requests := hi.requests
        created := hi.created
        tasks := hi.tasks
        workers := hi.workers
        store := hi.store.put hm hidentity hput }
  | acceptExisting hidle hsent hrecord htype hincident htask hput =>
    exact
      { requests := hi.requests
        created := hi.created
        tasks := hi.tasks
        workers := hi.workers_update
          (identity_delivered hi.created hi.tasks hsent hrecord hincident htask)
        store := hi.store }
  | @load w task incidentId hloading =>
    have hw := hi.workers w
    rw [hloading] at hw
    obtain ⟨m, hm, hidentity⟩ := hw
    refine
      { requests := hi.requests
        created := hi.created
        tasks := hi.tasks
        workers := hi.workers_update ?_
        store := hi.store }
    -- whatever the worker finds under the key is of the same message
    split
    · trivial
    · rename_i error herror
      exact loadExisting_error hi.created hi.store hm hidentity herror
  | restart =>
    exact
      { requests := hi.requests
        created := hi.created
        tasks := hi.tasks
        workers := hi.workers_update trivial
        store := hi.store }
  | @expire taskId =>
    exact
      { requests := hi.requests
        created := hi.created
        tasks := hi.tasks
        workers := hi.workers
        store := hi.store.expire taskId }
  | reconcile hown hstep =>
    exact
      { requests := hi.requests
        created := hi.created
        tasks := hi.tasks
        workers := hi.workers
        store := hi.store.reconcile hown hstep }

omit [DecidableEq κ] [DecidableEq ω] [DecidableEq τ] [DecidableEq ι] in
theorem inv_start (incidents : Uuid → Option Incident) :
    Inv (System.start incidents : System κ ω τ ι) where
  requests := fun c hc => by contradiction
  created := ⟨fun m hm => by contradiction, fun m hm => by contradiction⟩
  tasks := ⟨.start, fun k row hrow => by contradiction, fun m hm => by contradiction,
    fun message hmessage => by contradiction⟩
  workers := fun w => trivial
  store :=
    { inv := Incidents.Reconciliation.inv_start incidents
      executions := fun key item hitem => by contradiction
      held := fun execution hheld => by
        obtain ⟨i, hi⟩ | ⟨a, job, hjob, -⟩ := hheld
        · contradiction
        · contradiction }

theorem inv_run {incidents : Uuid → Option Incident} {labels : List (Label κ ω τ ι)}
    (h : Run (Step retrySeconds) (System.start incidents) labels s) : Inv s :=
  h.invariant (fun _ _ _ hi hstep => hi.step hstep) (inv_start incidents)

def Known (incidents : Uuid → Option Incident) (s : System κ ω τ ι) : Prop :=
  ∀ k incident, s.store.incidents.Version k incident →
    (incidents k).isSome ∨ ∃ c ∈ s.created, c.incident.id = k

theorem Known.step {incidents : Uuid → Option Incident} {label : Label κ ω τ ι}
    (hknown : Known incidents s) (h : Step retrySeconds s label s') : Known incidents s' := by
  intro k incident hv
  cases h with
  | create hincident hstored hholder hcommitted hfresh hstep =>
    obtain hold | ⟨rfl, -⟩ := version_editIncident hv
    · refine (hknown k incident hold).imp_right ?_
      rintro ⟨c, hc, hid⟩
      exact ⟨c, List.mem_append_left _ hc, hid⟩
    · exact .inr ⟨_, List.mem_append_right _ (List.mem_singleton_self _), rfl⟩
  | @update k' row row' hholder hrow hid =>
    obtain hold | ⟨rfl, -⟩ := version_editIncident hv
    · exact hknown k incident hold
    · exact hknown k row (.inl hrow)
  | delete hholder =>
    obtain hold | ⟨-, hnone⟩ := version_editIncident hv
    · exact hknown k incident hold
    · contradiction
  | reconcile hown hstep =>
    obtain ⟨old, hold⟩ := version_step hstep hown hv
    exact hknown k old hold
  | _ => exact hknown k incident hv

omit [DecidableEq κ] [DecidableEq ω] [DecidableEq τ] [DecidableEq ι] in
theorem known_start (incidents : Uuid → Option Incident) :
    Known incidents (System.start incidents : System κ ω τ ι) := by
  intro k incident hv
  obtain hcommitted | ⟨⟨t, ht⟩, -⟩ := hv
  · obtain ⟨row, hrow, -⟩ := Option.map_eq_some_iff.mp hcommitted
    exact .inl (Option.isSome_of_mem hrow)
  · contradiction

theorem known_run {incidents : Uuid → Option Incident} {labels : List (Label κ ω τ ι)}
    (h : Run (Step retrySeconds) (System.start incidents) labels s) : Known incidents s :=
  h.invariant (fun _ _ _ hknown hstep => hknown.step hstep) (known_start incidents)

/-- The creations that have committed are those of the run. -/
theorem mem_created_run {incidents : Uuid → Option Incident} {labels : List (Label κ ω τ ι)}
    {c : Creation} (h : Run (Step retrySeconds) (System.start incidents) labels s) :
    c ∈ s.created ↔ .create c ∈ labels := by
  induction h with
  | nil => exact iff_of_false List.not_mem_nil List.not_mem_nil
  | snoc _ hstep ih =>
    rw [List.mem_append, List.mem_singleton]
    cases hstep with
    | create => rw [List.mem_append, List.mem_singleton, ih, Label.create.injEq]
    | _ => exact ih.trans (by simp)

end Steps

/-! ## The law -/

structure CompletionOf (completion : CompletionMessage) (m : IncidentTaskOutboxMessage) : Prop where
  taskId : completion.taskId = m.taskId
  incidentId : completion.incidentId = m.incidentId
  correlationId : completion.correlationId = m.correlationId

structure RecordOf (item : Item) (m : IncidentTaskOutboxMessage) : Prop where
  taskId : item.taskId = m.taskId.str
  incidentId : item.incidentId = m.incidentId.str
  idempotencyKey : item.idempotencyKey = m.idempotencyKey
  correlationId : item.correlationId = m.correlationId

theorem completionOf_built {job : Job} {effect : Effect} {built : CompletionMessage}
    (hvalid : job.Valid) (happlied : Incidents.Applied job effect)
    (hbuilt : Incidents.BuiltFor job effect built) (hof : OfMessage job.execution m) :
    CompletionOf built m := by
  obtain ⟨id, eventId, occurredAt, rfl⟩ := hbuilt
  obtain ⟨hexisting, c₁, c₂, hwritten⟩ := happlied
  have hresult : effect.result.incidentId = effect.existing.id := by
    have hcompute := Incidents.result_incidentId effect.existing c₁ c₂
    rw [← hwritten] at hcompute
    exact hcompute
  have htask : Uuid.parse? job.execution.taskId = some job.taskId := hvalid
  rw [hof.taskId, parse?_str] at htask
  exact
    { taskId := (Option.some.inj htask).symm
      incidentId := hresult.trans (hexisting.trans hof.incidentId)
      correlationId := hof.correlationId }

theorem StoreInv.completion {k : Uuid} {row : CompletionRow} (h : StoreInv store created)
    (hrow : store.outbox.committed k = some row) : ∃ m ∈ created, CompletionOf row.message m := by
  obtain ⟨c, hc, hmessage⟩ := h.inv.outbox.first k row hrow
  obtain ⟨hcommitted, hvalid, happlied, hbuilt⟩ := h.inv.log c (List.mem_of_find?_eq_some hc)
  have hheld : Held store c.job.execution :=
    .inr ⟨c.attempt, c.job, by rw [hcommitted]; rfl, rfl⟩
  obtain ⟨m, hm, hof⟩ := h.held _ hheld
  rw [hmessage]
  exact ⟨m, hm, completionOf_built hvalid happlied hbuilt hof⟩

/-- The step commits the incident and the message of the creation. -/
structure Commits (c : Creation) (s : System κ ω τ ι) (label : Label κ ω τ ι)
    (s' : System κ ω τ ι) :
    Prop where
  label : label = .create c
  absent : s.store.incidents.committed c.incident.id = none
  incident : s'.store.incidents.committed c.incident.id = some c.incident
  message : ∃ row, s'.tasks.rows.committed c.message.id = some row ∧ row.message = c.message

/-- What the pipeline keeps, in the state that a run has led to. -/
structure IdentityLaw [DecidableEq κ] [DecidableEq ω] [DecidableEq τ] [DecidableEq ι]
    (retrySeconds : κ → ℕ) (incidents : Uuid → Option Incident) (labels : List (Label κ ω τ ι))
    (s : System κ ω τ ι) : Prop where
  committed : ∀ c, .create c ∈ labels →
    Passed (Step retrySeconds) (Commits c) (System.start incidents) labels s
  created : ∀ c, .create c ∈ labels → ∃ k row, s.tasks.rows.committed k = some row ∧
    RequestOf row.message c.incident c.correlationId ∧
    ∀ k' row', s.tasks.rows.committed k' = some row' →
      row'.message.incidentId = c.incident.id → k' = k
  incidents : ∀ k incident, s.store.incidents.committed k = some incident →
    (incidents k).isSome ∨ ∃ c, .create c ∈ labels ∧ c.incident.id = k
  rows : ∀ k row, s.tasks.rows.committed k = some row →
    ∃ c, .create c ∈ labels ∧ RequestOf row.message c.incident c.correlationId
  records : ∀ taskId item, s.store.executions taskId = some item →
    ∃! k, ∃ row, s.tasks.rows.committed k = some row ∧ RecordOf item row.message
  completions : ∀ id done, s.store.outbox.committed id = some done →
    ∃! k, ∃ row, s.tasks.rows.committed k = some row ∧ CompletionOf done.message row.message
  once : ∀ labels' s', Run (Step retrySeconds) s labels' s' → ∀ c, .create c ∈ labels ++ labels' →
    ∀ id done id' done', s.store.outbox.committed id = some done →
      s'.store.outbox.committed id' = some done' → done.message.incidentId = c.incident.id →
      done'.message.incidentId = c.incident.id → done.message.eventId = done'.message.eventId
  intake : ∀ w error, s.workers w = .raised error → error = couldNotBeLoaded
  outbox : ∀ a job effect built k row, s.store.attempts a = .conflicted job effect built →
    s.store.outbox.view a k = some row → row.message.taskId = built.taskId →
    row.message.incidentId = built.incidentId ∧ row.message.correlationId = built.correlationId

theorem Inv.exists_unique_row {P : IncidentTaskOutboxMessage → Prop} (hi : Inv s)
    (hm : m ∈ s.messages) (hP : P m) (hunique : ∀ m' ∈ s.messages, P m' → m' = m) :
    ∃! k, ∃ row, s.tasks.rows.committed k = some row ∧ P row.message := by
  obtain ⟨row, hrow, hmessage⟩ := hi.tasks.kept m hm
  refine ⟨m.id, ⟨row, hrow, by rw [hmessage]; exact hP⟩, ?_⟩
  rintro k ⟨row', hrow', hP'⟩
  have hkey : row'.message.id = k := hi.tasks.inv.keyed k row' hrow'
  rw [← hkey, hunique row'.message (hi.tasks.rows k row' hrow') hP']

variable [DecidableEq κ] [DecidableEq ω] [DecidableEq τ] [DecidableEq ι] {retrySeconds : κ → ℕ}

/-- A completion row stays, with its message. -/
theorem completion_step {label : Label κ ω τ ι} (hi : Inv s) (h : Step retrySeconds s label s')
    {id : Uuid} {done : CompletionRow} (hdone : s.store.outbox.committed id = some done) :
    ∃ done', s'.store.outbox.committed id = some done' ∧ done'.message = done.message := by
  cases h with
  | reconcile hown hstep => exact Incidents.Reconciliation.row_step hi.store.inv hstep hdone
  | _ => exact ⟨done, hdone, rfl⟩

theorem completion_run {labels : List (Label κ ω τ ι)} (hi : Inv s)
    (h : Run (Step retrySeconds) s labels s') {id : Uuid} {done : CompletionRow}
    (hdone : s.store.outbox.committed id = some done) :
    Inv s' ∧ ∃ done', s'.store.outbox.committed id = some done' ∧ done'.message = done.message := by
  induction h with
  | nil => exact ⟨hi, done, hdone, rfl⟩
  | snoc _ hstep ih =>
    obtain ⟨hi₁, done₁, hdone₁, hmessage₁⟩ := ih
    obtain ⟨done₂, hdone₂, hmessage₂⟩ := completion_step hi₁ hstep hdone₁
    exact ⟨hi₁.step hstep, done₂, hdone₂, hmessage₂.trans hmessage₁⟩

omit [DecidableEq κ] [DecidableEq ω] [DecidableEq τ] [DecidableEq ι] in
/-- The completions of one incident are one row. -/
theorem Inv.completion_unique (hi : Inv s) (hm : m ∈ s.messages) {id id' : Uuid}
    {done done' : CompletionRow} (hdone : s.store.outbox.committed id = some done)
    (hdone' : s.store.outbox.committed id' = some done')
    (hincident : done.message.incidentId = m.incidentId)
    (hincident' : done'.message.incidentId = m.incidentId) : done = done' := by
  obtain ⟨m₁, hm₁, hof⟩ := hi.store.completion hdone
  obtain ⟨m₂, hm₂, hof'⟩ := hi.store.completion hdone'
  obtain rfl := hi.created.unique m₁ hm₁ m hm (.inr (hof.incidentId.symm.trans hincident))
  obtain rfl := hi.created.unique m₂ hm₂ m₁ hm (.inr (hof'.incidentId.symm.trans hincident'))
  obtain rfl := hi.store.inv.outbox.unique id id' done done' (.inl hdone) (.inl hdone')
    (hof.taskId.trans hof'.taskId.symm)
  exact Option.some.inj (hdone.symm.trans hdone')

omit [DecidableEq κ] [DecidableEq ω] [DecidableEq τ] [DecidableEq ι] in
theorem Inv.message_mem {c : Creation} (hc : c ∈ s.created) : c.message ∈ s.messages :=
  List.mem_map_of_mem hc

omit [DecidableEq κ] [DecidableEq ω] [DecidableEq τ] [DecidableEq ι] in
/-- The row of a creation asks for the processing of its incident, and no other row names it. -/
theorem Inv.created_row (hi : Inv s) {c : Creation} (hc : c ∈ s.created) :
    ∃ k row, s.tasks.rows.committed k = some row ∧
      RequestOf row.message c.incident c.correlationId ∧
      ∀ k' row', s.tasks.rows.committed k' = some row' →
        row'.message.incidentId = c.incident.id → k' = k := by
  have hrequest := hi.requests c hc
  obtain ⟨row, hrow, hmessage⟩ := hi.tasks.kept c.message (Inv.message_mem hc)
  refine ⟨c.message.id, row, hrow, by rw [hmessage]; exact hrequest, fun k' row' hrow' hid => ?_⟩
  have hkey : row'.message.id = k' := hi.tasks.inv.keyed k' row' hrow'
  have hsame := hi.created.unique row'.message (hi.tasks.rows k' row' hrow') c.message
    (Inv.message_mem hc) (.inr (hid.trans hrequest.incidentId.symm))
  rw [← hkey, hsame]

/-- A creation of the run is one of its commits. -/
theorem commits_of_mem {incidents : Uuid → Option Incident} {labels : List (Label κ ω τ ι)}
    {c : Creation} (h : Run (Step retrySeconds) (System.start incidents) labels s)
    (hc : .create c ∈ labels) :
    Passed (Step retrySeconds) (Commits c) (System.start incidents) labels s := by
  obtain ⟨before, after, rfl⟩ := List.append_of_mem hc
  obtain ⟨s₁, hbefore, hrest⟩ := h.of_append rfl
  obtain ⟨s₂, hstep, hafter⟩ := hrest.of_cons rfl
  refine ⟨before, s₁, _, s₂, after, hbefore, hstep, ?_, hafter, rfl⟩
  cases hstep with
  | create hincident hstored hholder hcommitted hfresh hcreate =>
    refine ⟨rfl, hcommitted, Function.update_self .., ?_⟩
    cases hcreate with
    | create => exact ⟨_, Function.update_self .., rfl⟩

theorem identity_end_to_end (retrySeconds : κ → ℕ) (incidents : Uuid → Option Incident)
    (labels : List (Label κ ω τ ι)) (s : System κ ω τ ι)
    (h : Run (Step retrySeconds) (System.start incidents) labels s) :
    IdentityLaw retrySeconds incidents labels s := by
  have hi : Inv s := inv_run h
  have hunique := hi.created.unique
  refine
    { committed := fun c hc => commits_of_mem h hc
      created := fun c hc => hi.created_row ((mem_created_run h).mpr hc)
      incidents := fun k incident hincident => ?_
      rows := fun k row hrow => ?_
      records := fun taskId item hitem => ?_
      completions := fun id done hdone => ?_
      once := fun labels' s' hrun c hc id done id' done' hdone hdone' hincident hincident' => ?_
      intake := fun w error hraised => ?_
      outbox := fun a job effect built k row hconflicted hview htask => ?_ }
  · refine (known_run h k incident (.inl hincident)).imp_right ?_
    rintro ⟨c, hc, hid⟩
    exact ⟨c, (mem_created_run h).mp hc, hid⟩
  · obtain ⟨c, hc, hmessage⟩ := List.mem_map.mp (hi.tasks.rows k row hrow)
    exact ⟨c, (mem_created_run h).mp hc, by rw [← hmessage]; exact hi.requests c hc⟩
  · obtain ⟨m, hm, -, hidentity⟩ := hi.store.executions taskId item hitem
    have hrecord : RecordOf item m :=
      ⟨congrArg TaskIdentity.taskId hidentity, congrArg TaskIdentity.incidentId hidentity,
        congrArg TaskIdentity.idempotencyKey hidentity,
        congrArg TaskIdentity.correlationId hidentity⟩
    exact hi.exists_unique_row hm hrecord fun m' hm' hrecord' => hunique m' hm' m hm
      (.inl (str_injective (hrecord'.taskId.symm.trans hrecord.taskId)))
  · obtain ⟨m, hm, hof⟩ := hi.store.completion hdone
    exact hi.exists_unique_row hm hof fun m' hm' hof' => hunique m' hm' m hm
      (.inl (hof'.taskId.symm.trans hof.taskId))
  · obtain ⟨hi', done₁, hdone₁, hmessage⟩ := completion_run hi hrun hdone
    have hcreated : c ∈ s'.created := (mem_created_run (h.append hrun)).mpr hc
    rw [← (hi'.requests c hcreated).incidentId] at hincident hincident'
    rw [← hmessage] at hincident ⊢
    rw [hi'.completion_unique (Inv.message_mem hcreated) hdone₁ hdone' hincident hincident']
  · have hw := hi.workers w
    rw [hraised] at hw
    exact hw
  · have ha := hi.store.inv.attempts a
    rw [hconflicted] at ha
    obtain ⟨hnothing, hvalid, happlied, hbuilt⟩ := ha
    rw [Table.HoldsNothing.view hnothing] at hview
    have hheld : Held s.store job.execution := .inr ⟨a, job, by rw [hconflicted]; rfl, rfl⟩
    obtain ⟨m, hm, hof⟩ := hi.store.held _ hheld
    obtain ⟨m', hm', hrow⟩ := hi.store.completion hview
    have hbuiltOf := completionOf_built hvalid happlied hbuilt hof
    obtain rfl := hunique m' hm' m hm
      (.inl (hrow.taskId.symm.trans (htask.trans hbuiltOf.taskId)))
    exact ⟨hrow.incidentId.trans hbuiltOf.incidentId.symm,
      hrow.correlationId.trans hbuiltOf.correlationId.symm⟩

/-! ## One incident, from its creation to its completion event -/

/-- What a reconciler does alone, it does in the system too. -/
theorem reconcile_run {labels : List (ReconcileLabel τ ι)} (hown : ∀ l ∈ labels, ownLabel l = true)
    (h : Run ReconcileStep s.store labels store') :
    Run (Step retrySeconds) s (labels.map .reconcile) { s with store := store' } := by
  generalize hstart : s.store = start at h
  induction h with
  | nil =>
    subst hstart
    exact .nil s
  | snoc _ hstep ih =>
    rw [List.forall_mem_append] at hown
    rw [List.map_append]
    exact (ih hown.1).snoc (.reconcile (hown.2 _ (List.mem_singleton_self _)) hstep)

def outagePayload : IncidentCreate where
  title := "Outage"
  serviceId := 0
  severity := .sev1
  status := .opened
  summary := ""
  assignee := ""
  startedAt := none
  source := "manual"
  customerImpacting := true
  acknowledgedAt := none
  reportedByEmail := none

def outageDraw : Draw := ⟨1, (0 : ℤ), (0 : ℤ), (0 : ℤ), 2, 3, 4⟩

def outage : Incident := createdIncident outagePayload "manual" true none outageDraw

def outageRequest : IncidentTaskOutboxMessage := requestedTask outage none outageDraw

theorem storedTask_outage : storedTask outage none outageDraw = some outageRequest := by
  have hcorrelation : Incidents.varchar 128 outageRequest.correlationId =
      some outageRequest.correlationId :=
    Incidents.varchar_of_length (by decide +kernel) (by decide +kernel)
  change (Incidents.varchar 128 outageRequest.correlationId).map (fun correlationId =>
    { outageRequest with correlationId := correlationId }) = some outageRequest
  rw [hcorrelation]
  rfl

theorem taskOfRecord_outage :
    taskOfRecord Json.parse? (sqsRecord "m" (taskPublication outageRequest)) =
    .ok (receivedMembers outageRequest, outageRequest.idempotencyKey) := by
  have hrequest : IsRequest outageRequest := (requestOf_storedTask storedTask_outage).toIsRequest
  exact taskOfRecord_request hrequest (by decide +kernel) "m"

def outageCreation : Creation := ⟨outage, none, outageRequest⟩

def outageStore : Reconciliation Unit Unit :=
  System.editIncident (.start fun _ => none) 1 (some outage)

theorem sent_outage : ∃ s : System Unit Unit Unit Unit,
    Run (Step fun _ => 30) (System.start fun _ => none)
      [.create outageCreation, .relay (.scan () 0), .relay (.lock () 3), .relay (.deliver ())] s ∧
    s.workers () = .idle ∧ taskPublication outageRequest ∈ s.tasks.sent ∧
      s.store = outageStore := by
  have hcreate : Outbox.Step taskOutbox (fun _ => 30) (.start : Outbox.State _ Unit)
      (.create outageRequest) _ := .create rfl rfl
  have hstep : Step (fun _ => 30) (System.start fun _ => none : System Unit Unit Unit Unit)
      (.create outageCreation) _ :=
    .create rfl storedTask_outage rfl rfl (fun m hm => by contradiction) hcreate
  have h₁ := Run.single hstep
  have h₂ :=
    h₁.snoc (.relay (by simp) (Outbox.Step.scan_single () 3 0 (.new taskOutbox outageRequest)
    rfl rfl rfl fun k hk => Function.update_of_ne hk _ _))
  have h₃ :=
    h₂.snoc (.relay (by simp) (@Outbox.Step.lock _ Unit _ taskOutbox (fun _ => 30) _ () 0 3 []
    (.new taskOutbox outageRequest) rfl rfl rfl rfl))
  have h₄ := h₃.snoc (.relay (by simp) (@Outbox.Step.deliver _ Unit _ taskOutbox (fun _ => 30) _ ()
    ⟨outageRequest, 0⟩ rfl))
  exact ⟨_, h₄, rfl, List.mem_cons_self, rfl⟩

def outageItem : Item :=
  acceptedItem (receivedTask outageRequest) outageRequest.incidentId.str "2026" 60

def outageExecution : IncidentTaskExecution :=
  ⟨outageRequest.taskId.str, 1, outageRequest.taskType, outageRequest.correlationId,
    outageRequest.createdAt.isoformat, .incidentServiceProcessing, 1, some 60, some "a"⟩

theorem toDomain_outage :
    toDomain (claimed ⟨60, 0, "2026", "a"⟩ outageItem) = some outageExecution := by
  have hid : Uuid.parse? outageRequest.incidentId.str = some 1 := parse?_str _
  change (Uuid.parse? outageRequest.incidentId.str).map _ = _
  rw [hid]
  rfl

def claimedStore : Reconciliation Unit Unit :=
  Incidents.Reconciliation.become { outageStore with
    executions := Function.update (fun _ => none) outageRequest.taskId.str
      (some (claimed ⟨60, 0, "2026", "a"⟩ outageItem)) } () (.claimed outageExecution)

theorem claim_outage : Run ReconcileStep
    { outageStore with
      executions := Function.update (fun _ => none) outageRequest.taskId.str (some outageItem) }
    [.claim () outageRequest.taskId.str ⟨60, 0, "2026", "a"⟩] claimedStore := by
  let accepted : Execution.Table :=
    Function.update (fun _ => none) outageRequest.taskId.str (some outageItem)
  have hclaim : Execution.claim accepted outageRequest.taskId.str ⟨60, 0, "2026", "a"⟩ =
      some (claimed ⟨60, 0, "2026", "a"⟩ outageItem, Function.update (fun _ => none)
        outageRequest.taskId.str (some (claimed ⟨60, 0, "2026", "a"⟩ outageItem))) :=
    claim_eq_some.mpr ⟨_, Function.update_self .., rfl, rfl, Function.update_idem ..⟩
  have h : ReconcileStep { outageStore with executions := accepted }
      (.claim () outageRequest.taskId.str ⟨60, 0, "2026", "a"⟩) _ := .claim rfl hclaim
  rw [toDomain_outage] at h
  exact .single h

/-- The reconciler processes the incident, and the completion is on record. -/
theorem process_outage : ∃ labels store, (∀ l ∈ labels, ownLabel l = true) ∧
    Run ReconcileStep claimedStore labels store ∧ store.executions = claimedStore.executions ∧
    ∃ done, store.outbox.committed 7 = some done ∧ CompletionOf done.message outageRequest := by
  have hnew : ∀ k row, ¬ claimedStore.outbox.Version k row := by
    intro k row hv
    obtain hcommitted | ⟨⟨t, ht⟩, -⟩ := hv
    · contradiction
    · contradiction
  have hclaimed : claimedStore.reconcilers () = .claimed outageExecution := rfl
  have hrow : claimedStore.incidents.committed 1 = some outage := rfl
  obtain ⟨store, hrun, hexecutions, -, hdone, -⟩ :=
    Incidents.Reconciliation.reconcile_run () hclaimed rfl
    (parse?_str _) hrow rfl rfl rfl hnew (fun _ => rfl) 1 1 2 7 8
  refine ⟨_, store, ?_, hrun, hexecutions, _, hdone, ⟨rfl, rfl, rfl⟩⟩
  simp [ownLabel]

/-- An incident is created; its message is sent, accepted by a worker and claimed by a reconciler,
and its completion is on record in the end. -/
theorem outage_identity : ∃ (labels : _) (s : System Unit Unit Unit Unit),
    IdentityLaw (fun _ => 30) (fun _ => none) labels s ∧ .create outageCreation ∈ labels ∧
    (∃ item, s.store.executions outageRequest.taskId.str = some item ∧
      RecordOf item outageRequest) ∧
    ∃ id done, s.store.outbox.committed id = some done ∧
      CompletionOf done.message outageRequest := by
  obtain ⟨s, hsent, hidle, hmem, hstore⟩ := sent_outage
  obtain ⟨labels, store, hown, hprocessed, hexecutions, done, hdone, hcompletion⟩ := process_outage
  have hput : putExecution s.store.executions (receivedTask outageRequest)
      outageRequest.incidentId.str "2026" 60 =
        some (Function.update (fun _ => none) outageRequest.taskId.str (some outageItem)) := by
    rw [hstore]
    exact putIfAbsent_eq_some.mpr ⟨rfl, rfl⟩
  have haccept := hsent.snoc (.accept hidle hmem taskOfRecord_outage rfl
    (incidentIdFromTask_receivedMembers outageRequest)
      (ofMembers?_receivedMembers outageRequest) hput)
  have hreconciled := claim_outage.append hprocessed
  rw [← hstore] at hreconciled
  have hrun := haccept.append (reconcile_run (by simpa [ownLabel] using hown) hreconciled)
  have hitem : store.executions outageRequest.taskId.str =
      some (claimed ⟨60, 0, "2026", "a"⟩ outageItem) := by
    rw [hexecutions]
    simp [claimedStore, Incidents.Reconciliation.become]
  refine ⟨_, _, identity_end_to_end (fun _ => 30) (fun _ => none) _ _ hrun, ?_,
    ⟨_, hitem, ⟨rfl, rfl, rfl, rfl⟩⟩, 7, done, hdone, hcompletion⟩
  simp

end OpsFlow.Pipeline
