import OpsFlow.Pipeline.System

namespace OpsFlow.Pipeline
open Transition RowStore Execution ConditionalStore
open OpsFlow.Incidents (Incident Reconciliation ReconcileLabel ReconcileStep Reconciler Attempt)
open OpsFlow.Outbox (IncidentTaskOutboxMessage taskOutbox taskPublication)

variable {κ ω τ ι : Type}

/-! ## What comes from a message of the outbox -/

def identityOf (message : IncidentTaskOutboxMessage) : TaskIdentity :=
  ⟨message.taskId.str, message.incidentId.str, message.taskType, message.idempotencyKey,
    message.correlationId⟩

structure OfMessage (execution : IncidentTaskExecution) (message : IncidentTaskOutboxMessage) :
    Prop where
  taskId : execution.taskId = message.taskId.str
  incidentId : execution.incidentId = message.incidentId
  correlationId : execution.correlationId = message.correlationId

theorem ofMessage_toDomain {item : Item} {execution : IncidentTaskExecution}
    {message : IncidentTaskOutboxMessage} (h : toDomain item = some execution)
    (hidentity : item.identity = identityOf message) : OfMessage execution message := by
  obtain ⟨incidentId, hincident, rfl⟩ := Option.map_eq_some_iff.mp h
  have hincident' : item.incidentId = message.incidentId.str :=
    congrArg TaskIdentity.incidentId hidentity
  rw [hincident', parse?_str] at hincident
  exact
    { taskId := congrArg TaskIdentity.taskId hidentity
      incidentId := (Option.some.inj hincident).symm
      correlationId := congrArg TaskIdentity.correlationId hidentity }

/-! ## The executions that reconcilers and their attempts hold -/

def execution? : Reconciler τ → Option IncidentTaskExecution
  | .idle => none
  | .claimed execution | .processing execution _ | .finished execution _ => some execution

def Held (store : Reconciliation τ ι) (execution : IncidentTaskExecution) : Prop :=
  (∃ i, execution? (store.reconcilers i) = some execution) ∨
    ∃ a job, (store.attempts a).job? = some job ∧ job.execution = execution

variable {store store' : Reconciliation τ ι} {execution : IncidentTaskExecution} {a : τ} {i : ι}
  {x : Attempt} {r : Reconciler τ} {label : ReconcileLabel τ ι} {key : String} {item : Item}

theorem held_become [DecidableEq ι] (h : Held store' execution)
    (hreconcilers : store'.reconcilers = Function.update store.reconcilers i r)
    (hattempts : store'.attempts = store.attempts) :
    Held store execution ∨ execution? r = some execution := by
  obtain ⟨j, hj⟩ | hattempt := h
  · rw [hreconcilers] at hj
    by_cases hji : j = i
    · subst hji
      rw [Function.update_self] at hj
      exact .inr hj
    · rw [Function.update_of_ne hji] at hj
      exact .inl (.inl ⟨j, hj⟩)
  · rw [hattempts] at hattempt
    exact .inl (.inr hattempt)

theorem held_advance [DecidableEq τ] (h : Held store' execution)
    (hreconcilers : store'.reconcilers = store.reconcilers)
    (hattempts : store'.attempts = Function.update store.attempts a x) :
    Held store execution ∨ ∃ job, x.job? = some job ∧ job.execution = execution := by
  obtain hreconciler | ⟨b, job, hjob, hexecution⟩ := h
  · rw [hreconcilers] at hreconciler
    exact .inl (.inl hreconciler)
  · rw [hattempts] at hjob
    by_cases hba : b = a
    · subst hba
      rw [Function.update_self] at hjob
      exact .inr ⟨job, hjob, hexecution⟩
    · rw [Function.update_of_ne hba] at hjob
      exact .inl (.inr ⟨b, job, hjob, hexecution⟩)

/-- An attempt that goes on with its job holds nothing new. -/
theorem held_goesOn [DecidableEq τ] (h : Held store' execution)
    (hreconcilers : store'.reconcilers = store.reconcilers)
    (hattempts : store'.attempts = Function.update store.attempts a x)
    (hjob : ∀ job, x.job? = some job → (store.attempts a).job? = some job) :
    Held store execution := by
  obtain hheld | ⟨job, hx, hexecution⟩ := held_advance h hreconcilers hattempts
  · exact hheld
  · exact .inr ⟨a, job, hjob job hx, hexecution⟩

variable [DecidableEq τ] [DecidableEq ι]

/-- Only a claim brings an execution in, which is that of the item it has written. -/
theorem held_step (h : ReconcileStep store label store') (he : Held store' execution) :
    Held store execution ∨
      ∃ key item, store'.executions key = some item ∧ toDomain item = some execution := by
  cases h with
  | @claim i taskId draw item executions' hidle hclaim =>
    obtain hheld | hnew : Held store execution ∨ _ := held_become he rfl rfl
    · exact .inl hheld
    · obtain ⟨old, -, -, -, rfl⟩ := claim_eq_some.mp hclaim
      cases hdomain : toDomain item with
      | none =>
        rw [hdomain] at hnew
        contradiction
      | some claimedExecution =>
        rw [hdomain] at hnew
        obtain rfl := Option.some.inj hnew
        exact .inr ⟨taskId, item, Function.update_self .., hdomain⟩
  | @begin i a claimedExecution taskId hclaimed hidle hparse =>
    left
    have hheld : Held store claimedExecution := .inl ⟨i, by rw [hclaimed]; rfl⟩
    obtain hold | hnew :
        Held (store.advance a (.started ⟨claimedExecution, taskId⟩)) execution ∨ _ :=
      held_become he rfl rfl
    · obtain hold | ⟨job, hjob, rfl⟩ : Held store execution ∨ _ := held_advance hold rfl rfl
      · exact hold
      · obtain rfl := Option.some.inj hjob
        exact hheld
    · obtain rfl := Option.some.inj hnew
      exact hheld
  | @beginInvalid i a claimedExecution hclaimed hidle hparse =>
    left
    obtain hold | hnew : Held store execution ∨ _ := held_become he rfl rfl
    · exact hold
    · obtain rfl := Option.some.inj hnew
      exact .inl ⟨i, by rw [hclaimed]; rfl⟩
  | @returned i a claimedExecution job effect hprocessing hcommitted =>
    left
    obtain hold | hnew : Held store execution ∨ _ := held_become he rfl rfl
    · exact hold
    · obtain rfl := Option.some.inj hnew
      exact .inl ⟨i, by rw [hprocessing]; rfl⟩
  | @raised i a claimedExecution error hprocessing hraised =>
    left
    obtain hold | hnew : Held store execution ∨ _ := held_become he rfl rfl
    · exact hold
    · obtain rfl := Option.some.inj hnew
      exact .inl ⟨i, by rw [hprocessing]; rfl⟩
  | mark hfinished =>
    left
    obtain hold | hnew : Held store execution ∨ _ := held_become he rfl rfl
    · exact hold
    · contradiction
  | crash =>
    left
    obtain hold | hnew : Held store execution ∨ _ := held_become he rfl rfl
    · exact hold
    · contradiction
  | @read a job existing c₁ c₂ hp hview =>
    refine .inl (held_goesOn he rfl rfl fun job' hjob => ?_)
    rw [hp]
    split at hjob
    · exact hjob
    · exact hjob
  -- an attempt goes on with its job, or drops it
  | readMissing hp _ => exact .inl (held_goesOn he rfl rfl fun _ hjob => by contradiction)
  | selectMissing hp _ => exact .inl (held_goesOn he rfl rfl fun _ hjob => by contradiction)
  | writeMissing hp _ _ _ => exact .inl (held_goesOn he rfl rfl fun _ hjob => by contradiction)
  | loadMissing hp _ => exact .inl (held_goesOn he rfl rfl fun _ hjob => by contradiction)
  | collision hp _ _ _ => exact .inl (held_goesOn he rfl rfl fun _ hjob => by contradiction)
  | fail hp => exact .inl (held_goesOn he rfl rfl fun _ hjob => by contradiction)
  | select hp _ => exact .inl (held_goesOn he rfl rfl fun _ hjob => by rw [hp]; exact hjob)
  | skip hp _ => exact .inl (held_goesOn he rfl rfl fun _ hjob => by rw [hp]; exact hjob)
  | write hp _ _ _ => exact .inl (held_goesOn he rfl rfl fun _ hjob => by rw [hp]; exact hjob)
  | insert hp _ _ _ => exact .inl (held_goesOn he rfl rfl fun _ hjob => by rw [hp]; exact hjob)
  | conflict hp _ _ => exact .inl (held_goesOn he rfl rfl fun _ hjob => by rw [hp]; exact hjob)
  | load hp _ _ _ _ => exact .inl (held_goesOn he rfl rfl fun _ hjob => by rw [hp]; exact hjob)
  | commit hp => exact .inl (held_goesOn he rfl rfl fun _ hjob => by rw [hp]; exact hjob)
  | put => exact .inl he
  | notClaimed _ _ => exact .inl he
  | edit _ _ => exact .inl he
  | relay _ _ _ => exact .inl he

theorem mark_identity {executions : Execution.Table} {m : Mark} {now : String}
    (h : (Execution.mark executions execution m now).toOption.getD executions key = some item) :
    ∃ old, executions key = some old ∧ item.identity = old.identity := by
  cases hmark : Execution.mark executions execution m now with
  | error e => exact ⟨item, by simpa [hmark, Except.toOption] using h, rfl⟩
  | ok table' =>
    obtain ⟨_, old, -, hold, -, rfl⟩ := mark_eq_ok.mp hmark
    rw [hmark] at h
    obtain ⟨rfl, rfl⟩ | ⟨-, h⟩ := update_eq_some.mp h
    · exact ⟨old, hold, identity_apply m now⟩
    · exact ⟨item, h, rfl⟩

/-- A record of an identity that was not there before is one that a worker has put. -/
theorem executions_step (h : ReconcileStep store label store') (hown : ownLabel label = true)
    (hitem : store'.executions key = some item) :
    ∃ old, store.executions key = some old ∧ item.identity = old.identity := by
  have hsame : store'.executions = store.executions →
      ∃ old, store.executions key = some old ∧ item.identity = old.identity := by
    intro heq
    rw [heq] at hitem
    exact ⟨item, hitem, rfl⟩
  cases h with
  | put => contradiction
  | @claim i taskId draw item' executions' hidle hclaim =>
    obtain ⟨old, hold, -, rfl, rfl⟩ := claim_eq_some.mp hclaim
    obtain ⟨rfl, rfl⟩ | ⟨-, hitem⟩ := update_eq_some.mp hitem
    · exact ⟨old, hold, identity_claimed draw⟩
    · exact ⟨item, hitem, rfl⟩
  | @mark i claimedExecution now outcome hfinished =>
    cases outcome with
    | ok result => exact mark_identity hitem
    | error e =>
      cases e with
      | incidentNotFound message => exact mark_identity hitem
      | retryable message => exact mark_identity hitem
      | other message => exact ⟨item, hitem, rfl⟩
  | _ => exact hsame rfl

/-! ## The incidents -/

/-- A step of a reconciler brings no incident in. -/
theorem version_step (h : ReconcileStep store label store') (hown : ownLabel label = true)
    {k : Uuid} {incident : Incident} (hv : store'.incidents.Version k incident) :
    ∃ old, store.incidents.Version k old := by
  have hrollback {a : τ} (hv : (store.incidents.rollback a).Version k incident) :
      ∃ old, store.incidents.Version k old := ⟨incident, Table.version_rollback hv⟩
  cases h with
  | readMissing => exact hrollback hv
  | selectMissing => exact hrollback hv
  | writeMissing => exact hrollback hv
  | loadMissing => exact hrollback hv
  | collision => exact hrollback hv
  | fail => exact hrollback hv
  | @write a job existing updated model latest hp hsome hfree hlatest =>
    obtain hold | ⟨rfl, -⟩ := Table.version_write hv
    · exact ⟨incident, hold⟩
    · exact ⟨latest, Table.version_of_view hlatest⟩
  | commit => exact ⟨incident, Table.version_commit hv⟩
  | edit => contradiction
  | _ => exact ⟨incident, hv⟩

omit [DecidableEq τ] [DecidableEq ι] in
theorem version_editIncident {k k' : Uuid} {row : Option Incident} {incident : Incident}
    (hv : (System.editIncident store k row).incidents.Version k' incident) :
    store.incidents.Version k' incident ∨ (k' = k ∧ row = some incident) := by
  obtain hcommitted | hpending := hv
  · change Function.update store.incidents.committed k row k' = some incident at hcommitted
    by_cases hk : k' = k
    · subst hk
      rw [Function.update_self] at hcommitted
      exact .inr ⟨rfl, hcommitted⟩
    · rw [Function.update_of_ne hk] at hcommitted
      exact .inl (.inl hcommitted)
  · exact .inl (.inr hpending)

end OpsFlow.Pipeline
