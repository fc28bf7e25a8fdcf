import OpsFlow.Incidents.CompletionLaw
import OpsFlow.Incidents.ProcessingLaw
import OpsFlow.Outbox.RelayLaw
import OpsFlow.Pipeline.Request

namespace OpsFlow.Pipeline
open Transition RowStore Execution
open OpsFlow.Incidents (Incident IncidentCreate Draw Reconciliation ReconcileLabel ReconcileStep
  createdIncident)
open OpsFlow.Outbox (IncidentTaskOutboxMessage taskOutbox)

/-! ## From the creation of an incident to its completion event -/

/-- A worker between the put of a record that failed and the read that follows it. -/
inductive Intake
  | idle
  | loading (task : Task) (incidentId : String)
  | raised (error : TaskExecutionCollisionError)

/-- What one transaction of the service inserts; the correlation identifier is that of
the request. -/
structure Creation where
  incident : Incident
  correlationId : Option String
  message : IncidentTaskOutboxMessage

/-- The task outbox and its relays, the workers, and what the reconcilers work on; `created` are the
creations that have committed. -/
structure System (κ ω τ ι : Type) where
  tasks : Outbox.State IncidentTaskOutboxMessage κ
  workers : ω → Intake
  store : Reconciliation τ ι
  created : List Creation

def System.messages {κ ω τ ι : Type} (s : System κ ω τ ι) : List IncidentTaskOutboxMessage :=
  s.created.map Creation.message

inductive Label (κ ω τ ι : Type)
  | create (creation : Creation)
  | update (incidentId : Uuid)
  | delete (incidentId : Uuid)
  | relay (label : Outbox.Label IncidentTaskOutboxMessage κ)
  | deliver (w : ω)
  | load (w : ω)
  | restart (w : ω)
  | expire (taskId : String)
  | reconcile (label : ReconcileLabel τ ι)

/-- The labels that are steps of reconcilers, of their attempts, or of the relay behind them. -/
def ownLabel {τ ι : Type} : ReconcileLabel τ ι → Bool
  | .put .. | .edit _ => false
  | _ => true

variable {κ ω τ ι : Type}

namespace System

def editIncident (store : Reconciliation τ ι) (k : Uuid) (row : Option Incident) :
    Reconciliation τ ι :=
  { store with
    incidents :=
      { store.incidents with committed := Function.update store.incidents.committed k row } }

def withExecutions (s : System κ ω τ ι) (executions : Execution.Table) : System κ ω τ ι :=
  { s with store := { s.store with executions := executions } }

def start (incidents : Uuid → Option Incident) : System κ ω τ ι :=
  ⟨.start, fun _ => .idle, .start incidents, []⟩

end System

open OpsFlow.Pipeline.System

variable [DecidableEq κ] [DecidableEq ω] [DecidableEq τ] [DecidableEq ι]

inductive Step (retrySeconds : κ → ℕ) :
    System κ ω τ ι → Label κ ω τ ι → System κ ω τ ι → Prop
  -- one transaction inserts the incident and the message, whose identifiers were never drawn before
  | create {s : System κ ω τ ι} {payload : IncidentCreate} {draw : Draw} {creation : Creation}
      {tasks' : Outbox.State IncidentTaskOutboxMessage κ} :
      creation.incident = createdIncident payload payload.source payload.customerImpacting
        payload.acknowledgedAt draw →
      storedTask creation.incident creation.correlationId draw = some creation.message →
      s.store.incidents.holder creation.incident.id = none →
      s.store.incidents.committed creation.incident.id = none →
      (∀ m ∈ s.messages, m.taskId ≠ creation.message.taskId ∧
        m.incidentId ≠ creation.message.incidentId) →
      Outbox.Step taskOutbox retrySeconds s.tasks (.create creation.message) tasks' →
      Step retrySeconds s (.create creation)
        { s with
          tasks := tasks'
          store := editIncident s.store creation.incident.id (some creation.incident)
          created := s.created ++ [creation] }
  | update {s : System κ ω τ ι} {k : Uuid} {row row' : Incident} :
      s.store.incidents.holder k = none → s.store.incidents.committed k = some row → row'.id = k →
      Step retrySeconds s (.update k)
        { s with store := editIncident s.store k (some row') }
  | delete {s : System κ ω τ ι} {k : Uuid} :
      s.store.incidents.holder k = none →
      Step retrySeconds s (.delete k) { s with store := editIncident s.store k none }
  | relay {s : System κ ω τ ι} {label : Outbox.Label IncidentTaskOutboxMessage κ}
      {tasks' : Outbox.State IncidentTaskOutboxMessage κ} :
      (∀ message, label ≠ .create message) →
      Outbox.Step taskOutbox retrySeconds s.tasks label tasks' →
      Step retrySeconds s (.relay label) { s with tasks := tasks' }
  -- a message that the queue has taken is delivered at any time and as often as it likes; of what
  -- `json.dumps` has written, `json.loads` reads the same value as `JSON.parse`
  | accept {s : System κ ω τ ι} {w : ω} {message : Outbox.SqsMessage} {members : Members}
      {task : Task} {messageId idempotencyKey incidentId acceptedAt : String} {expiration : ℤ}
      {executions' : Execution.Table} :
      s.workers w = .idle → message ∈ s.tasks.sent →
      taskOfRecord Json.parse? (sqsRecord messageId message) = .ok (members, idempotencyKey) →
      text? members "task_type" = some "incident.processing.requested" →
      incidentIdFromTask members = .ok incidentId → Task.ofMembers? members = some task →
      putExecution s.store.executions task incidentId acceptedAt expiration = some executions' →
      Step retrySeconds s (.deliver w) (s.withExecutions executions')
  | acceptExisting {s : System κ ω τ ι} {w : ω} {message : Outbox.SqsMessage} {members : Members}
      {task : Task} {messageId idempotencyKey incidentId acceptedAt : String} {expiration : ℤ} :
      s.workers w = .idle → message ∈ s.tasks.sent →
      taskOfRecord Json.parse? (sqsRecord messageId message) = .ok (members, idempotencyKey) →
      text? members "task_type" = some "incident.processing.requested" →
      incidentIdFromTask members = .ok incidentId → Task.ofMembers? members = some task →
      putExecution s.store.executions task incidentId acceptedAt expiration = none →
      Step retrySeconds s (.deliver w)
        { s with workers := Function.update s.workers w (.loading task incidentId) }
  | load {s : System κ ω τ ι} {w : ω} {task : Task} {incidentId : String} :
      s.workers w = .loading task incidentId →
      Step retrySeconds s (.load w)
        { s with
          workers := Function.update s.workers w
            (match loadExisting s.store.executions task incidentId with
              | .ok () => .idle
              | .error e => .raised e) }
  | restart {s : System κ ω τ ι} {w : ω} :
      Step retrySeconds s (.restart w)
        { s with workers := Function.update s.workers w .idle }
  -- the table's own removal of a record whose time to live is over
  | expire {s : System κ ω τ ι} {taskId : String} :
      Step retrySeconds s (.expire taskId)
        (s.withExecutions (Function.update s.store.executions taskId none))
  | reconcile {s : System κ ω τ ι} {label : ReconcileLabel τ ι} {store' : Reconciliation τ ι} :
      ownLabel label = true → ReconcileStep s.store label store' →
      Step retrySeconds s (.reconcile label) { s with store := store' }

end OpsFlow.Pipeline
