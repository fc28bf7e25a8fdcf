import OpsFlow.Execution.Record
import OpsFlow.Incidents.Isolation

namespace OpsFlow.Incidents
open Transition RowStore
open OpsFlow.Execution (IncidentTaskExecution ClaimDraw Item Task)

/-! ## The completion outbox -/

structure CompletionMessage where
  id : Uuid
  eventId : Uuid
  incidentId : Uuid
  taskId : Uuid
  correlationId : String
  schemaVersion : String
  eventType : String
  status : IncidentStatus
  acknowledgedAt : Option Timestamp
  occurredAt : Timestamp
  deriving DecidableEq

/-- A row of the outbox: the message, and the columns that the relay keeps. -/
structure CompletionRow where
  message : CompletionMessage
  publicationStatus : String
  publishAttempts : ℕ
  createdAt : Timestamp
  updatedAt : Timestamp
  publishedAt : Option Timestamp
  lastError : Option String

def CompletionRow.new (message : CompletionMessage) : CompletionRow :=
  ⟨message, "PENDING", 0, message.occurredAt, message.occurredAt, none, none⟩

/-! ## One call of `process_incident_with_postgres` -/

inductive ProcessorError
  | incidentNotFound (message : String)
  | retryable (message : String)
  | other (message : String)

structure Job where
  execution : IncidentTaskExecution
  taskId : Uuid

/-- What processing has done to the incident: the row it found, and the one it wrote back. -/
structure Effect where
  existing : Incident
  written : Option Incident

def Effect.result (e : Effect) : IncidentProcessingResult :=
  match e.written with
  | none => unchangedResult e.existing
  | some updated => persistedResult updated

def completionMessage (job : Job) (result : IncidentProcessingResult) (id eventId : Uuid)
    (occurredAt : Timestamp) : CompletionMessage :=
  { id := id
    eventId := eventId
    incidentId := result.incidentId
    taskId := job.taskId
    correlationId := job.execution.correlationId
    schemaVersion := "1.0"
    eventType := "incident.task.completed"
    status := result.status
    acknowledgedAt := result.acknowledgedAt
    occurredAt := occurredAt }

/-- How far an attempt has come; it is a transaction of its own. `built` is the message it made,
`stored` the one that `create` returned. -/
inductive Attempt
  | idle
  | started (job : Job)
  | computed (job : Job) (existing updated : Incident)
  | selected (job : Job) (existing updated model : Incident)
  | processed (job : Job) (effect : Effect)
  | conflicted (job : Job) (effect : Effect) (built : CompletionMessage)
  | recorded (job : Job) (effect : Effect) (built stored : CompletionMessage)
  | committed (job : Job) (effect : Effect)
  | raised (error : ProcessorError)

def Attempt.inProgress : Attempt → Prop
  | .idle | .committed .. | .raised _ => False
  | _ => True

inductive Reconciler (τ : Type)
  | idle
  | claimed (execution : IncidentTaskExecution)
  | processing (execution : IncidentTaskExecution) (a : τ)
  | finished (execution : IncidentTaskExecution)
      (outcome : Except ProcessorError IncidentProcessingResult)

/-- An attempt that has committed, as an observer of both stores writes it down. -/
structure Committed (τ : Type) where
  attempt : τ
  job : Job
  effect : Effect
  built : CompletionMessage
  stored : CompletionMessage

/-- The two stores, the attempts over them and the reconcilers that make these. -/
structure Reconciliation (τ ι : Type) where
  executions : Execution.Table
  incidents : Table τ Uuid Incident
  outbox : Table τ Uuid CompletionRow
  attempts : τ → Attempt
  reconcilers : ι → Reconciler τ
  log : List (Committed τ)

variable {τ ι : Type} [DecidableEq τ] [DecidableEq ι]

namespace Reconciliation

def advance (s : Reconciliation τ ι) (a : τ) (x : Attempt) : Reconciliation τ ι :=
  { s with attempts := Function.update s.attempts a x }

def raise (s : Reconciliation τ ι) (a : τ) (error : ProcessorError) : Reconciliation τ ι :=
  { s with
    incidents := s.incidents.rollback a
    outbox := s.outbox.rollback a
    attempts := Function.update s.attempts a (.raised error) }

def become (s : Reconciliation τ ι) (i : ι) (r : Reconciler τ) : Reconciliation τ ι :=
  { s with reconcilers := Function.update s.reconcilers i r }

end Reconciliation

def databaseError : ProcessorError :=
  .retryable "PostgreSQL Incident task processing and completion-event persistence failed."

def succeededResult (result : IncidentProcessingResult) : Json :=
  .object [("incident_id", .string result.incidentId.str),
    ("incident_status", .string result.status.value),
    ("business_changed", .bool result.changed),
    ("acknowledged_at", .string
      (match result.acknowledgedAt with
        | none => ""
        | some acknowledgedAt => acknowledgedAt.isoformat))]

/-- The table after the mark that `_reconcile_claimed` makes; a lost ownership is only logged, and
an exception of another kind leaves the reconciler without a mark. -/
def marked (executions : Execution.Table) (execution : IncidentTaskExecution) (now : String) :
    Except ProcessorError IncidentProcessingResult → Execution.Table
  | .ok result =>
    (Execution.markSucceeded executions execution (succeededResult result) now).toOption.getD
      executions
  | .error (.incidentNotFound message) =>
    (Execution.markFailed executions execution message now).toOption.getD executions
  | .error (.retryable message) =>
    (Execution.markRetryableFailure executions execution message now).toOption.getD executions
  | .error (.other _) => executions

inductive ReconcileLabel (τ ι : Type)
  | put (task : Task) (incidentId acceptedAt : String) (expiration : ℤ)
  | claim (i : ι) (taskId : String) (draw : ClaimDraw)
  | begin (i : ι) (a : τ)
  | read (a : τ) (c₁ c₂ : Timestamp)
  | select (a : τ)
  | write (a : τ)
  | insert (a : τ) (id eventId : Uuid) (occurredAt : Timestamp)
  | load (a : τ)
  | commit (a : τ)
  | fail (a : τ) (error : ProcessorError)
  | return (i : ι)
  | mark (i : ι) (now : String)
  | crash (i : ι)
  | edit (k : Uuid)
  | relay (k : Uuid)

def ReconcileLabel.attempt? : ReconcileLabel τ ι → Option τ
  | .begin _ a | .read a _ _ | .select a | .write a | .insert a _ _ _ | .load a | .commit a
  | .fail a _ => some a
  | _ => none

open ReconcileLabel

/-- A step of a reconciler, of one of its attempts, of a worker that accepts a task, or of anybody
else who commits a change of an incident or relays an outbox row. -/
inductive ReconcileStep :
    Reconciliation τ ι → ReconcileLabel τ ι → Reconciliation τ ι → Prop
  | put {s : Reconciliation τ ι} {task : Task} {incidentId acceptedAt : String} {expiration : ℤ} :
      ReconcileStep s (.put task incidentId acceptedAt expiration)
        { s with
          executions := (Execution.putExecution s.executions task incidentId acceptedAt
            expiration).getD s.executions }
  | notClaimed {s : Reconciliation τ ι} {i : ι} {taskId : String} {draw : ClaimDraw} :
      s.reconcilers i = .idle → Execution.claim s.executions taskId draw = none →
      ReconcileStep s (.claim i taskId draw) s
  | claim {s : Reconciliation τ ι} {i : ι} {taskId : String} {draw : ClaimDraw} {item : Item}
      {executions' : Execution.Table} :
      s.reconcilers i = .idle →
      Execution.claim s.executions taskId draw = some (item, executions') →
      ReconcileStep s (.claim i taskId draw) (Reconciliation.become
        { s with executions := executions' } i
        (match Execution.toDomain item with
          | some execution => .claimed execution
          | none => .idle))
  | begin {s : Reconciliation τ ι} {i : ι} {a : τ} {execution : IncidentTaskExecution}
      {taskId : Uuid} :
      s.reconcilers i = .claimed execution → s.attempts a = .idle →
      Uuid.parse? execution.taskId = some taskId →
      ReconcileStep s (.begin i a)
        ((s.advance a (.started ⟨execution, taskId⟩)).become i (.processing execution a))
  | beginInvalid {s : Reconciliation τ ι} {i : ι} {a : τ} {execution : IncidentTaskExecution} :
      s.reconcilers i = .claimed execution → s.attempts a = .idle →
      Uuid.parse? execution.taskId = none →
      ReconcileStep s (.begin i a)
        (s.become i (.finished execution (.error (.other "badly formed hexadecimal UUID string"))))
  | readMissing {s : Reconciliation τ ι} {a : τ} {job : Job} {c₁ c₂ : Timestamp} :
      s.attempts a = .started job → s.incidents.view a job.execution.incidentId = none →
      ReconcileStep s (.read a c₁ c₂)
        (s.raise a (.incidentNotFound (IncidentNotFoundError.of job.execution.incidentId).message))
  | read {s : Reconciliation τ ι} {a : τ} {job : Job} {existing : Incident}
      {c₁ c₂ : Timestamp} :
      s.attempts a = .started job → s.incidents.view a job.execution.incidentId = some existing →
      ReconcileStep s (.read a c₁ c₂) (s.advance a
        (match Pass.process.compute existing c₁ c₂ with
          | some updated => .computed job existing updated
          | none => .processed job ⟨existing, none⟩))
  | selectMissing {s : Reconciliation τ ι} {a : τ} {job : Job} {existing updated : Incident} :
      s.attempts a = .computed job existing updated → s.incidents.view a updated.id = none →
      ReconcileStep s (.select a)
        (s.raise a (.other ("Incident " ++ updated.id.str ++ " does not exist.")))
  | select {s : Reconciliation τ ι} {a : τ} {job : Job} {existing updated model : Incident} :
      s.attempts a = .computed job existing updated → s.incidents.view a updated.id = some model →
      ReconcileStep s (.select a) (s.advance a (.selected job existing updated model))
  | skip {s : Reconciliation τ ι} {a : τ} {job : Job} {existing updated model : Incident} :
      s.attempts a = .selected job existing updated model → flushesNothing model updated = true →
      ReconcileStep s (.write a) (s.advance a (.processed job ⟨existing, some updated⟩))
  | writeMissing {s : Reconciliation τ ι} {a : τ} {job : Job} {existing updated model : Incident} :
      s.attempts a = .selected job existing updated model → flushesNothing model updated = false →
      s.incidents.Free a updated.id → s.incidents.view a updated.id = none →
      ReconcileStep s (.write a) (s.raise a databaseError)
  | write {s : Reconciliation τ ι} {a : τ} {job : Job} {existing updated model latest : Incident} :
      s.attempts a = .selected job existing updated model → flushesNothing model updated = false →
      s.incidents.Free a updated.id → s.incidents.view a updated.id = some latest →
      ReconcileStep s (.write a) (Reconciliation.advance
        { s with
          incidents := s.incidents.write a updated.id (some (flushed model updated latest)) } a
        (.processed job ⟨existing, some updated⟩))
  | insert {s : Reconciliation τ ι} {a : τ} {job : Job} {effect : Effect} {id eventId : Uuid}
      {occurredAt : Timestamp} :
      s.attempts a = .processed job effect →
      s.outbox.committed id = none → s.outbox.holder id = none →
      (∀ k row, s.outbox.Version k row →
        row.message.taskId ≠ job.taskId ∧ row.message.eventId ≠ eventId) →
      ReconcileStep s (.insert a id eventId occurredAt) (Reconciliation.advance
        { s with outbox := s.outbox.write a id (some (.new (completionMessage job effect.result id
          eventId occurredAt))) } a
        (.recorded job effect (completionMessage job effect.result id eventId occurredAt)
          (completionMessage job effect.result id eventId occurredAt)))
  | conflict {s : Reconciliation τ ι} {a : τ} {job : Job} {effect : Effect} {id eventId k : Uuid}
      {occurredAt : Timestamp} {row : CompletionRow} :
      s.attempts a = .processed job effect → s.outbox.committed k = some row →
      row.message.taskId = job.taskId →
      ReconcileStep s (.insert a id eventId occurredAt) (s.advance a
        (.conflicted job effect (completionMessage job effect.result id eventId occurredAt)))
  | loadMissing {s : Reconciliation τ ι} {a : τ} {job : Job} {effect : Effect}
      {built : CompletionMessage} :
      s.attempts a = .conflicted job effect built →
      (∀ k row, s.outbox.view a k = some row → row.message.taskId ≠ built.taskId) →
      ReconcileStep s (.load a) (s.raise a (.other
        "Completion outbox conflict was reported but the existing task row could not be loaded."))
  | collision {s : Reconciliation τ ι} {a : τ} {job : Job} {effect : Effect} {k : Uuid}
      {built : CompletionMessage} {row : CompletionRow} :
      s.attempts a = .conflicted job effect built → s.outbox.view a k = some row →
      row.message.taskId = built.taskId →
      row.message.incidentId ≠ built.incidentId ∨
        row.message.correlationId ≠ built.correlationId →
      ReconcileStep s (.load a) (s.raise a (.other
        ("Existing completion outbox task identity does not match the incoming " ++
          "Incident completion event.")))
  | load {s : Reconciliation τ ι} {a : τ} {job : Job} {effect : Effect} {k : Uuid}
      {built : CompletionMessage} {row : CompletionRow} :
      s.attempts a = .conflicted job effect built → s.outbox.view a k = some row →
      row.message.taskId = built.taskId → row.message.incidentId = built.incidentId →
      row.message.correlationId = built.correlationId →
      ReconcileStep s (.load a) (s.advance a (.recorded job effect built row.message))
  | commit {s : Reconciliation τ ι} {a : τ} {job : Job} {effect : Effect}
      {built stored : CompletionMessage} :
      s.attempts a = .recorded job effect built stored →
      ReconcileStep s (.commit a) (Reconciliation.advance
        { s with
          incidents := s.incidents.commit a
          outbox := s.outbox.commit a
          log := s.log ++ [⟨a, job, effect, built, stored⟩] } a (.committed job effect))
  | fail {s : Reconciliation τ ι} {a : τ} {error : ProcessorError} :
      (s.attempts a).inProgress →
      ReconcileStep s (.fail a error) (s.raise a error)
  | returned {s : Reconciliation τ ι} {i : ι} {a : τ} {execution : IncidentTaskExecution}
      {job : Job} {effect : Effect} :
      s.reconcilers i = .processing execution a → s.attempts a = .committed job effect →
      ReconcileStep s (.return i) (s.become i (.finished execution (.ok effect.result)))
  | raised {s : Reconciliation τ ι} {i : ι} {a : τ} {execution : IncidentTaskExecution}
      {error : ProcessorError} :
      s.reconcilers i = .processing execution a → s.attempts a = .raised error →
      ReconcileStep s (.return i) (s.become i (.finished execution (.error error)))
  | mark {s : Reconciliation τ ι} {i : ι} {execution : IncidentTaskExecution} {now : String}
      {outcome : Except ProcessorError IncidentProcessingResult} :
      s.reconcilers i = .finished execution outcome →
      ReconcileStep s (.mark i now) (Reconciliation.become
        { s with executions := marked s.executions execution now outcome } i .idle)
  | crash {s : Reconciliation τ ι} {i : ι} : ReconcileStep s (.crash i) (s.become i .idle)
  | edit {s : Reconciliation τ ι} {k : Uuid} {row : Option Incident} :
      s.incidents.holder k = none → (∀ incident ∈ row, incident.id = k) →
      ReconcileStep s (.edit k)
        { s with
          incidents :=
            { s.incidents with committed := Function.update s.incidents.committed k row } }
  | relay {s : Reconciliation τ ι} {k : Uuid} {row row' : CompletionRow} :
      s.outbox.holder k = none → s.outbox.committed k = some row → row'.message = row.message →
      ReconcileStep s (.relay k)
        { s with
          outbox :=
            { s.outbox with committed := Function.update s.outbox.committed k (some row') } }

def Reconciliation.start (incidents : Uuid → Option Incident) : Reconciliation τ ι :=
  { executions := fun _ => none
    incidents := .of fun k => (incidents k).map fun incident => { incident with id := k }
    outbox := .of fun _ => none
    attempts := fun _ => .idle
    reconcilers := fun _ => .idle
    log := [] }

end OpsFlow.Incidents
