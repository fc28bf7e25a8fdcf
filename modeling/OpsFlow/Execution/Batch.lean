import OpsFlow.Execution.Idempotency
import OpsFlow.Execution.Intake

namespace OpsFlow.Execution
open Contracts

/-! ## The handlers -/

abbrev TaskHandlers (ε W : Type) := List (String × (Members → W → Except ε Unit × W))

def dispatchTask {ε W : Type} (handlers : TaskHandlers ε W) : TaskProcessor ε W := fun task world =>
  match text? task "task_type" with
  | none => (.error (.record .missingField), world)
  | some taskType =>
    match handlers.lookup taskType with
    | none => (.error (.unsupportedTaskType ("Unsupported task type: " ++ taskType)), world)
    | some handler =>
      match handler task world with
      | (.ok (), world') => (.ok (), world')
      | (.error e, world') => (.error (.handler e), world')

/-- The execution table, and what a new record of it is stamped with. -/
structure ExecutionWorld where
  table : Table
  acceptedAt : String
  expiration : ℤ

def taskHandlers : TaskHandlers HandlerError ExecutionWorld :=
  [("incident.notification.requested", fun _ world => (.ok (), world)),
    ("incident.processing.requested", fun task world =>
      match handleIncidentProcessingRequested world.table task world.acceptedAt
        world.expiration with
      | .ok table => (.ok (), { world with table := table })
      | .error e => (.error e, world))]

/-! ## A batch of records -/

structure InvalidSqsRecordError where
  message : String
  deriving DecidableEq

section

variable {ε W : Type} (runtime : IdempotencyRuntime) (clock : Clock) (loads : String → Option Json)
  (handlers : TaskHandlers ε W) (deadline : Option ℕ)

/-- `loads` is `json.loads`. -/
def parseRecordBody (record : Members) : Except RecordError Json :=
  match text? record "body" with
  | none => .error (.invalidSqsRecord "SQS record body must be a string")
  | some body =>
    match loads body with
    | none => .error (.invalidSqsRecord "SQS record body must contain valid JSON")
    | some value => .ok value

def taskOfRecord (record : Members) : Except RecordError (Members × String) := do
  let candidate ← parseRecordBody loads record
  match TaskWorker.validateTaskEnvelope candidate with
  | .error _ => .error .invalidTaskEnvelope
  | .ok (.object task) =>
    match text? task "idempotency_key" with
    | none => .error .missingField
    | some idempotencyKey => .ok (task, idempotencyKey)
  | .ok _ => .error .invalidTaskEnvelope

def processRecord (record : Members) (worker : Worker W) : Except (TaskError ε) Unit × Worker W :=
  match taskOfRecord loads record with
  | .error e => (.error (.record e), worker)
  | .ok (task, idempotencyKey) =>
    processTaskIdempotently runtime clock deadline (dispatchTask handlers) task idempotencyKey
      worker

/-- The loop of `lambda_handler`; the last argument but one is `batch_item_failures`. -/
def processRecords : List Json → List String → Worker W →
    Except InvalidSqsRecordError (List String) × Worker W
  | [], failures, worker => (.ok failures, worker)
  | .object record :: records, failures, worker =>
    match text? record "messageId" with
    | none => (.error ⟨"Each SQS record must contain messageId"⟩, worker)
    | some messageId =>
      if messageId = "" then (.error ⟨"Each SQS record must contain messageId"⟩, worker)
      else
        match processRecord runtime clock loads handlers deadline record worker with
        | (.ok (), worker') => processRecords records failures worker'
        | (.error _, worker') => processRecords records (failures ++ [messageId]) worker'
  | _ :: _, _, worker => (.error ⟨"Each SQS record must be an object"⟩, worker)

def batchResponse (failures : List String) : Json :=
  .object [("batchItemFailures",
    .array (failures.map fun messageId => .object [("itemIdentifier", .string messageId)]))]

def lambdaHandler (event : Members) (worker : Worker W) :
    Except InvalidSqsRecordError Json × Worker W :=
  match event.lookup "Records" with
  | some (.array records) =>
    match processRecords runtime clock loads handlers deadline records [] worker with
    | (.ok failures, worker') => (.ok (batchResponse failures), worker')
    | (.error e, worker') => (.error e, worker')
  | _ => (.error ⟨"Lambda event must contain a Records list"⟩, worker)

end

/-- A record that carries a task has it in its body. -/
theorem taskOfRecord_body {loads : String → Option Json} {record task : Members}
    {idempotencyKey : String} (h : taskOfRecord loads record = .ok (task, idempotencyKey)) :
    parseRecordBody loads record = .ok (.object task) := by
  unfold taskOfRecord at h
  rw [bind_eq_ok] at h
  obtain ⟨candidate, hbody, h⟩ := h
  split at h
  · contradiction
  · rename_i task' hvalid
    obtain ⟨-, rfl⟩ := TaskWorker.validateTaskEnvelope_eq_ok.mp hvalid
    split at h
    · contradiction
    · obtain ⟨rfl, -⟩ := Prod.mk.inj (Except.ok.inj h)
      exact hbody
  · contradiction

end OpsFlow.Execution
