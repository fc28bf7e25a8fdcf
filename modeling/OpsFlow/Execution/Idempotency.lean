import OpsFlow.Values
import OpsFlow.Library.ConditionalStore
import Mathlib.Order.Monotone.Basic

namespace OpsFlow.Execution
open ConditionalStore

/-! ## The idempotency store -/

structure Clock where
  reading : ℕ → ℕ
  monotone : Monotone reading

inductive RecordStatus
  | inProgress
  | completed
  deriving DecidableEq

/-- What Powertools keeps under the hash of a key; the first timestamp is in seconds, the second one
in milliseconds. -/
structure DataRecord where
  status : RecordStatus
  expiryTimestamp : ℕ
  inProgressExpiryTimestamp : Option ℕ
  deriving DecidableEq

/-- The condition under which a put writes over a record. -/
def DataRecord.replaceable (now : ℕ) (record : DataRecord) : Bool :=
  record.expiryTimestamp < now / 1000 ∨
    (record.status = .inProgress ∧ ∃ t ∈ record.inProgressExpiryTimestamp, t < now)

structure IdempotencyRuntime where
  expiresAfterSeconds : ℕ
  minimum : 60 ≤ expiresAfterSeconds
  hash : String → String

/-- The key of a record; the first part is the `key_prefix`. -/
def IdempotencyRuntime.recordKey (runtime : IdempotencyRuntime) (idempotencyKey : String) :
    String :=
  "opsflow-task-worker" ++ "#" ++ runtime.hash idempotencyKey

abbrev Records := Store String DataRecord

/-- `save_inprogress`; `none` is `IdempotencyItemAlreadyExistsError`. The deadline is that of the
registered Lambda context. -/
def saveInProgress (runtime : IdempotencyRuntime) (deadline : Option ℕ) (now : ℕ)
    (records : Records) (key : String) : Option Records :=
  if (records key).all (DataRecord.replaceable now) then
    some (Function.update records key
      (some ⟨.inProgress, now / 1000 + runtime.expiresAfterSeconds, deadline⟩))
  else none

def saveSuccess (runtime : IdempotencyRuntime) (now : ℕ) (records : Records) (key : String) :
    Records :=
  Function.update records key (some ⟨.completed, now / 1000 + runtime.expiresAfterSeconds, none⟩)

def deleteRecord (records : Records) (key : String) : Records := Function.update records key none

/-! ## One call of `process_task_idempotently` -/

inductive RecordError
  | invalidSqsRecord (message : String)
  | invalidTaskEnvelope
  | missingField

inductive TaskError (ε : Type)
  | record (error : RecordError)
  | alreadyInProgress
  | unsupportedTaskType (message : String)
  | handler (error : ε)

abbrev Members := List (String × Json)

/-- What a handler does to the rest of the world, whether it raises or not. -/
abbrev TaskProcessor (ε W : Type) := Members → W → Except (TaskError ε) Unit × W

/-- How a call of the processor ended; a completed one has left a record that expires. -/
inductive Result
  | completed (expiryTimestamp : ℕ)
  | raised

structure Invocation where
  idempotencyKey : String
  startedAt : ℕ
  result : Result

structure Worker (W : Type) where
  records : Records
  /-- how many times the clock has been read -/
  readings : ℕ
  world : W
  invocations : List Invocation

variable {ε W : Type} (runtime : IdempotencyRuntime) (clock : Clock)

/-- The processor runs between the put and the update of its record. -/
def invokeTaskProcessor (processor : TaskProcessor ε W) (task : Members) (idempotencyKey : String)
    (records : Records) (worker : Worker W) : Except (TaskError ε) Unit × Worker W :=
  let key := runtime.recordKey idempotencyKey
  let started := clock.reading worker.readings
  let finished := clock.reading (worker.readings + 1)
  match processor task worker.world with
  | (.ok (), world) =>
    (.ok (),
      { records := saveSuccess runtime finished records key
        readings := worker.readings + 2
        world := world
        invocations := worker.invocations ++ [⟨idempotencyKey, started / 1000,
          .completed (finished / 1000 + runtime.expiresAfterSeconds)⟩] })
  | (.error e, world) =>
    (.error e,
      { records := deleteRecord records key
        readings := worker.readings + 2
        world := world
        invocations := worker.invocations ++ [⟨idempotencyKey, started / 1000, .raised⟩] })

def processTaskIdempotently (deadline : Option ℕ) (processor : TaskProcessor ε W) (task : Members)
    (idempotencyKey : String) (worker : Worker W) : Except (TaskError ε) Unit × Worker W :=
  let key := runtime.recordKey idempotencyKey
  match saveInProgress runtime deadline (clock.reading worker.readings) worker.records key with
  | some records => invokeTaskProcessor runtime clock processor task idempotencyKey records worker
  | none =>
    let worker' := { worker with readings := worker.readings + 1 }
    match (worker.records key).map DataRecord.status with
    | some .inProgress => (.error .alreadyInProgress, worker')
    -- the stored response is returned
    | _ => (.ok (), worker')

end OpsFlow.Execution
