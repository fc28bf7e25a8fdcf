import OpsFlow.Values
import OpsFlow.Library.ConditionalStore

namespace OpsFlow.Execution
open ConditionalStore

inductive IncidentTaskExecutionStatus
  | readyForIncidentService
  | incidentServiceProcessing
  | succeeded
  | failed
  deriving DecidableEq, Repr

structure Item where
  taskId : String
  incidentId : String
  taskType : String
  schemaVersion : String
  producer : String
  idempotencyKey : String
  correlationId : String
  status : IncidentTaskExecutionStatus
  payload : Json
  createdAt : String
  acceptedAt : String
  updatedAt : String
  reconciliationAttempts : ℕ
  expiration : ℤ
  causationId : Option String
  taskMetadata : Option Json
  reconciliationStartedAt : Option String
  reconciliationToken : Option String
  leaseExpiresAt : Option ℤ
  lastError : Option String
  completedAt : Option String
  failedAt : Option String
  result : Option Json

abbrev Table := Store String Item

/-! ## The worker: accepting a task -/

structure Task where
  taskId : String
  taskType : String
  schemaVersion : String
  producer : String
  idempotencyKey : String
  correlationId : String
  payload : Json
  createdAt : String
  causationId : Option String
  taskMetadata : Option Json

structure TaskExecutionCollisionError where
  message : String
  deriving DecidableEq

def acceptedItem (task : Task) (incidentId acceptedAt : String) (expiration : ℤ) : Item :=
  { taskId := task.taskId
    incidentId := incidentId
    taskType := task.taskType
    schemaVersion := task.schemaVersion
    producer := task.producer
    idempotencyKey := task.idempotencyKey
    correlationId := task.correlationId
    status := .readyForIncidentService
    payload := task.payload
    createdAt := task.createdAt
    acceptedAt := acceptedAt
    updatedAt := acceptedAt
    reconciliationAttempts := 0
    expiration := expiration
    causationId := task.causationId
    taskMetadata := task.taskMetadata
    reconciliationStartedAt := none
    reconciliationToken := none
    leaseExpiresAt := none
    lastError := none
    completedAt := none
    failedAt := none
    result := none }

/-- The `put_item` of `accept_incident_processing_task`; `none` is a failed condition. -/
def putExecution (table : Table) (task : Task) (incidentId acceptedAt : String)
    (expiration : ℤ) : Option Table :=
  putIfAbsent table task.taskId (acceptedItem task incidentId acceptedAt expiration)

def validateExistingRecord (existing : Item) (task : Task) (incidentId : String) :
    Except TaskExecutionCollisionError Unit :=
  let expectedValues := [("task_id", existing.taskId, task.taskId),
    ("incident_id", existing.incidentId, incidentId),
    ("task_type", existing.taskType, task.taskType),
    ("idempotency_key", existing.idempotencyKey, task.idempotencyKey),
    ("correlation_id", existing.correlationId, task.correlationId)]
  let mismatchedFields := (expectedValues.filter fun f => f.2.1 ≠ f.2.2).map Prod.fst
  if mismatchedFields = [] then .ok ()
  else
    let fields := ", ".intercalate (mismatchedFields.mergeSort fun a b => decide (a ≤ b))
    .error ⟨"Existing task execution record conflicts with the incoming task for fields: " ++
      fields⟩

/-- The consistent read after the failed put, and what it is checked for. -/
def loadExisting (table : Table) (task : Task) (incidentId : String) :
    Except TaskExecutionCollisionError Unit :=
  match table task.taskId with
  | none => .error
      ⟨"Task execution record reported an existing task_id but could not be loaded"⟩
  | some existing => validateExistingRecord existing task incidentId

/-! ## The reconciler: claiming and finishing a task -/

structure IncidentTaskExecution where
  taskId : String
  incidentId : Uuid
  taskType : String
  correlationId : String
  createdAt : String
  status : IncidentTaskExecutionStatus
  reconciliationAttempts : ℕ
  leaseExpiresAt : Option ℤ
  reconciliationToken : Option String

/-- `_to_domain`; an incident id that is no UUID raises a `ValueError`. -/
def toDomain (item : Item) : Option IncidentTaskExecution :=
  (Uuid.parse? item.incidentId).map fun incidentId =>
    { taskId := item.taskId
      incidentId := incidentId
      taskType := item.taskType
      correlationId := item.correlationId
      createdAt := item.createdAt
      status := item.status
      reconciliationAttempts := item.reconciliationAttempts
      leaseExpiresAt := item.leaseExpiresAt
      reconciliationToken := item.reconciliationToken }

/-- The condition of `claim`: the task is ready, or its lease has expired. -/
def claimable (nowEpoch : ℤ) (item : Item) : Bool :=
  item.status = .readyForIncidentService ∨
    (item.status = .incidentServiceProcessing ∧ ∃ lease ∈ item.leaseExpiresAt, lease ≤ nowEpoch)

/-- The readings and the token that `claim` draws before it writes. -/
structure ClaimDraw where
  leaseSeconds : ℤ
  nowEpoch : ℤ
  now : String
  reconciliationToken : String

def claimed (draw : ClaimDraw) (item : Item) : Item :=
  { item with
    status := .incidentServiceProcessing
    reconciliationStartedAt := some draw.now
    reconciliationToken := some draw.reconciliationToken
    leaseExpiresAt := some (draw.nowEpoch + draw.leaseSeconds)
    updatedAt := draw.now
    reconciliationAttempts := item.reconciliationAttempts + 1 }

/-- The update of `claim` with the new item; `none` is a failed condition. -/
def claim (table : Table) (taskId : String) (draw : ClaimDraw) : Option (Item × Table) :=
  updateIf table taskId (claimable draw.nowEpoch) (claimed draw)

structure ExecutionStateOwnershipLostError where
  message : String
  deriving DecidableEq

inductive Mark
  | succeeded (result : Json)
  | retryableFailure (error : String)
  | failed (error : String)

/-- Python's `error[:1000]`. -/
def truncated (error : String) : String := String.ofList (error.toList.take 1000)

def released (item : Item) : Item :=
  { item with
    leaseExpiresAt := none
    reconciliationStartedAt := none
    reconciliationToken := none }

def Mark.apply (now : String) (item : Item) : Mark → Item
  | .succeeded result =>
    { released item with
      status := .succeeded
      completedAt := some now
      updatedAt := now
      result := some result
      lastError := none }
  | .retryableFailure error =>
    { released item with
      status := .readyForIncidentService
      updatedAt := now
      lastError := some (truncated error) }
  | .failed error =>
    { released item with
      status := .failed
      failedAt := some now
      updatedAt := now
      lastError := some (truncated error) }

def updateOwnedExecution (table : Table) (execution : IncidentTaskExecution)
    (change : Item → Item) : Except ExecutionStateOwnershipLostError Table :=
  match execution.reconciliationToken with
  | none => .error ⟨"Execution has no reconciliation token."⟩
  | some token =>
    let owned (item : Item) : Bool :=
      item.status = .incidentServiceProcessing ∧ item.reconciliationToken = some token
    match updateIf table execution.taskId owned change with
    | none => .error ⟨"Reconciler no longer owns task " ++ execution.taskId ++ "."⟩
    | some (_, table') => .ok table'

def mark (table : Table) (execution : IncidentTaskExecution) (m : Mark) (now : String) :
    Except ExecutionStateOwnershipLostError Table :=
  updateOwnedExecution table execution fun item => m.apply now item

def markSucceeded (table : Table) (execution : IncidentTaskExecution) (result : Json)
    (now : String) : Except ExecutionStateOwnershipLostError Table :=
  mark table execution (.succeeded result) now

def markRetryableFailure (table : Table) (execution : IncidentTaskExecution) (error : String)
    (now : String) : Except ExecutionStateOwnershipLostError Table :=
  mark table execution (.retryableFailure error) now

def markFailed (table : Table) (execution : IncidentTaskExecution) (error : String)
    (now : String) : Except ExecutionStateOwnershipLostError Table :=
  mark table execution (.failed error) now

/-! ## What each write does -/

variable {table table' : Table} {execution : IncidentTaskExecution} {item' : Item}
  {taskId incidentId acceptedAt now : String} {expiration : ℤ} {task : Task} {draw : ClaimDraw}
  {m : Mark}

def Item.ownedBy (item : Item) (token : String) : Prop :=
  item.status = .incidentServiceProcessing ∧ item.reconciliationToken = some token

theorem claim_eq_some : claim table taskId draw = some (item', table') ↔
    ∃ item, table taskId = some item ∧ claimable draw.nowEpoch item = true ∧
      claimed draw item = item' ∧ Function.update table taskId (some item') = table' :=
  updateIf_eq_some

/-- A mark writes if and only if its token owns the record. -/
theorem mark_eq_ok : mark table execution m now = .ok table' ↔
    ∃ token item, execution.reconciliationToken = some token ∧
      table execution.taskId = some item ∧ item.ownedBy token ∧
      Function.update table execution.taskId (some (m.apply now item)) = table' := by
  unfold mark updateOwnedExecution
  cases htoken : execution.reconciliationToken with
  | none => simp
  | some token =>
    dsimp only
    split
    · rename_i h
      rw [updateIf_eq_none] at h
      simp only [reduceCtorEq, Option.some.injEq, false_iff]
      intro hex
      obtain ⟨_, item, rfl, hitem, howned, -⟩ := hex
      simpa [howned.1, howned.2] using h item hitem
    · rename_i item' table'' h
      rw [updateIf_eq_some] at h
      obtain ⟨item, hitem, howned, rfl, rfl⟩ := h
      simp only [Except.ok.injEq, Option.some.injEq]
      constructor
      · intro h
        exact ⟨token, item, rfl, hitem, by simpa [Item.ownedBy] using howned, h⟩
      · intro h
        obtain ⟨_, item', rfl, hitem', -, h⟩ := h
        rw [hitem] at hitem'
        cases hitem'
        exact h

@[simp] theorem Mark.apply_token (m : Mark) (now : String) (item : Item) :
    (m.apply now item).reconciliationToken = none := by
  cases m <;> rfl

@[simp] theorem Mark.apply_lease (m : Mark) (now : String) (item : Item) :
    (m.apply now item).leaseExpiresAt = none := by
  cases m <;> rfl

@[simp] theorem Mark.apply_attempts (m : Mark) (now : String) (item : Item) :
    (m.apply now item).reconciliationAttempts = item.reconciliationAttempts := by
  cases m <;> rfl

theorem Mark.apply_status (m : Mark) (now : String) (item : Item) :
    (m.apply now item).status ≠ .incidentServiceProcessing := by
  cases m <;> simp [Mark.apply]

end OpsFlow.Execution
