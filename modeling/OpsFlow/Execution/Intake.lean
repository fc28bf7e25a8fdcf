import OpsFlow.Text
import OpsFlow.Contracts.EnvelopeAgreement
import OpsFlow.Execution.Lease

namespace OpsFlow.Execution
open Contracts ConditionalStore

/-! ## The worker's handler of `incident.processing.requested` -/

inductive HandlerError
  | invalidPayload (message : String)
  | collision (error : TaskExecutionCollisionError)
  | missingField
  deriving DecidableEq

def text? (members : List (String × Json)) (key : String) : Option String :=
  match members.lookup key with
  | some (.string s) => some s
  | _ => none

def present? (members : List (String × Json)) (key : String) : Option Json :=
  match members.lookup key with
  | some .null | none => none
  | some value => some value

/-- What the store reads from a task; `none` is a `KeyError`. -/
def Task.ofMembers? (members : List (String × Json)) : Option Task := do
  let taskId ← text? members "task_id"
  let taskType ← text? members "task_type"
  let schemaVersion ← text? members "schema_version"
  let producer ← text? members "producer"
  let idempotencyKey ← text? members "idempotency_key"
  let correlationId ← text? members "correlation_id"
  let payload ← members.lookup "payload"
  let createdAt ← text? members "created_at"
  some
    { taskId := taskId
      taskType := taskType
      schemaVersion := schemaVersion
      producer := producer
      idempotencyKey := idempotencyKey
      correlationId := correlationId
      payload := payload
      createdAt := createdAt
      causationId := text? members "causation_id"
      taskMetadata := present? members "metadata" }

def incidentIdFromTask (members : List (String × Json)) : Except HandlerError String :=
  match members.lookup "payload" with
  | some (.object payload) =>
    match text? payload "incident_id" with
    | some incidentId =>
      if stripped pythonSpace incidentId = "" then .error (.invalidPayload
        "Incident Processing task payload must contain a non-empty incident_id")
      else
        match Uuid.parse? incidentId with
        | some parsedIncidentId => .ok parsedIncidentId.str
        | none => .error (.invalidPayload
            "Incident Processing task incident_id must be a valid UUID")
    | none => .error (.invalidPayload
        "Incident Processing task payload must contain a non-empty incident_id")
  | _ => .error (.invalidPayload "Incident Processing task payload must be an object")

/-- Whether the record is a new one, and the table after the call. -/
def acceptIncidentProcessingTask (table : Table) (task : Task) (incidentId acceptedAt : String)
    (expiration : ℤ) : Except TaskExecutionCollisionError (Bool × Table) :=
  match putExecution table task incidentId acceptedAt expiration with
  | some table' => .ok (true, table')
  | none => (loadExisting table task incidentId).map fun _ => (false, table)

def handleIncidentProcessingRequested (table : Table) (members : List (String × Json))
    (acceptedAt : String) (expiration : ℤ) : Except HandlerError Table := do
  let incidentId ← incidentIdFromTask members
  match Task.ofMembers? members with
  | none => .error .missingField
  | some task =>
    match acceptIncidentProcessingTask table task incidentId acceptedAt expiration with
    | .ok (_, table') => .ok table'
    | .error e => .error (.collision e)

/-! ## The identity of a record -/

/-- What `_validate_existing_record` compares. -/
structure TaskIdentity where
  taskId : String
  incidentId : String
  taskType : String
  idempotencyKey : String
  correlationId : String
  deriving DecidableEq

def Item.identity (item : Item) : TaskIdentity :=
  ⟨item.taskId, item.incidentId, item.taskType, item.idempotencyKey, item.correlationId⟩

def Task.identity (task : Task) (incidentId : String) : TaskIdentity :=
  ⟨task.taskId, incidentId, task.taskType, task.idempotencyKey, task.correlationId⟩

variable {table table' : Table} {task : Task} {incidentId acceptedAt taskId key : String}
  {expiration : ℤ} {members : List (String × Json)} {item : Item}

theorem validateExistingRecord_eq_ok {existing : Item} :
    validateExistingRecord existing task incidentId = .ok () ↔
      existing.identity = task.identity incidentId := by
  unfold validateExistingRecord Item.identity Task.identity
  simp only [List.map_eq_nil_iff, List.filter_eq_nil_iff, ite_eq_left_iff, reduceCtorEq, imp_false,
    List.forall_mem_cons, List.not_mem_nil, TaskIdentity.mk.injEq, decide_eq_true_eq, not_not,
    ne_eq, false_imp_iff, implies_true, and_true]

theorem identity_acceptedItem :
    (acceptedItem task incidentId acceptedAt expiration).identity = task.identity incidentId := rfl

theorem identity_claimed (draw : ClaimDraw) : (claimed draw item).identity = item.identity := rfl

theorem identity_apply (m : Mark) (now : String) : (m.apply now item).identity = item.identity := by
  cases m with
  | succeeded result => rfl
  | retryableFailure error => rfl
  | failed error => rfl

/-- An accepted task has a record of its own identity. -/
theorem acceptIncidentProcessingTask_eq_ok {created : Bool}
    (h : acceptIncidentProcessingTask table task incidentId acceptedAt expiration =
      .ok (created, table')) :
    ∃ item, table' task.taskId = some item ∧ item.identity = task.identity incidentId := by
  unfold acceptIncidentProcessingTask at h
  split at h
  · rename_i table'' hput
    obtain ⟨-, rfl⟩ := Prod.mk.inj (Except.ok.inj h)
    obtain ⟨-, rfl⟩ := putIfAbsent_eq_some.mp hput
    exact ⟨_, Function.update_self .., identity_acceptedItem⟩
  · unfold loadExisting at h
    cases hexisting : table task.taskId with
    | none => simp [hexisting, Except.map] at h
    | some existing =>
      cases hvalid : validateExistingRecord existing task incidentId with
      | error e => simp [hexisting, hvalid, Except.map] at h
      | ok u =>
        simp only [hexisting, hvalid, Except.map, Except.ok.injEq, Prod.mk.injEq] at h
        obtain ⟨-, rfl⟩ := h
        exact ⟨existing, hexisting, validateExistingRecord_eq_ok.mp hvalid⟩

/-- No call changes the identity of a record. -/
theorem Call.perform_identity (call : Call) (h : table key = some item) :
    ∃ item', (call.perform table).1 key = some item' ∧ item'.identity = item.identity := by
  cases call with
  | put task incidentId acceptedAt expiration =>
    dsimp only [Call.perform]
    split
    · rename_i table' hput
      obtain ⟨habsent, rfl⟩ := putIfAbsent_eq_some.mp hput
      have hne : key ≠ task.taskId := by
        rintro rfl
        rw [habsent] at h
        contradiction
      exact ⟨item, update_eq_some.mpr (.inr ⟨hne, h⟩), rfl⟩
    · exact ⟨item, h, rfl⟩
  | load task incidentId => exact ⟨item, h, rfl⟩
  | claim taskId draw =>
    dsimp only [Call.perform]
    split
    · rename_i item' table' hclaim
      obtain ⟨old, hold, -, rfl, rfl⟩ := claim_eq_some.mp hclaim
      by_cases hkey : key = taskId
      · subst hkey
        obtain rfl := Option.some.inj (h.symm.trans hold)
        exact ⟨_, Function.update_self .., identity_claimed draw⟩
      · exact ⟨item, update_eq_some.mpr (.inr ⟨hkey, h⟩), rfl⟩
    · exact ⟨item, h, rfl⟩
  | mark execution m now =>
    dsimp only [Call.perform]
    split
    · rename_i table' hmark
      obtain ⟨_, old, -, hold, -, rfl⟩ := mark_eq_ok.mp hmark
      by_cases hkey : key = execution.taskId
      · subst hkey
        obtain rfl := Option.some.inj (h.symm.trans hold)
        exact ⟨_, Function.update_self .., identity_apply m now⟩
      · exact ⟨item, update_eq_some.mpr (.inr ⟨hkey, h⟩), rfl⟩
    · exact ⟨item, h, rfl⟩

def afterCalls (table : Table) (calls : List Call) : Table :=
  calls.foldl (fun t call => (call.perform t).1) table

theorem afterCalls_identity (calls : List Call) (h : table key = some item) :
    ∃ item', afterCalls table calls key = some item' ∧ item'.identity = item.identity := by
  induction calls generalizing table item with
  | nil => exact ⟨item, h, rfl⟩
  | cons call calls ih =>
    obtain ⟨item₁, h₁, hidentity₁⟩ := call.perform_identity h
    obtain ⟨item₂, h₂, hidentity₂⟩ := ih h₁
    exact ⟨item₂, h₂, hidentity₂.trans hidentity₁⟩

/-! ## What the handler stores -/

theorem text?_eq_some {s : String} :
    text? members key = some s ↔ members.lookup key = some (.string s) := by
  unfold text?
  split
  · rename_i t h
    simp [h]
  · rename_i hnot
    simp only [reduceCtorEq, false_iff]
    exact hnot s

theorem incidentIdFromTask_eq_ok (h : incidentIdFromTask members = .ok incidentId) :
    ∃ parsed : Uuid, incidentId = parsed.str := by
  unfold incidentIdFromTask at h
  split at h
  · split at h
    · split at h
      · cases h
      · split at h
        · rename_i parsed _
          exact ⟨parsed, (Except.ok.inj h).symm⟩
        · cases h
    · cases h
  · cases h

theorem ofMembers?_eq_some (h : Task.ofMembers? members = some task) :
    text? members "task_id" = some task.taskId ∧ text? members "task_type" = some task.taskType ∧
      text? members "correlation_id" = some task.correlationId ∧
      text? members "idempotency_key" = some task.idempotencyKey := by
  unfold Task.ofMembers? at h
  simp only [Option.bind_eq_bind, Option.bind_eq_some_iff] at h
  obtain ⟨taskId, htaskId, taskType, htaskType, schemaVersion, -, producer, -, idempotencyKey,
    hkey, correlationId, hcorrelationId, payload, -, createdAt, -, hok⟩ := h
  obtain rfl := Option.some.inj hok
  exact ⟨htaskId, htaskType, hcorrelationId, hkey⟩

/-- A handled task has a record of its own identity, under a UUID of an incident. -/
theorem handleIncidentProcessingRequested_eq_ok
    (h : handleIncidentProcessingRequested table members acceptedAt expiration = .ok table') :
    ∃ (task : Task) (incidentId : Uuid) (item : Item), Task.ofMembers? members = some task ∧
      table' task.taskId = some item ∧ item.identity = task.identity incidentId.str := by
  unfold handleIncidentProcessingRequested at h
  cases hincident : incidentIdFromTask members with
  | error e =>
    rw [hincident] at h
    contradiction
  | ok incidentId =>
    rw [hincident] at h
    obtain ⟨parsed, rfl⟩ := incidentIdFromTask_eq_ok hincident
    change (match Task.ofMembers? members with | none => _ | some task => _) = _ at h
    split at h
    · contradiction
    · rename_i task htask
      split at h
      · rename_i created table'' haccept
        obtain rfl := Except.ok.inj h
        obtain ⟨item, hitem, hidentity⟩ := acceptIncidentProcessingTask_eq_ok haccept
        exact ⟨task, parsed, item, htask, hitem, hidentity⟩
      · contradiction

/-! ## A task that nobody has stored yet -/

/-- Where the payload carries the text of a UUID, the handler goes by that text. -/
theorem incidentIdFromTask_str {payload : List (String × Json)} {u : Uuid}
    (hpayload : members.lookup "payload" = some (.object payload))
    (h : text? payload "incident_id" = some u.str) : incidentIdFromTask members = .ok u.str := by
  have hblank : ¬ stripped pythonSpace u.str = "" := by
    rw [stripped_str (by decide)]
    exact str_ne_empty u
  unfold incidentIdFromTask
  simp only [hpayload, h, if_neg hblank, parse?_str]

theorem handleIncidentProcessingRequested_new
    (hincident : incidentIdFromTask members = .ok incidentId)
    (htask : Task.ofMembers? members = some task) (hnone : table task.taskId = none) :
    handleIncidentProcessingRequested table members acceptedAt expiration = .ok
      (Function.update table task.taskId
        (some (acceptedItem task incidentId acceptedAt expiration))) := by
  have hput : putExecution table task incidentId acceptedAt expiration =
      some (Function.update table task.taskId
        (some (acceptedItem task incidentId acceptedAt expiration))) :=
    putIfAbsent_eq_some.mpr ⟨hnone, rfl⟩
  have haccept : acceptIncidentProcessingTask table task incidentId acceptedAt expiration =
      .ok (true, Function.update table task.taskId
        (some (acceptedItem task incidentId acceptedAt expiration))) := by
    unfold acceptIncidentProcessingTask
    rw [hput]
  unfold handleIncidentProcessingRequested
  simp only [hincident, htask, haccept, bind, Except.bind]

end OpsFlow.Execution
