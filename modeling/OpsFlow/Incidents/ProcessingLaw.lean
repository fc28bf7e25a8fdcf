import OpsFlow.Incidents.Processing

namespace OpsFlow.Incidents
open OpsFlow.Contracts
open OpsFlow.Execution (IncidentTaskExecution ClaimDraw Item)

/-! ## A task that can be finished -/

def Commits (db : Postgres) (execution : IncidentTaskExecution) (draw : ProcessDraw) : Prop :=
  ∃ result db', processIncidentWithPostgres db execution draw = (.ok result, db') ∧
    ∃ row ∈ db'.outbox, Uuid.parse? execution.taskId = some row.message.taskId ∧
      row.message.incidentId = execution.incidentId

structure Postgres.Serves (db : Postgres) (execution : IncidentTaskExecution) (taskId : Uuid)
    (draw : ProcessDraw) : Prop where
  incident : ∃ incident, Repository.getById db.incidents execution.incidentId = some incident
  own : ∀ row ∈ db.outbox, row.message.taskId = taskId →
    row.message.incidentId = execution.incidentId ∧
      varchar 128 execution.correlationId = some row.message.correlationId
  fresh : ∀ row ∈ db.outbox, row.message.id ≠ draw.id ∧ row.message.eventId ≠ draw.eventId

/-- The column takes the correlation id, and hands it back as it was given where a second attempt
compares it. -/
def Finishable (db : Postgres) (taskId : Uuid) (correlationId : String) : Prop :=
  '\x00' ∉ correlationId.toList ∧ (correlationId.length ≤ 128 ∨
    ((∀ c ∈ correlationId.toList.drop 128, c = ' ') ∧
      ∀ row ∈ db.outbox, row.message.taskId ≠ taskId))

variable {db : Postgres} {execution : IncidentTaskExecution} {taskId : Uuid} {draw : ProcessDraw}

theorem compute_id {existing updated : Incident} {c₁ c₂ : Timestamp}
    (h : Pass.process.compute existing c₁ c₂ = some updated) : updated.id = existing.id := by
  obtain ⟨-, hupdated⟩ := Option.ite_none_right_eq_some.mp h
  rw [← Option.some.inj hupdated]
  rfl

theorem result_incidentId (existing : Incident) (c₁ c₂ : Timestamp) :
    (Effect.result ⟨existing, Pass.process.compute existing c₁ c₂⟩).incidentId = existing.id := by
  unfold Effect.result
  cases h : Pass.process.compute existing c₁ c₂ with
  | none => rfl
  | some updated => exact compute_id h

def Inserts (db : Postgres) (execution : IncidentTaskExecution) (taskId : Uuid)
    (message : CompletionMessage) : Prop :=
  ∃ stored outbox, createCompletion db.outbox message = .ok (stored, outbox) ∧
    ∃ row ∈ outbox, row.message.taskId = taskId ∧ row.message.incidentId = execution.incidentId

variable {result : IncidentProcessingResult}

theorem not_inserts {message : CompletionMessage} {error : ProcessorError}
    (h : createCompletion db.outbox message = .error error) :
    ¬ Inserts db execution taskId message := by
  rintro ⟨stored, outbox, hok, -⟩
  rw [h] at hok
  contradiction

/-- What the column makes of the correlation id decides. -/
theorem finishable_iff {correlationId : String} : Finishable db taskId correlationId ↔
    ∃ text, varchar 128 correlationId = some text ∧
      (text = correlationId ∨ ∀ row ∈ db.outbox, row.message.taskId ≠ taskId) := by
  constructor
  · rintro ⟨hzero, hor⟩
    by_cases hlength : correlationId.length ≤ 128
    · exact ⟨_, varchar_of_length hzero hlength, .inl rfl⟩
    · obtain ⟨hspaces, hnone⟩ := hor.resolve_left hlength
      exact ⟨_, varchar_of_spaces hzero hlength hspaces, .inr hnone⟩
  · rintro ⟨text, htext, hor⟩
    by_cases hfits : FitsColumn 128 correlationId
    · refine ⟨hfits.1, ?_⟩
      by_cases hlength : correlationId.length ≤ 128
      · exact .inl hlength
      · have hspaces := hfits.2.resolve_left hlength
        rw [varchar_of_spaces hfits.1 hlength hspaces] at htext
        obtain rfl := Option.some.inj htext
        exact .inr ⟨hspaces, hor.resolve_left (take_ne hlength)⟩
    · rw [varchar_eq_none hfits] at htext
      contradiction

/-- A row that the task has already must hold the correlation id as it was given. -/
theorem inserts_of_varchar (hserves : db.Serves execution taskId draw)
    (hresult : result.incidentId = execution.incidentId) {text : String}
    (htext : varchar 128 execution.correlationId = some text) :
    Inserts db execution taskId (completionMessage ⟨execution, taskId⟩ result draw.id draw.eventId
      draw.occurredAt) ↔
      text = execution.correlationId ∨ ∀ row ∈ db.outbox, row.message.taskId ≠ taskId := by
  obtain ⟨row, hrow, htask, hincident⟩ := stored_completionMessage ⟨execution, taskId⟩ result
    draw.id draw.eventId draw.occurredAt htext
  -- a row of the task that is there already is compared with the message, correlation id and all
  by_cases hexists : ∃ r ∈ db.outbox, r.message.taskId = taskId
  · have hown (r : CompletionRow) (hr : r ∈ db.outbox) (htask : r.message.taskId = taskId) :
        r.message.incidentId = execution.incidentId ∧ r.message.correlationId = text :=
      ⟨(hserves.own r hr htask).1, Option.some.inj ((hserves.own r hr htask).2.symm.trans htext)⟩
    obtain ⟨existing, hmem, htask', hcreate⟩ := createCompletion_existing hrow hexists hown
    have hnot : ¬ ∀ r ∈ db.outbox, r.message.taskId ≠ taskId := by simpa using hexists
    rw [or_iff_left hnot]
    constructor
    · intro hinserts
      by_contra hne
      rw [if_pos (.inr hne)] at hcreate
      exact not_inserts hcreate hinserts
    · intro heq
      have hsame :
          ¬ (execution.incidentId ≠ result.incidentId ∨ text ≠ execution.correlationId) := by
        simp [hresult, heq]
      exact ⟨_, _, hcreate.trans (if_neg hsame), existing, hmem, htask',
        (hserves.own existing hmem htask').1⟩
  · have hnone : ∀ r ∈ db.outbox, r.message.taskId ≠ taskId := by simpa using hexists
    refine iff_of_true ⟨_, _, createCompletion_new hrow hnone hserves.fresh, row, ?_, htask,
      hincident.trans hresult⟩ (.inr hnone)
    exact List.mem_append_right _ (List.mem_singleton_self row)

/-- The insert of a served task goes through if and only if the task can be finished. -/
theorem inserts_iff (hserves : db.Serves execution taskId draw)
    (hresult : result.incidentId = execution.incidentId) :
    Inserts db execution taskId (completionMessage ⟨execution, taskId⟩ result draw.id draw.eventId
      draw.occurredAt) ↔ Finishable db taskId execution.correlationId := by
  rw [finishable_iff]
  cases htext : varchar 128 execution.correlationId with
  | none =>
    simp only [reduceCtorEq, false_and, exists_false, iff_false]
    exact not_inserts (createCompletion_rejected db.outbox (stored_eq_none _ htext))
  | some text => simpa using inserts_of_varchar hserves hresult htext

theorem commits_iff (htaskId : Uuid.parse? execution.taskId = some taskId)
    (hserves : db.Serves execution taskId draw) :
    Commits db execution draw ↔ Finishable db taskId execution.correlationId := by
  obtain ⟨existing, hexisting⟩ := hserves.incident
  have hid : existing.id = execution.incidentId := by simpa using List.find?_some hexisting
  have hresult := (result_incidentId existing draw.acknowledgedNow draw.updatedNow).trans hid
  rw [← inserts_iff hserves hresult]
  unfold Commits processIncidentWithPostgres Inserts
  rw [htaskId, hexisting]
  dsimp only
  split
  · rename_i error hcreate
    simp [hcreate]
  · rename_i stored outbox hcreate
    simp [hcreate, eq_comm]

/-- A correlation id that the column does not take fails every attempt in the same retryable way. -/
theorem process_retryable (htaskId : Uuid.parse? execution.taskId = some taskId)
    (hserves : db.Serves execution taskId draw) (h : ¬ FitsColumn 128 execution.correlationId) :
    processIncidentWithPostgres db execution draw = (.error databaseError, db) := by
  obtain ⟨existing, hexisting⟩ := hserves.incident
  have hrejected (result : IncidentProcessingResult) :=
    createCompletion_rejected db.outbox (stored_eq_none
      (completionMessage ⟨execution, taskId⟩ result draw.id draw.eventId draw.occurredAt)
      (varchar_eq_none h))
  unfold processIncidentWithPostgres
  rw [htaskId, hexisting]
  simp only [hrejected]

/-! ## From the envelope to the completion row -/

open OpsFlow.Execution in
/-- An accepted envelope, once stored, is finished by a call of the reconciler if and only
if its correlation id can be stored in turn; what workers and reconcilers do in between is
of no account. -/
theorem accepted_commits_iff {members : List (String × Json)}
    {table table₁ table₂ : Execution.Table} {acceptedAt : String} {expiration : ℤ}
    {calls : List Execution.Call} {taskId : String}
    {draw : ClaimDraw} {item : Item}
    (haccepted : TaskWorker.validateTaskEnvelope (.object members) = .ok (.object members))
    (hstored : handleIncidentProcessingRequested table members acceptedAt expiration = .ok table₁)
    (htaskId : text? members "task_id" = some taskId)
    (hclaim : Execution.claim (afterCalls table₁ calls) taskId draw = some (item, table₂)) :
    ∃ correlationId execution id, text? members "correlation_id" = some correlationId ∧
      toDomain item = some execution ∧ Uuid.parse? execution.taskId = some id ∧
      ∀ (db : Postgres) (draw : ProcessDraw), db.Serves execution id draw →
        (Commits db execution draw ↔ Finishable db id correlationId) := by
  obtain ⟨task, incidentId, first, htask, hfirst, hidentity⟩ :=
    handleIncidentProcessingRequested_eq_ok hstored
  obtain ⟨htaskId', -, hcorrelationId, -⟩ := ofMembers?_eq_some htask
  obtain rfl := Option.some.inj (htaskId.symm.trans htaskId')
  obtain ⟨second, hsecond, hidentity'⟩ := afterCalls_identity calls hfirst
  obtain ⟨found, hfound, -, rfl, -⟩ := claim_eq_some.mp hclaim
  obtain rfl := Option.some.inj (hsecond.symm.trans hfound)
  have hitem : (claimed draw second).identity = task.identity incidentId.str :=
    (identity_claimed draw).trans (hidentity'.trans hidentity)
  obtain ⟨hitemTask, hitemIncident, -, -, hitemCorrelation⟩ := TaskIdentity.mk.inj hitem
  -- the worker has checked the format of the `task_id`, so that it can be parsed
  have hparsed : ∃ id, Uuid.parse? task.taskId = some id := by
    obtain ⟨_, t, hvalue, hread, hchecked⟩ := taskEnvelopeSchema_iff.mp
      (TaskWorker.validateTaskEnvelope_eq_ok.mp haccepted).1
    obtain rfl := Json.object.inj hvalue
    have hid : t.taskId = task.taskId :=
      Json.string.inj (Option.some.inj (hread.taskId.symm.trans (text?_eq_some.mp htaskId')))
    have hformat := hchecked.taskId
    rw [hid, jsonschema_format] at hformat
    exact Option.isSome_iff_exists.mp (Bool.and_eq_true_iff.mp hformat).1
  obtain ⟨id, hid⟩ := hparsed
  have hdomain : ∃ execution, toDomain (claimed draw second) = some execution ∧
      execution.taskId = task.taskId ∧ execution.correlationId = task.correlationId := by
    unfold toDomain
    rw [hitemIncident, parse?_str, ← hitemTask, ← hitemCorrelation]
    exact ⟨_, rfl, rfl, rfl⟩
  obtain ⟨execution, hexecution, hexecutionTask, hexecutionCorrelation⟩ := hdomain
  have hexecutionId : Uuid.parse? execution.taskId = some id := by rw [hexecutionTask, hid]
  refine ⟨_, execution, id, hcorrelationId, hexecution, hexecutionId, fun db draw hserves => ?_⟩
  rw [← hexecutionCorrelation]
  exact commits_iff hexecutionId hserves

/-! ## One task, with correlation ids of several lengths -/

def requestTexts (correlationId : String) : EnvelopeTexts :=
  ⟨"00000000-0000-4000-8000-000000000000", "incident.processing.requested", "2026-01-01T00:00:00Z",
    "p", correlationId, "k"⟩

def requestMembers (correlationId : String) : List (String × Json) :=
  [("task_id", .string (requestTexts correlationId).taskId), ("kind", .string "task"),
    ("task_type", .string (requestTexts correlationId).taskType), ("schema_version", .string "1.0"),
    ("created_at", .string (requestTexts correlationId).createdAt),
    ("producer", .string (requestTexts correlationId).producer),
    ("correlation_id", .string correlationId),
    ("idempotency_key", .string (requestTexts correlationId).idempotencyKey),
    ("payload", .object [("incident_id", .string (Uuid.str 0))])]

theorem requestTexts_lengths : (3 ≤ (requestTexts "").taskType.length ∧
      (requestTexts "").taskType.length ≤ 120) ∧
    (1 ≤ (requestTexts "").producer.length ∧ (requestTexts "").producer.length ≤ 100) ∧
    (1 ≤ (requestTexts "").idempotencyKey.length ∧
      (requestTexts "").idempotencyKey.length ≤ 255) := by
  decide

theorem requestTexts_named : (requestTexts "").Named := by
  have htaskType := taskTypePattern_rmatch 'i' "ncident".toList
    [('p', "rocessing".toList), ('r', "equested".toList)] (List.cons_ne_nil _ _) (by decide)
    (by decide) (by decide)
  exact ⟨Patterns.pythonSearch_of_ecmaTest htaskType, by decide, by decide⟩

theorem requestMembers_read {correlationId : String} (h : 1 ≤ correlationId.length) :
    (requestTexts correlationId).Read (requestMembers correlationId) where
  taskId := rfl
  kind := rfl
  taskType := rfl
  taskTypeLength := requestTexts_lengths.1
  schemaVersion := rfl
  createdAt := rfl
  producer := rfl
  producerLength := requestTexts_lengths.2.1
  correlationId := rfl
  correlationIdLength := h
  causationId := fun _ h => by contradiction
  idempotencyKey := rfl
  idempotencyKeyLength := requestTexts_lengths.2.2
  payload := ⟨_, rfl⟩
  metadata := fun _ h => by contradiction
  closed := by simp [requestMembers, envelopeKeys]

theorem requestMembers_accepted {correlationId : String} (h : 1 ≤ correlationId.length) :
    TaskWorker.validateTaskEnvelope (.object (requestMembers correlationId)) =
      .ok (.object (requestMembers correlationId)) := by
  have hnamed : (requestTexts correlationId).Named := requestTexts_named
  have hplain : rfcFormat .uuid (requestTexts "").taskId = true := by decide
  have hid : jsonschemaFormat .uuid (requestTexts correlationId).taskId = true :=
    jsonschemaFormat_of_rfcFormat hplain
  have hchecked : (requestTexts correlationId).Checked jsonschema :=
    EnvelopeTexts.checked_jsonschema.mpr ⟨hid, hnamed⟩
  exact TaskWorker.validateTaskEnvelope_eq_ok.mpr
    ⟨taskEnvelopeSchema_iff.mpr ⟨_, _, rfl, requestMembers_read h, hchecked⟩, rfl⟩

def requestTask (correlationId : String) : Execution.Task where
  taskId := (requestTexts correlationId).taskId
  taskType := (requestTexts correlationId).taskType
  schemaVersion := "1.0"
  producer := (requestTexts correlationId).producer
  idempotencyKey := (requestTexts correlationId).idempotencyKey
  correlationId := correlationId
  payload := .object [("incident_id", .string (Uuid.str 0))]
  createdAt := (requestTexts correlationId).createdAt
  causationId := none
  taskMetadata := none

def requestItem (correlationId : String) : Item :=
  Execution.acceptedItem (requestTask correlationId) (Uuid.str 0) "2026-01-01T00:00:01+00:00" 60

open OpsFlow.Execution in
theorem requestMembers_stored (correlationId : String) :
    handleIncidentProcessingRequested (fun _ => none) (requestMembers correlationId)
      "2026-01-01T00:00:01+00:00" 60 = .ok (Function.update (fun _ => none)
        (requestTask correlationId).taskId (some (requestItem correlationId))) :=
  handleIncidentProcessingRequested_new (incidentIdFromTask_str rfl rfl) rfl rfl

def requestClaim : ClaimDraw := ⟨60, 0, "2026-01-01T00:00:02+00:00", "token"⟩

open OpsFlow.Execution in
theorem requestMembers_claimed (correlationId : String) : ∃ table,
    Execution.claim (afterCalls (Function.update (fun _ => none) (requestTask correlationId).taskId
      (some (requestItem correlationId))) []) (requestTask correlationId).taskId requestClaim =
        some (claimed requestClaim (requestItem correlationId), table) :=
  ⟨_, claim_eq_some.mpr ⟨requestItem correlationId, by simp [afterCalls], rfl, rfl, rfl⟩⟩

def requestIncident : Incident where
  id := 0
  title := "t"
  serviceId := 0
  severity := .sev1
  status := .opened
  summary := "s"
  assignee := "a"
  startedAt := 0
  resolvedAt := none
  createdAt := 0
  updatedAt := 0
  source := "manual"
  customerImpacting := false
  acknowledgedAt := none
  reportedByEmail := none

def requestDraw : ProcessDraw := ⟨0, 0, 0, 1, 2⟩

def requestPostgres : Postgres := ⟨[requestIncident], []⟩

theorem requestPostgres_serves {execution : IncidentTaskExecution} (h : execution.incidentId = 0)
    (taskId : Uuid) : requestPostgres.Serves execution taskId requestDraw where
  incident := ⟨requestIncident, by rw [h]; rfl⟩
  own := fun _ hrow => by contradiction
  fresh := fun _ hrow => by contradiction

/-- The reconciler reads the claimed record. -/
theorem requestItem_toDomain (correlationId : String) : ∃ execution,
    Execution.toDomain (Execution.claimed requestClaim (requestItem correlationId)) =
      some execution ∧ execution.incidentId = 0 ∧ execution.correlationId = correlationId := by
  unfold Execution.toDomain requestItem Execution.acceptedItem Execution.claimed
  rw [parse?_str]
  exact ⟨_, rfl, rfl, rfl⟩

theorem requested_commits : ∃ execution, Execution.toDomain
      (Execution.claimed requestClaim (requestItem "c")) = some execution ∧
    Commits requestPostgres execution requestDraw := by
  obtain ⟨table, hclaim⟩ := requestMembers_claimed "c"
  obtain ⟨correlationId, execution, id, hcorrelation, hexecution, hid, hcommits⟩ :=
    accepted_commits_iff (requestMembers_accepted (by decide)) (requestMembers_stored "c") rfl
      hclaim
  obtain ⟨execution', hexecution', hincident, -⟩ := requestItem_toDomain "c"
  obtain rfl := Option.some.inj (hexecution.symm.trans hexecution')
  obtain rfl := Option.some.inj hcorrelation
  exact ⟨execution, hexecution, (hcommits _ _ (requestPostgres_serves hincident id)).mpr
    ⟨by decide, .inl (by decide)⟩⟩

def longCorrelationId : String := String.ofList (List.replicate 129 'c')

theorem toList_longCorrelationId : longCorrelationId.toList = List.replicate 129 'c' :=
  String.toList_ofList

open OpsFlow.Execution in
/-- The schema has no bound on a correlation id, and the column has one. -/
theorem accepted_not_committed : ¬ ∀ (members : List (String × Json))
    (table table₁ table₂ : Execution.Table) (acceptedAt : String) (expiration : ℤ)
    (taskId : String) (draw : ClaimDraw) (item : Item),
    TaskWorker.validateTaskEnvelope (.object members) = .ok (.object members) →
    text? members "task_type" = some "incident.processing.requested" →
    handleIncidentProcessingRequested table members acceptedAt expiration = .ok table₁ →
    text? members "task_id" = some taskId →
    Execution.claim table₁ taskId draw = some (item, table₂) →
    ∃ execution id, toDomain item = some execution ∧ Uuid.parse? execution.taskId = some id ∧
      ∀ (db : Postgres) (draw : ProcessDraw), db.Serves execution id draw →
        Commits db execution draw := by
  intro h
  have hlength : longCorrelationId.length = 129 := by
    rw [← String.length_toList, toList_longCorrelationId, List.length_replicate]
  obtain ⟨table, hclaim⟩ := requestMembers_claimed longCorrelationId
  obtain ⟨execution, id, hexecution, hid, hcommits⟩ := h _ _ _ _ _ _ _ _ _
    (requestMembers_accepted (by omega)) rfl (requestMembers_stored longCorrelationId) rfl hclaim
  obtain ⟨execution', hexecution', hincident, hcorrelation⟩ :=
    requestItem_toDomain longCorrelationId
  obtain rfl := Option.some.inj (hexecution.symm.trans hexecution')
  have hserves := requestPostgres_serves hincident id
  obtain ⟨-, hshort | ⟨hspaces, -⟩⟩ := (commits_iff hid hserves).mp (hcommits _ _ hserves)
  · rw [hcorrelation] at hshort
    omega
  · rw [hcorrelation, toList_longCorrelationId, List.drop_replicate] at hspaces
    exact absurd (hspaces 'c' (by simp)) (by decide)

end OpsFlow.Incidents
