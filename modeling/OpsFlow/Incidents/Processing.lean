import OpsFlow.Execution.Intake
import OpsFlow.Incidents.Completion
import OpsFlow.Incidents.Services

namespace OpsFlow.Incidents
open OpsFlow.Execution (IncidentTaskExecution)

/-! ## The columns of the completion outbox -/

def CompletionRow.stored (row : CompletionRow) : Option CompletionRow := do
  let correlationId ← varchar 128 row.message.correlationId
  let schemaVersion ← varchar 16 row.message.schemaVersion
  let eventType ← varchar 120 row.message.eventType
  let _ ← varchar 32 row.message.status.value
  let publicationStatus ← varchar 24 row.publicationStatus
  some { row with
    message := { row.message with
      correlationId := correlationId
      schemaVersion := schemaVersion
      eventType := eventType }
    publicationStatus := publicationStatus }

/-! ## `process_incident_with_postgres`, with the databases to itself -/

structure Postgres where
  incidents : Rows
  outbox : List CompletionRow

/-- The insert of `create`, which does nothing where the task has a row, and what `create` returns
with the outbox after it. -/
def createCompletion (outbox : List CompletionRow) (message : CompletionMessage) :
    Except ProcessorError (CompletionMessage × List CompletionRow) :=
  match (CompletionRow.new message).stored with
  | none => .error databaseError
  | some row =>
    match outbox.find? fun row => row.message.taskId = message.taskId with
    | some existing =>
      if existing.message.incidentId ≠ message.incidentId ∨
          existing.message.correlationId ≠ message.correlationId then
        .error (.other ("Existing completion outbox task identity does not match the incoming " ++
          "Incident completion event."))
      else .ok (existing.message, outbox)
    | none =>
      if outbox.any fun row => row.message.id = message.id ∨ row.message.eventId = message.eventId
      then .error databaseError
      else .ok (message, outbox ++ [row])

structure ProcessDraw where
  acknowledgedNow : Timestamp
  updatedNow : Timestamp
  occurredAt : Timestamp
  id : Uuid
  eventId : Uuid

/-- What the call returns or raises, and what it has committed. -/
def processIncidentWithPostgres (db : Postgres) (execution : IncidentTaskExecution)
    (draw : ProcessDraw) : Except ProcessorError IncidentProcessingResult × Postgres :=
  match Uuid.parse? execution.taskId with
  | none => (.error (.other "badly formed hexadecimal UUID string"), db)
  | some taskId =>
    match Repository.getById db.incidents execution.incidentId with
    | none =>
      (.error (.incidentNotFound (IncidentNotFoundError.of execution.incidentId).message), db)
    | some existing =>
      let updated := Pass.process.compute existing draw.acknowledgedNow draw.updatedNow
      let effect : Effect := ⟨existing, updated⟩
      let message := completionMessage ⟨execution, taskId⟩ effect.result draw.id draw.eventId
        draw.occurredAt
      match createCompletion db.outbox message with
      | .error e => (.error e, db)
      | .ok (_, outbox) => (.ok effect.result,
          { incidents := updated.elim db.incidents (Repository.replace db.incidents)
            outbox := outbox })

/-! ## What the columns take -/

/-- The text has at most `n` characters, not counting spaces beyond these. -/
def FitsColumn (n : ℕ) (s : String) : Prop :=
  '\x00' ∉ s.toList ∧ (s.length ≤ n ∨ ∀ c ∈ s.toList.drop n, c = ' ')

variable {n : ℕ} {s : String}

theorem varchar_of_spaces (hzero : '\x00' ∉ s.toList) (h : ¬ s.length ≤ n)
    (hspaces : ∀ c ∈ s.toList.drop n, c = ' ') :
    varchar n s = some (String.ofList (s.toList.take n)) := by
  unfold varchar
  rw [if_neg hzero, if_neg h,
    if_pos (List.all_eq_true.mpr fun c hc => decide_eq_true (hspaces c hc))]

theorem varchar_eq_none (h : ¬ FitsColumn n s) : varchar n s = none := by
  unfold varchar
  split
  · rfl
  · rename_i hzero
    have hfits : ¬ (s.length ≤ n ∨ ∀ c ∈ s.toList.drop n, c = ' ') := fun hor => h ⟨hzero, hor⟩
    rw [not_or] at hfits
    have hall : ¬ (s.toList.drop n).all (· = ' ') = true := fun hall =>
      hfits.2 fun c hc => of_decide_eq_true (List.all_eq_true.mp hall c hc)
    rw [if_neg hfits.1, if_neg hall]

/-- A text that was cut off is not the text itself. -/
theorem take_ne (h : ¬ s.length ≤ n) : String.ofList (s.toList.take n) ≠ s := by
  intro heq
  have hlength := congrArg (fun t : String => t.toList.length) heq
  rw [String.toList_ofList, List.length_take, String.length_toList] at hlength
  omega

theorem stored_eq_none (message : CompletionMessage)
    (h : varchar 128 message.correlationId = none) : (CompletionRow.new message).stored = none := by
  unfold CompletionRow.stored CompletionRow.new
  simp [h]

/-- The other columns take what a completion message has in them. -/
theorem stored_completionMessage (job : Job) (result : IncidentProcessingResult)
    (id eventId : Uuid) (occurredAt : Timestamp) {correlationId : String}
    (h : varchar 128 job.execution.correlationId = some correlationId) :
    ∃ row, (CompletionRow.new (completionMessage job result id eventId occurredAt)).stored =
      some row ∧ row.message.taskId = job.taskId ∧ row.message.incidentId = result.incidentId := by
  have hstatus : ∀ status : IncidentStatus, varchar 32 status.value = some status.value := by
    intro status
    cases status with
    | opened => rfl
    | investigating => rfl
    | monitoring => rfl
    | resolved => rfl
  have hversion : varchar 16 "1.0" = some "1.0" := rfl
  have hevent : varchar 120 "incident.task.completed" = some "incident.task.completed" := rfl
  have hpending : varchar 24 "PENDING" = some "PENDING" := rfl
  unfold CompletionRow.stored CompletionRow.new completionMessage
  simp [h, hstatus, hversion, hevent, hpending]

/-! ## The three ends of an insert -/

variable {outbox : List CompletionRow} {message : CompletionMessage} {row : CompletionRow}

theorem createCompletion_rejected (outbox : List CompletionRow)
    (h : (CompletionRow.new message).stored = none) :
    createCompletion outbox message = .error databaseError := by
  unfold createCompletion
  rw [h]

theorem createCompletion_new (h : (CompletionRow.new message).stored = some row)
    (hnone : ∀ r ∈ outbox, r.message.taskId ≠ message.taskId)
    (hfresh : ∀ r ∈ outbox, r.message.id ≠ message.id ∧ r.message.eventId ≠ message.eventId) :
    createCompletion outbox message = .ok (message, outbox ++ [row]) := by
  have hfind : outbox.find? (fun r => r.message.taskId = message.taskId) = none := by
    simpa using hnone
  have hany : ¬ (outbox.any fun r =>
      r.message.id = message.id ∨ r.message.eventId = message.eventId) = true := by
    rw [List.any_eq_true]
    rintro ⟨r, hr, hsame⟩
    obtain hid | heventId := of_decide_eq_true hsame
    · exact (hfresh r hr).1 hid
    · exact (hfresh r hr).2 heventId
  unfold createCompletion
  rw [h, hfind]
  exact if_neg hany

/-- Where the task has rows of one identity, the insert hands it back or finds it to be another. -/
theorem createCompletion_existing (h : (CompletionRow.new message).stored = some row)
    (hexists : ∃ r ∈ outbox, r.message.taskId = message.taskId) {incidentId : Uuid}
    {correlationId : String}
    (hown : ∀ r ∈ outbox, r.message.taskId = message.taskId →
      r.message.incidentId = incidentId ∧ r.message.correlationId = correlationId) :
    ∃ existing ∈ outbox, existing.message.taskId = message.taskId ∧
      createCompletion outbox message =
        if incidentId ≠ message.incidentId ∨ correlationId ≠ message.correlationId then
          .error (.other ("Existing completion outbox task identity does not match the incoming " ++
            "Incident completion event."))
        else .ok (existing.message, outbox) := by
  obtain ⟨existing, hfind⟩ : ∃ existing,
      outbox.find? (fun r => r.message.taskId = message.taskId) = some existing := by
    obtain ⟨r, hr, htask⟩ := hexists
    exact Option.isSome_iff_exists.mp (List.find?_isSome.mpr ⟨r, hr, decide_eq_true htask⟩)
  have hmem := List.mem_of_find?_eq_some hfind
  have htask : existing.message.taskId = message.taskId := by simpa using List.find?_some hfind
  obtain ⟨rfl, rfl⟩ := hown existing hmem htask
  refine ⟨existing, hmem, htask, ?_⟩
  unfold createCompletion
  rw [h, hfind]

end OpsFlow.Incidents
