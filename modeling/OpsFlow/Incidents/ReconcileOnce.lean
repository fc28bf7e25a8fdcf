import OpsFlow.Incidents.Processing
import OpsFlow.Execution.Lease

namespace OpsFlow.Incidents
open OpsFlow.Execution (IncidentTaskExecution ClaimDraw)

/-! ## `process_incident_with_postgres`, whatever PostgreSQL answers -/

/-- What PostgreSQL answers to the statements of a call; where there is no answer, SQLAlchemy has
raised an error of its own. -/
structure PostgresAnswers where
  getById : Option (Option Incident)
  findModel : Option (Option Incident)
  flush : Option Unit
  insert : Option Bool
  existing : Option (Option CompletionMessage)
  commit : Option Unit
  rollback : Option Unit

namespace PostgresAnswers

variable {answers : PostgresAnswers} {draw : ProcessDraw} {execution : IncidentTaskExecution}

def process (answers : PostgresAnswers) (draw : ProcessDraw) (incidentId : Uuid) :
    Except ProcessorError IncidentProcessingResult :=
  match answers.getById with
  | none => .error databaseError
  | some none => .error (.incidentNotFound (IncidentNotFoundError.of incidentId).message)
  | some (some existing) =>
    if processingChanges existing draw.acknowledgedNow then
      let updated := processedIncident existing draw.acknowledgedNow draw.updatedNow
      match answers.findModel, answers.flush with
      | some none, _ => .error (.other ("Incident " ++ updated.id.str ++ " does not exist."))
      | some (some _), some () => .ok (persistedResult updated)
      | _, _ => .error databaseError
    else .ok (unchangedResult existing)

def create (answers : PostgresAnswers) (message : CompletionMessage) :
    Except ProcessorError CompletionMessage :=
  match answers.insert with
  | none => .error databaseError
  | some true => .ok message
  | some false =>
    match answers.existing with
    | none => .error databaseError
    | some none => .error (.other
        "Completion outbox conflict was reported but the existing task row could not be loaded.")
    | some (some existing) =>
      if existing.incidentId ≠ message.incidentId ∨
          existing.correlationId ≠ message.correlationId then
        .error (.other ("Existing completion outbox task identity does not match the incoming " ++
          "Incident completion event."))
      else .ok existing

/-- What stands under `try`. -/
def attempt (answers : PostgresAnswers) (draw : ProcessDraw)
    (execution : IncidentTaskExecution) : Except ProcessorError IncidentProcessingResult :=
  match Uuid.parse? execution.taskId with
  | none => .error (.other "badly formed hexadecimal UUID string")
  | some taskId =>
    match answers.process draw execution.incidentId with
    | .error e => .error e
    | .ok result =>
      match answers.create (completionMessage ⟨execution, taskId⟩ result draw.id draw.eventId
          draw.occurredAt) with
      | .error e => .error e
      | .ok _ =>
        match answers.commit with
        | none => .error databaseError
        | some () => .ok result

/-- Both `except` clauses roll back before they raise, and what the rollback raises is
not mapped. -/
def processIncident (answers : PostgresAnswers) (draw : ProcessDraw)
    (execution : IncidentTaskExecution) : Except ProcessorError IncidentProcessingResult :=
  match answers.attempt draw execution with
  | .ok result => .ok result
  | .error (.other message) => .error (.other message)
  | .error e =>
    match answers.rollback with
    | some () => .error e
    | none => .error (.other "(psycopg.OperationalError) the connection is lost")

def Processes (answers : PostgresAnswers) (draw : ProcessDraw) (existing : Incident) : Prop :=
  answers.getById = some (some existing) ∧
    (processingChanges existing draw.acknowledgedNow = true →
      (∃ model, answers.findModel = some (some model)) ∧ answers.flush = some ())

def Completes (answers : PostgresAnswers) (draw : ProcessDraw) (execution : IncidentTaskExecution) :
    Prop :=
  (∃ existing, answers.Processes draw existing ∧ (answers.insert = some true ∨
    answers.insert = some false ∧ ∃ row, answers.existing = some (some row) ∧
      row.incidentId = existing.id ∧ row.correlationId = execution.correlationId)) ∧
  answers.commit = some ()

/-- The answers that end a call with an exception that `_reconcile_claimed` does not expect: the
task id is no UUID, the incident is gone between the read and the update, the task has a row in the
outbox that cannot be loaded or is about something else, or something fails and the rollback then
fails too. -/
def Unmapped (answers : PostgresAnswers) (draw : ProcessDraw) (execution : IncidentTaskExecution) :
    Prop :=
  Uuid.parse? execution.taskId = none ∨
  (∃ existing, answers.getById = some (some existing) ∧
    processingChanges existing draw.acknowledgedNow = true ∧ answers.findModel = some none) ∨
  (∃ existing, answers.Processes draw existing ∧ answers.insert = some false ∧
    (answers.existing = some none ∨ ∃ row, answers.existing = some (some row) ∧
      (row.incidentId ≠ existing.id ∨ row.correlationId ≠ execution.correlationId))) ∨
  (answers.rollback = none ∧ ¬ answers.Completes draw execution)

theorem process_eq_ok {incidentId : Uuid} {result : IncidentProcessingResult}
    (h : answers.process draw incidentId = .ok result) :
    ∃ existing, answers.Processes draw existing ∧ result.incidentId = existing.id := by
  unfold process at h
  split at h
  · cases h
  · cases h
  · rename_i existing hread
    split_ifs at h with hchanges
    · dsimp only at h
      split at h
      · cases h
      · rename_i model hmodel hflush
        cases h
        exact ⟨existing, ⟨hread, fun _ => ⟨⟨model, hmodel⟩, hflush⟩⟩, rfl⟩
      · cases h
    · cases h
      exact ⟨existing, ⟨hread, fun hc => absurd hc hchanges⟩, rfl⟩

theorem process_of_processes {existing : Incident} (h : answers.Processes draw existing)
    (incidentId : Uuid) : ∃ result, answers.process draw incidentId = .ok result ∧
      result.incidentId = existing.id := by
  obtain ⟨hread, hchange⟩ := h
  unfold process
  rw [hread]
  dsimp only
  by_cases hchanges : processingChanges existing draw.acknowledgedNow = true
  · obtain ⟨⟨model, hmodel⟩, hflush⟩ := hchange hchanges
    rw [if_pos hchanges, hmodel, hflush]
    exact ⟨_, rfl, rfl⟩
  · rw [if_neg hchanges]
    exact ⟨_, rfl, rfl⟩

theorem process_other_iff {incidentId : Uuid} :
    (∃ message, answers.process draw incidentId = .error (.other message)) ↔
      ∃ existing, answers.getById = some (some existing) ∧
        processingChanges existing draw.acknowledgedNow = true ∧ answers.findModel = some none := by
  constructor
  · rintro ⟨message, h⟩
    unfold process at h
    split at h
    · cases h
    · cases h
    · rename_i existing hread
      split_ifs at h with hchanges
      · dsimp only at h
        split at h
        · rename_i hmodel
          exact ⟨existing, hread, hchanges, hmodel⟩
        · cases h
        · cases h
  · rintro ⟨existing, hread, hchanges, hmodel⟩
    unfold process
    rw [hread]
    dsimp only
    rw [if_pos hchanges, hmodel]
    exact ⟨_, rfl⟩

theorem create_other_iff {message : CompletionMessage} :
    (∃ text, answers.create message = .error (.other text)) ↔ answers.insert = some false ∧
      (answers.existing = some none ∨ ∃ row, answers.existing = some (some row) ∧
        (row.incidentId ≠ message.incidentId ∨ row.correlationId ≠ message.correlationId)) := by
  unfold create
  constructor
  · rintro ⟨text, h⟩
    split at h
    · cases h
    · cases h
    · rename_i hinsert
      split at h
      · cases h
      · rename_i hmissing
        exact ⟨hinsert, .inl hmissing⟩
      · rename_i row hrow
        split_ifs at h with hdiffers
        exact ⟨hinsert, .inr ⟨row, hrow, hdiffers⟩⟩
  · rintro ⟨hinsert, hmissing | ⟨row, hrow, hdiffers⟩⟩
    · rw [hinsert, hmissing]
      exact ⟨_, rfl⟩
    · rw [hinsert, hrow]
      dsimp only
      rw [if_pos hdiffers]
      exact ⟨_, rfl⟩

theorem create_ok_iff {message : CompletionMessage} :
    (∃ row, answers.create message = .ok row) ↔ answers.insert = some true ∨
      answers.insert = some false ∧ ∃ row, answers.existing = some (some row) ∧
        row.incidentId = message.incidentId ∧ row.correlationId = message.correlationId := by
  unfold create
  constructor
  · rintro ⟨row, h⟩
    split at h
    · cases h
    · rename_i hinsert
      exact .inl hinsert
    · rename_i hinsert
      split at h
      · cases h
      · cases h
      · rename_i existing hexisting
        split_ifs at h with hdiffers
        rw [not_or, not_not, not_not] at hdiffers
        exact .inr ⟨hinsert, existing, hexisting, hdiffers⟩
  · rintro (hinsert | ⟨hinsert, row, hrow, hsame⟩)
    · rw [hinsert]
      exact ⟨_, rfl⟩
    · rw [hinsert, hrow]
      dsimp only
      rw [if_neg (by rw [not_or, not_not, not_not]; exact hsame)]
      exact ⟨_, rfl⟩

variable {taskId : Uuid}

theorem attempt_ok_iff (htask : Uuid.parse? execution.taskId = some taskId) :
    (∃ result, answers.attempt draw execution = .ok result) ↔ answers.Completes draw execution := by
  unfold attempt
  rw [htask]
  dsimp only
  constructor
  · rintro ⟨result, h⟩
    split at h
    · cases h
    · rename_i processed hprocess
      obtain ⟨existing, hprocesses, hid⟩ := process_eq_ok hprocess
      split at h
      · cases h
      · rename_i row hcreate
        have hinserted := create_ok_iff.mp ⟨row, hcreate⟩
        split at h
        · cases h
        · rename_i hcommit
          refine ⟨⟨existing, hprocesses, ?_⟩, hcommit⟩
          rw [← hid]
          exact hinserted
  · rintro ⟨⟨existing, hprocesses, hinserted⟩, hcommit⟩
    obtain ⟨result, hprocess, hid⟩ := process_of_processes hprocesses execution.incidentId
    rw [hprocess]
    dsimp only
    rw [← hid] at hinserted
    obtain ⟨row, hcreate⟩ := (@create_ok_iff answers (completionMessage ⟨execution, taskId⟩ result
      draw.id draw.eventId draw.occurredAt)).mpr hinserted
    rw [hcreate, hcommit]
    exact ⟨_, rfl⟩

theorem attempt_other_iff (htask : Uuid.parse? execution.taskId = some taskId) :
    (∃ message, answers.attempt draw execution = .error (.other message)) ↔
      (∃ existing, answers.getById = some (some existing) ∧
        processingChanges existing draw.acknowledgedNow = true ∧ answers.findModel = some none) ∨
      ∃ existing, answers.Processes draw existing ∧ answers.insert = some false ∧
        (answers.existing = some none ∨ ∃ row, answers.existing = some (some row) ∧
          (row.incidentId ≠ existing.id ∨ row.correlationId ≠ execution.correlationId)) := by
  unfold attempt
  rw [htask]
  dsimp only
  have hother := @process_other_iff answers draw execution.incidentId
  cases hprocess : answers.process draw execution.incidentId with
  | error e =>
    -- processing has not ended, so that the outbox is not asked
    have hnot : ∀ existing, ¬ answers.Processes draw existing := by
      intro existing h
      obtain ⟨result, hok, -⟩ := process_of_processes h execution.incidentId
      cases hprocess.symm.trans hok
    rw [hprocess] at hother
    simp only [hnot, false_and, exists_false, or_false]
    exact hother
  | ok result =>
    rw [hprocess] at hother
    simp only [reduceCtorEq, exists_false, false_iff] at hother
    obtain ⟨existing, hprocesses, hid⟩ := process_eq_ok hprocess
    have hunique : ∀ other, answers.Processes draw other → other = existing := fun other h =>
      Option.some.inj (Option.some.inj (h.1.symm.trans hprocesses.1))
    have hcreate := @create_other_iff answers
      (completionMessage ⟨execution, taskId⟩ result draw.id draw.eventId draw.occurredAt)
    have hmessage : (completionMessage ⟨execution, taskId⟩ result draw.id draw.eventId
        draw.occurredAt).incidentId = existing.id := hid
    rw [hmessage] at hcreate
    dsimp only
    constructor
    · rintro ⟨message, h⟩
      refine .inr ⟨existing, hprocesses, hcreate.mp ⟨message, ?_⟩⟩
      split at h
      · rename_i e he
        cases h
        exact he
      · split at h <;> cases h
    · rintro (h | ⟨other, h, hrest⟩)
      · exact absurd h hother
      · obtain rfl := hunique other h
        obtain ⟨message, hmessage⟩ := hcreate.mpr hrest
        exact ⟨message, by rw [hmessage]⟩

/-- An exception is not mapped if the attempt ends in it, or if the rollback after an attempt that
has failed does. -/
theorem processIncident_other_iff_attempt :
    (∃ message, answers.processIncident draw execution = .error (.other message)) ↔
      (∃ message, answers.attempt draw execution = .error (.other message)) ∨
        (answers.rollback = none ∧ ¬ ∃ result, answers.attempt draw execution = .ok result) := by
  unfold processIncident
  cases answers.attempt draw execution with
  | ok result => simp
  | error e =>
    cases e with
    | other message => simp
    | incidentNotFound message => cases answers.rollback <;> simp
    | retryable message => cases answers.rollback <;> simp

/-- The exceptions that leave a call unmapped are those of the unmapped answers. -/
theorem processIncident_other_iff :
    (∃ message, answers.processIncident draw execution = .error (.other message)) ↔
      answers.Unmapped draw execution := by
  rw [processIncident_other_iff_attempt, Unmapped]
  cases htask : Uuid.parse? execution.taskId with
  | none =>
    refine iff_of_true (.inl ⟨"badly formed hexadecimal UUID string", ?_⟩) (.inl rfl)
    rw [attempt, htask]
  | some taskId =>
    rw [attempt_other_iff htask, attempt_ok_iff htask]
    simp only [reduceCtorEq, false_or, or_assoc]

theorem processIncident_of_rollback (h : answers.rollback = some ()) :
    answers.processIncident draw execution = answers.attempt draw execution := by
  unfold processIncident
  rw [h]
  cases answers.attempt draw execution with
  | ok result => rfl
  | error e => cases e <;> rfl

/-- Where the incident is found and written back, processing ends with the effect's result. -/
theorem process_effect (existing : Incident) (answers : PostgresAnswers)
    (hread : answers.getById = some (some existing))
    (hmodel : answers.findModel = some (some existing))
    (hflush : answers.flush = some ()) (incidentId : Uuid) :
    answers.process draw incidentId = .ok (Effect.result
      ⟨existing, Pass.process.compute existing draw.acknowledgedNow draw.updatedNow⟩) := by
  unfold process Pass.compute
  rw [hread, hmodel, hflush]
  dsimp only
  by_cases hchanges : processingChanges existing draw.acknowledgedNow = true
  · rw [if_pos hchanges, if_pos hchanges]
    rfl
  · rw [if_neg hchanges, if_neg hchanges]
    rfl

/-- Whatever `create` ends with on an outbox of its own, there are answers that make it end so. -/
theorem exists_create (outbox : List CompletionRow) (message : CompletionMessage) :
    ∃ insert existing, ∀ answers : PostgresAnswers, answers.insert = insert →
      answers.existing = existing →
      answers.create message = (createCompletion outbox message).map Prod.fst := by
  unfold createCompletion
  cases (CompletionRow.new message).stored with
  | none =>
    refine ⟨none, none, fun answers hinsert _ => ?_⟩
    rw [create, hinsert]
    rfl
  | some row =>
    dsimp only
    cases outbox.find? fun row => row.message.taskId = message.taskId with
    | some existing =>
      refine ⟨some false, some (some existing.message), fun answers hinsert hexisting => ?_⟩
      rw [create, hinsert, hexisting]
      dsimp only
      split_ifs <;> rfl
    | none =>
      dsimp only
      split_ifs
      · refine ⟨none, none, fun answers hinsert _ => ?_⟩
        rw [create, hinsert]
        rfl
      · refine ⟨some true, none, fun answers hinsert _ => ?_⟩
        rw [create, hinsert]
        rfl

/-- With the databases to itself a call gets answers too, and ends as these make it end. -/
theorem exists_processIncident (db : Postgres) : ∃ answers : PostgresAnswers,
    (processIncidentWithPostgres db execution draw).1 = answers.processIncident draw execution := by
  unfold processIncidentWithPostgres
  cases htask : Uuid.parse? execution.taskId with
  | none =>
    refine ⟨⟨none, none, none, none, none, none, some ()⟩, ?_⟩
    rw [processIncident_of_rollback rfl, attempt, htask]
  | some taskId =>
    cases hread : Repository.getById db.incidents execution.incidentId with
    | none =>
      refine ⟨⟨some none, none, none, none, none, none, some ()⟩, ?_⟩
      rw [processIncident_of_rollback rfl, attempt, htask]
      rfl
    | some found =>
      dsimp only
      obtain ⟨insert, existing, hcreate⟩ := exists_create db.outbox (completionMessage
        ⟨execution, taskId⟩ (Effect.result
          ⟨found, Pass.process.compute found draw.acknowledgedNow draw.updatedNow⟩) draw.id
        draw.eventId draw.occurredAt)
      let answers : PostgresAnswers :=
        ⟨some (some found), some (some found), some (), insert, existing, some (), some ()⟩
      refine ⟨answers, ?_⟩
      rw [processIncident_of_rollback rfl, attempt, htask]
      dsimp only
      rw [process_effect found answers rfl rfl rfl]
      dsimp only
      rw [hcreate answers rfl rfl]
      cases createCompletion db.outbox _ with
      | error e => rfl
      | ok created => rfl

end PostgresAnswers

/-! ## `reconcile_once` -/

inductive ReconciliationOutcome
  | succeeded
  | retryableFailure
  | permanentFailure

structure ReconciliationSummary where
  discovered : ℕ
  claimed : ℕ
  succeeded : ℕ
  retryableFailures : ℕ
  permanentFailures : ℕ
  skipped : ℕ

/-- What somebody else does to the table: a call of a worker or of another reconciler, or the
deletion of a record whose time to live is over. -/
inductive Other
  | call (call : Execution.Call)
  | expire (taskId : String)

def Other.perform (table : Execution.Table) : Other → Execution.Table
  | call c => (c.perform table).1
  | expire taskId => Function.update table taskId none

def performAll (table : Execution.Table) (others : List Other) : Execution.Table :=
  others.foldl Other.perform table

def Other.drawn : Other → Option String
  | call (.claim _ draw) => some draw.reconciliationToken
  | _ => none

/-- What a candidate of the batch meets. A call of `claim` or of a mark that has no reading of its
clock is one that DynamoDB answers with an error. -/
structure Turn where
  beforeClaim : List Other
  claim : Option ClaimDraw
  answers : PostgresAnswers
  draw : ProcessDraw
  beforeMark : List Other
  mark : Option String

/-- A candidate that has been claimed, and whether the call that marks it has failed. -/
structure Claimed where
  taskId : String
  token : String
  markFailed : Bool

inductive TurnEnd
  | raised (message : String)
  | skipped
  | reconciled (outcome : ReconciliationOutcome)

def reconcileClaimed (table : Execution.Table) (execution : IncidentTaskExecution) (turn : Turn) :
    TurnEnd × Execution.Table :=
  let outcome := turn.answers.processIncident turn.draw execution
  let table' := performAll table turn.beforeMark
  let after := turn.mark.elim table' fun now => marked table' execution now outcome
  match outcome with
  | .error (.other message) => (.raised message, table)
  | .error (.incidentNotFound _) => (.reconciled .permanentFailure, after)
  | .error (.retryable _) => (.reconciled .retryableFailure, after)
  | .ok result =>
    -- a result that is not recorded counts as a failure to be retried
    match turn.mark.map (Execution.markSucceeded table' execution (succeededResult result)) with
    | some (.ok _) => (.reconciled .succeeded, after)
    | _ => (.reconciled .retryableFailure, after)

/-- The body of the loop: how the turn ends, what has been claimed, and the table after it. -/
def takeTurn (table : Execution.Table) (candidate : IncidentTaskExecution) (turn : Turn) :
    TurnEnd × Option Claimed × Execution.Table :=
  let table := performAll table turn.beforeClaim
  match turn.claim with
  | none => (.raised "claim", none, table)
  | some draw =>
    match Execution.claim table candidate.taskId draw with
    | none => (.skipped, none, table)
    | some (item, table) =>
      let claimed : Claimed := ⟨candidate.taskId, draw.reconciliationToken, turn.mark.isNone⟩
      match Execution.toDomain item with
      | none => (.raised "badly formed hexadecimal UUID string", some claimed, table)
      | some execution =>
        let (ending, table) := reconcileClaimed table execution turn
        (ending, some claimed, table)

def ReconciliationSummary.count (summary : ReconciliationSummary) : TurnEnd → ReconciliationSummary
  | .raised _ => summary
  | .skipped => { summary with skipped := summary.skipped + 1 }
  | .reconciled .succeeded =>
    { summary with claimed := summary.claimed + 1, succeeded := summary.succeeded + 1 }
  | .reconciled .retryableFailure =>
    { summary with
      claimed := summary.claimed + 1
      retryableFailures := summary.retryableFailures + 1 }
  | .reconciled .permanentFailure =>
    { summary with
      claimed := summary.claimed + 1
      permanentFailures := summary.permanentFailures + 1 }

/-- A call of `reconcile_once`: what it returns or raises, the candidates it has tried to claim,
those it has claimed, and the table it leaves. -/
structure BatchRun where
  summary : Except String ReconciliationSummary
  attempted : List IncidentTaskExecution
  claimed : List Claimed
  table : Execution.Table

abbrev Batch := List (IncidentTaskExecution × Turn)

def reconcileFrom (table : Execution.Table) (summary : ReconciliationSummary)
    (attempted : List IncidentTaskExecution) (claimed : List Claimed) : Batch → BatchRun
  | [] => ⟨.ok summary, attempted, claimed, table⟩
  | (candidate, turn) :: batch =>
    let (ending, new, table) := takeTurn table candidate turn
    let attempted := attempted ++ [candidate]
    let claimed := claimed ++ new.toList
    match ending with
    | .raised message => ⟨.error message, attempted, claimed, table⟩
    | _ => reconcileFrom table (summary.count ending) attempted claimed batch

def reconcileOnce (table : Execution.Table) (batch : Batch) : BatchRun :=
  reconcileFrom table ⟨batch.length, 0, 0, 0, 0, 0⟩ [] [] batch

end OpsFlow.Incidents
