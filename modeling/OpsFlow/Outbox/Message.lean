import OpsFlow.Incidents.Completion

namespace OpsFlow.Outbox
open OpsFlow.Incidents (CompletionMessage)

/-! ## What the two outboxes publish -/

structure IncidentTaskOutboxMessage where
  id : Uuid
  taskId : Uuid
  incidentId : Uuid
  schemaVersion : String
  taskType : String
  idempotencyKey : String
  correlationId : String
  causationId : Option String
  payload : List (String × Json)
  metadata : List (String × String)
  createdAt : Timestamp

/-- One `send_message`: the document of the body, and the attributes, all of them strings. -/
structure SqsMessage where
  body : Json
  attributes : List (String × String)

def optionalString : Option String → Json
  | none => .null
  | some s => .string s

def taskEnvelope (message : IncidentTaskOutboxMessage) : Json :=
  .object [("task_id", .string message.taskId.str),
    ("kind", .string "task"),
    ("task_type", .string message.taskType),
    ("schema_version", .string message.schemaVersion),
    ("created_at", .string message.createdAt.isoformat),
    ("producer", .string "incident-service"),
    ("correlation_id", .string message.correlationId),
    ("causation_id", optionalString message.causationId),
    ("idempotency_key", .string message.idempotencyKey),
    ("payload", .object message.payload),
    ("metadata", .object (message.metadata.map fun entry => (entry.1, .string entry.2)))]

def taskPublication (message : IncidentTaskOutboxMessage) : SqsMessage :=
  { body := taskEnvelope message
    attributes := [("task_type", message.taskType), ("schema_version", message.schemaVersion),
      ("correlation_id", message.correlationId)] }

/-- Python's `s.replace(pattern, replacement)`; the first `skip` characters are those of a match. -/
def replaceAll (pattern replacement : List Char) : ℕ → List Char → List Char
  | _, [] => []
  | skip + 1, _ :: cs => replaceAll pattern replacement skip cs
  | 0, c :: cs =>
    if pattern.isPrefixOf (c :: cs) then
      replacement ++ replaceAll pattern replacement (pattern.length - 1) cs
    else c :: replaceAll pattern replacement 0 cs

/-- `_required_aware_timestamp`: an instant is timezone-aware. -/
def requiredAwareTimestamp (value : Timestamp) : String :=
  String.ofList (replaceAll "+00:00".toList "Z".toList 0 value.isoformat.toList)

def completionEvent (message : CompletionMessage) : Json :=
  .object [("schema_version", .string message.schemaVersion),
    ("event_type", .string message.eventType),
    ("event_id", .string message.eventId.str),
    ("incident_id", .string message.incidentId.str),
    ("task_id", .string message.taskId.str),
    ("correlation_id", .string message.correlationId),
    ("status", .string message.status.value),
    ("acknowledged_at", optionalString (message.acknowledgedAt.map requiredAwareTimestamp)),
    ("occurred_at", .string (requiredAwareTimestamp message.occurredAt))]

def completionPublication (message : CompletionMessage) : SqsMessage :=
  { body := completionEvent message
    attributes := [("event_type", message.eventType), ("schema_version", message.schemaVersion),
      ("correlation_id", message.correlationId), ("incident_id", message.incidentId.str),
      ("task_id", message.taskId.str)] }

/-! ## What a message of the queue says of a row -/

/-- Identity, payload and context of the task, in the body and in the attributes. -/
def IncidentTaskOutboxMessage.CarriedBy (message : IncidentTaskOutboxMessage)
    (sent : SqsMessage) : Prop :=
  (∃ members, sent.body = .object members ∧
    members.lookup "task_id" = some (.string message.taskId.str) ∧
    members.lookup "task_type" = some (.string message.taskType) ∧
    members.lookup "schema_version" = some (.string message.schemaVersion) ∧
    members.lookup "created_at" = some (.string message.createdAt.isoformat) ∧
    members.lookup "correlation_id" = some (.string message.correlationId) ∧
    members.lookup "causation_id" = some (optionalString message.causationId) ∧
    members.lookup "idempotency_key" = some (.string message.idempotencyKey) ∧
    members.lookup "payload" = some (.object message.payload) ∧
    members.lookup "metadata" =
      some (.object (message.metadata.map fun entry => (entry.1, .string entry.2)))) ∧
  sent.attributes.lookup "task_type" = some message.taskType ∧
  sent.attributes.lookup "schema_version" = some message.schemaVersion ∧
  sent.attributes.lookup "correlation_id" = some message.correlationId

theorem taskPublication_carries (message : IncidentTaskOutboxMessage) :
    message.CarriedBy (taskPublication message) :=
  ⟨⟨_, rfl, rfl, rfl, rfl, rfl, rfl, rfl, rfl, rfl, rfl⟩, rfl, rfl, rfl⟩

def CompletionCarriedBy (message : CompletionMessage) (sent : SqsMessage) : Prop :=
  (∃ members, sent.body = .object members ∧
    members.lookup "event_id" = some (.string message.eventId.str) ∧
    members.lookup "event_type" = some (.string message.eventType) ∧
    members.lookup "schema_version" = some (.string message.schemaVersion) ∧
    members.lookup "incident_id" = some (.string message.incidentId.str) ∧
    members.lookup "task_id" = some (.string message.taskId.str) ∧
    members.lookup "correlation_id" = some (.string message.correlationId) ∧
    members.lookup "status" = some (.string message.status.value) ∧
    members.lookup "acknowledged_at" =
      some (optionalString (message.acknowledgedAt.map requiredAwareTimestamp)) ∧
    members.lookup "occurred_at" =
      some (.string (requiredAwareTimestamp message.occurredAt))) ∧
  sent.attributes.lookup "event_type" = some message.eventType ∧
  sent.attributes.lookup "schema_version" = some message.schemaVersion ∧
  sent.attributes.lookup "correlation_id" = some message.correlationId ∧
  sent.attributes.lookup "incident_id" = some message.incidentId.str ∧
  sent.attributes.lookup "task_id" = some message.taskId.str

theorem completionPublication_carries (message : CompletionMessage) :
    CompletionCarriedBy message (completionPublication message) :=
  ⟨⟨_, rfl, rfl, rfl, rfl, rfl, rfl, rfl, rfl, rfl, rfl⟩, rfl, rfl, rfl, rfl, rfl⟩

/-- All that the relay of an outbox needs to know of its messages. -/
structure Kind (M : Type) where
  id : M → Uuid
  createdAt : M → Timestamp
  publication : M → SqsMessage

def taskOutbox : Kind IncidentTaskOutboxMessage :=
  ⟨IncidentTaskOutboxMessage.id, IncidentTaskOutboxMessage.createdAt, taskPublication⟩

def completionOutbox : Kind CompletionMessage :=
  ⟨CompletionMessage.id, CompletionMessage.occurredAt, completionPublication⟩

/-! ## Rows -/

inductive PublicationStatus
  | pending
  | published
  deriving DecidableEq, Repr

structure Row (M : Type) where
  message : M
  publicationStatus : PublicationStatus
  publishAttempts : ℕ
  createdAt : Timestamp
  updatedAt : Timestamp
  publishedAt : Option Timestamp
  lastError : Option String

variable {M : Type}

def Row.new (outbox : Kind M) (message : M) : Row M :=
  ⟨message, .pending, 0, outbox.createdAt message, outbox.createdAt message, none, none⟩

def Row.publishable (retryBefore : Timestamp) (row : Row M) : Bool :=
  row.publicationStatus = .pending ∧ (row.publishAttempts = 0 ∨ row.updatedAt ≤ retryBefore)

def Row.markPublished (publishedAt : Timestamp) (row : Row M) : Row M :=
  { row with
    publicationStatus := .published
    publishAttempts := row.publishAttempts + 1
    publishedAt := some publishedAt
    updatedAt := publishedAt
    lastError := none }

def Row.markPublishFailed (failedAt : Timestamp) (error : String) (row : Row M) : Row M :=
  { row with
    publicationStatus := .pending
    publishAttempts := row.publishAttempts + 1
    updatedAt := failedAt
    lastError := some (String.ofList (error.toList.take 2000)) }

inductive Outcome
  | published
  | failed (error : String)

/-- An attempt to publish the row with primary key `key`, and when it was marked. -/
structure Publication where
  key : Uuid
  markedAt : Timestamp
  outcome : Outcome

def Row.mark (row : Row M) (p : Publication) : Row M :=
  match p.outcome with
  | .published => row.markPublished p.markedAt
  | .failed error => row.markPublishFailed p.markedAt error

/-! ## A row is the replay of the attempts on it -/

variable {row : Row M} {attempts : List Publication} {p : Publication}

@[simp] theorem Row.mark_message (row : Row M) (p : Publication) :
    (row.mark p).message = row.message := by
  unfold mark
  split
  · rfl
  · rfl

@[simp] theorem Row.mark_createdAt (row : Row M) (p : Publication) :
    (row.mark p).createdAt = row.createdAt := by
  unfold mark
  split
  · rfl
  · rfl

@[simp] theorem Row.mark_attempts (row : Row M) (p : Publication) :
    (row.mark p).publishAttempts = row.publishAttempts + 1 := by
  unfold mark
  split
  · rfl
  · rfl

@[simp] theorem Row.mark_updatedAt (row : Row M) (p : Publication) :
    (row.mark p).updatedAt = p.markedAt := by
  unfold mark
  split
  · rfl
  · rfl

theorem Row.mark_published : (row.mark p).publicationStatus = .published ↔
    p.outcome = .published := by
  unfold mark
  split
  · rename_i h
    simp [markPublished, h]
  · rename_i h
    simp [markPublishFailed, h]

def Row.replay (row : Row M) (attempts : List Publication) : Row M := attempts.foldl Row.mark row

theorem Row.replay_snoc : row.replay (attempts ++ [p]) = (row.replay attempts).mark p := by
  simp [replay]

@[simp] theorem Row.replay_message : (row.replay attempts).message = row.message := by
  induction attempts using List.reverseRecOn with
  | nil => rfl
  | append_singleton attempts p ih => rw [replay_snoc, mark_message, ih]

@[simp] theorem Row.replay_createdAt : (row.replay attempts).createdAt = row.createdAt := by
  induction attempts using List.reverseRecOn with
  | nil => rfl
  | append_singleton attempts p ih => rw [replay_snoc, mark_createdAt, ih]

theorem Row.replay_attempts :
    (row.replay attempts).publishAttempts = row.publishAttempts + attempts.length := by
  induction attempts using List.reverseRecOn with
  | nil => rfl
  | append_singleton attempts p ih =>
    rw [replay_snoc, mark_attempts, ih, List.length_append, List.length_singleton]
    omega

theorem Row.replay_updatedAt (h : attempts.getLast? = some p) :
    (row.replay attempts).updatedAt = p.markedAt := by
  obtain ⟨earlier, rfl⟩ := List.getLast?_eq_some_iff.mp h
  rw [replay_snoc, mark_updatedAt]

end OpsFlow.Outbox
