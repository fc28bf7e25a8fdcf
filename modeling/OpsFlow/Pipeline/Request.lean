import OpsFlow.JsonText
import OpsFlow.Execution.BatchLaw
import OpsFlow.Incidents.Services
import OpsFlow.Outbox.Message

namespace OpsFlow.Pipeline
open Contracts Execution Patterns
open OpsFlow.Incidents (Incident Draw)
open OpsFlow.Outbox (IncidentTaskOutboxMessage taskEnvelope optionalString)

/-! ## The message that the creation of an incident leaves in the outbox -/

def requestedTask (incident : Incident) (correlationId : Option String) (draw : Draw) :
    IncidentTaskOutboxMessage :=
  let message := Incidents.Remote.taskMessage incident correlationId draw
  { id := message.id
    taskId := message.taskId
    incidentId := message.incidentId
    schemaVersion := message.schemaVersion
    taskType := message.taskType
    idempotencyKey := message.idempotencyKey
    correlationId := message.correlationId
    causationId := message.causationId
    payload := [("incident_id", .string incident.id.str)]
    metadata := [("source", "incident-service"), ("operation", "incident.create")]
    createdAt := message.createdAt }

/-- The row of it; `correlation_id` is the only column that the database need not take as it is. -/
def storedTask (incident : Incident) (correlationId : Option String) (draw : Draw) :
    Option IncidentTaskOutboxMessage :=
  let message := requestedTask incident correlationId draw
  (Incidents.varchar 128 message.correlationId).map fun correlationId =>
    { message with correlationId := correlationId }

/-- Payload and metadata are those of the service. -/
theorem requestedTask_documents (incident : Incident) (correlationId : Option String)
    (draw : Draw) : (.object (requestedTask incident correlationId draw).payload =
        (Incidents.Remote.taskMessage incident correlationId draw).payload) ∧
      (.object ((requestedTask incident correlationId draw).metadata.map fun entry =>
          (entry.1, Json.string entry.2)) =
        (Incidents.Remote.taskMessage incident correlationId draw).metadata) :=
  ⟨rfl, rfl⟩

structure IsRequest (message : IncidentTaskOutboxMessage) : Prop where
  schemaVersion : message.schemaVersion = "1.0"
  taskType : message.taskType = "incident.processing.requested"
  idempotencyKey : message.idempotencyKey = "incident:" ++ message.incidentId.str ++ ":process:v1"
  causationId : message.causationId = none
  payload : message.payload = [("incident_id", .string message.incidentId.str)]
  metadata : message.metadata = [("source", "incident-service"), ("operation", "incident.create")]

/-- The message asks for the processing of the incident, under the correlation identifier that was
given, if there was one. -/
structure RequestOf (message : IncidentTaskOutboxMessage) (incident : Incident)
    (correlationId : Option String) : Prop extends IsRequest message where
  incidentId : message.incidentId = incident.id
  correlationId : ∀ given ∈ correlationId, given ≠ "" →
    Incidents.varchar 128 given = some message.correlationId

theorem requestOf_storedTask {incident : Incident} {correlationId : Option String} {draw : Draw}
    {message : IncidentTaskOutboxMessage}
    (h : storedTask incident correlationId draw = some message) :
    RequestOf message incident correlationId := by
  obtain ⟨stored, hstored, rfl⟩ := Option.map_eq_some_iff.mp h
  refine ⟨⟨rfl, rfl, rfl, rfl, rfl, rfl⟩, rfl, fun given hgiven hne => ?_⟩
  obtain rfl : correlationId = some given := hgiven
  have hcorrelation : (requestedTask incident (some given) draw).correlationId = given := if_neg hne
  rw [hcorrelation] at hstored
  exact hstored

/-! ## What a worker reads of it -/

/-- The members of the envelope as they are written, sorted by their names. -/
def receivedMembers (message : IncidentTaskOutboxMessage) : Members :=
  [("causation_id", optionalString message.causationId),
    ("correlation_id", .string message.correlationId),
    ("created_at", .string message.createdAt.isoformat),
    ("idempotency_key", .string message.idempotencyKey),
    ("kind", .string "task"),
    ("metadata", .object [("operation", .string "incident.create"),
      ("source", .string "incident-service")]),
    ("payload", .object [("incident_id", .string message.incidentId.str)]),
    ("producer", .string "incident-service"),
    ("schema_version", .string message.schemaVersion),
    ("task_id", .string message.taskId.str),
    ("task_type", .string message.taskType)]

def sqsRecord (messageId : String) (message : Outbox.SqsMessage) : Members :=
  [("messageId", .string messageId),
    ("body", .string (String.ofList (dumps (fun _ => []) message.body)))]

variable {message : IncidentTaskOutboxMessage}

theorem flat_optionalString (s : Option String) : (optionalString s).flat := by
  cases s with
  | none => trivial
  | some s => trivial

/-- The members of the envelope, before the documents in it are sorted. -/
def envelopeMembers (message : IncidentTaskOutboxMessage) : Members :=
  [("causation_id", optionalString message.causationId),
    ("correlation_id", .string message.correlationId),
    ("created_at", .string message.createdAt.isoformat),
    ("idempotency_key", .string message.idempotencyKey),
    ("kind", .string "task"),
    ("metadata", .object [("source", .string "incident-service"),
      ("operation", .string "incident.create")]),
    ("payload", .object [("incident_id", .string message.incidentId.str)]),
    ("producer", .string "incident-service"),
    ("schema_version", .string message.schemaVersion),
    ("task_id", .string message.taskId.str),
    ("task_type", .string message.taskType)]

variable (number : ℚ → List Char)

theorem readsBack_payload (incidentId : String) :
    ReadsBack number 4 (.object [("incident_id", .string incidentId)])
      (.object [("incident_id", .string incidentId)]) := by
  refine (readsBack_flatObject (List.cons_ne_nil _ _) ?_ ?_).mono (by simp)
  · simp [Json.flat]
  · simp

theorem readsBack_metadata :
    ReadsBack number 4
      (.object [("source", .string "incident-service"), ("operation", .string "incident.create")])
      (.object [("operation", .string "incident.create"),
        ("source", .string "incident-service")]) := by
  have hsorted : sortedMembers [("source", .string "incident-service"),
      ("operation", .string "incident.create")] = [("operation", .string "incident.create"),
        ("source", .string "incident-service")] := by
    simp [sortedMembers, List.insertionSort]
  rw [← hsorted]
  refine (readsBack_flatObject (List.cons_ne_nil _ _) ?_ ?_).mono (by decide)
  · simp [Json.flat]
  · simp

theorem memberReadsBack_flat {name : String} {value : Json} (h : value.flat) :
    MemberReadsBack number 4 (name, value) (name, value) :=
  ⟨rfl, (readsBack_flat h).mono (by decide)⟩

theorem forall₂_envelope (message : IncidentTaskOutboxMessage) :
    List.Forall₂ (MemberReadsBack number 4) (envelopeMembers message)
      (receivedMembers message) := by
  have hstring {name s : String} :
      MemberReadsBack number 4 (name, .string s) (name, .string s) :=
        memberReadsBack_flat number trivial
  refine .cons (memberReadsBack_flat number (flat_optionalString _)) <| .cons hstring <|
    .cons hstring <| .cons hstring <| .cons hstring <|
    .cons ⟨rfl, readsBack_metadata number⟩ <| .cons ⟨rfl, readsBack_payload number _⟩ <|
    .cons hstring <| .cons hstring <| .cons hstring <| .cons hstring .nil

/-- The worker's `json.loads` reads the envelope that the relay's `json.dumps` has written. -/
theorem parse?_taskEnvelope (h : IsRequest message) :
    Json.parse? (String.ofList (dumps number (taskEnvelope message))) =
      some (.object (receivedMembers message)) := by
  obtain ⟨members, henvelope, hnodup, hsorted⟩ : ∃ members, taskEnvelope message = .object members ∧
      (members.map Prod.fst).Nodup ∧ sortedMembers members = envelopeMembers message := by
    refine ⟨_, rfl, by simp, ?_⟩
    simp [sortedMembers, List.insertionSort, envelopeMembers, h.payload, h.metadata]
  have hlength : members.length = 11 := by
    rw [← (sortedMembers_perm members).length_eq, hsorted]
    rfl
  have hne : members ≠ [] := List.ne_nil_of_length_pos (by omega)
  have hmembers := forall₂_envelope number message
  rw [← hsorted] at hmembers
  have hsize := length_dumps_object number members
  rw [henvelope]
  exact parse?_of_readsBack (readsBack_object hne hnodup hmembers) (by omega)

theorem parseRecordBody_sqsRecord (h : IsRequest message) (messageId : String) :
    parseRecordBody Json.parse? (sqsRecord messageId (Outbox.taskPublication message)) =
      .ok (.object (receivedMembers message)) := by
  have hparse := parse?_taskEnvelope (fun _ => []) h
  have htext : text? (sqsRecord messageId (Outbox.taskPublication message)) "body" =
      some (String.ofList (dumps (fun _ => []) (taskEnvelope message))) := rfl
  unfold parseRecordBody
  rw [htext]
  simp only [hparse]

/-- A worker that takes the task goes by the identity of the message. -/
theorem taskOfRecord_sqsRecord {messageId idempotencyKey : String} {members : Members}
    (h : IsRequest message)
    (htask : taskOfRecord Json.parse? (sqsRecord messageId (Outbox.taskPublication message)) =
      .ok (members, idempotencyKey)) : members = receivedMembers message := by
  have hbody := taskOfRecord_body htask
  rw [parseRecordBody_sqsRecord h] at hbody
  exact (Json.object.inj (Except.ok.inj hbody)).symm

def receivedTask (message : IncidentTaskOutboxMessage) : Task where
  taskId := message.taskId.str
  taskType := message.taskType
  schemaVersion := message.schemaVersion
  producer := "incident-service"
  idempotencyKey := message.idempotencyKey
  correlationId := message.correlationId
  payload := .object [("incident_id", .string message.incidentId.str)]
  createdAt := message.createdAt.isoformat
  causationId := message.causationId
  taskMetadata := some (.object [("operation", .string "incident.create"),
    ("source", .string "incident-service")])

theorem ofMembers?_receivedMembers (message : IncidentTaskOutboxMessage) :
    Task.ofMembers? (receivedMembers message) = some (receivedTask message) := by
  obtain ⟨_, _, _, _, _, _, _, causationId, _, _, _⟩ := message
  cases causationId with
  | none => rfl
  | some causationId => rfl

theorem incidentIdFromTask_receivedMembers (message : IncidentTaskOutboxMessage) :
    incidentIdFromTask (receivedMembers message) = .ok message.incidentId.str := by
  have hpayload : (receivedMembers message).lookup "payload" =
      some (.object [("incident_id", .string message.incidentId.str)]) := by
    simp [receivedMembers, List.lookup_cons]
  exact incidentIdFromTask_str hpayload (by simp [text?])

theorem identity_received {task : Task} {incidentId : String}
    (htask : Task.ofMembers? (receivedMembers message) = some task)
    (hincident : incidentIdFromTask (receivedMembers message) = .ok incidentId) :
    task.identity incidentId = ⟨message.taskId.str, message.incidentId.str, message.taskType,
      message.idempotencyKey, message.correlationId⟩ := by
  rw [ofMembers?_receivedMembers] at htask
  rw [incidentIdFromTask_receivedMembers] at hincident
  obtain rfl := Option.some.inj htask
  obtain rfl := Except.ok.inj hincident
  rfl

/-! ## The worker's contract -/

def receivedTexts (message : IncidentTaskOutboxMessage) : EnvelopeTexts :=
  ⟨message.taskId.str, message.taskType, message.createdAt.isoformat, "incident-service",
    message.correlationId, message.idempotencyKey⟩

theorem read_receivedMembers (h : IsRequest message)
    (hcorrelation : 1 ≤ message.correlationId.length) :
    (receivedTexts message).Read (receivedMembers message) where
  taskId := rfl
  kind := rfl
  taskType := rfl
  taskTypeLength := by
    change 3 ≤ message.taskType.length ∧ message.taskType.length ≤ 120
    rw [h.taskType]
    decide
  schemaVersion := by
    rw [← h.schemaVersion]
    rfl
  createdAt := rfl
  producer := rfl
  producerLength := by
    change 1 ≤ "incident-service".length ∧ "incident-service".length ≤ 100
    decide
  correlationId := rfl
  correlationIdLength := hcorrelation
  causationId := by
    intro value hvalue
    obtain rfl := Option.some.inj hvalue
    rw [h.causationId]
    exact .inr rfl
  idempotencyKey := rfl
  idempotencyKeyLength := by
    change 1 ≤ message.idempotencyKey.length ∧ message.idempotencyKey.length ≤ 255
    rw [h.idempotencyKey, String.length_append, String.length_append, length_str]
    decide
  payload := ⟨_, rfl⟩
  metadata := by
    intro value hvalue
    obtain rfl := Option.some.inj hvalue
    refine ⟨_, rfl, by decide, fun entry hentry => ?_⟩
    rw [List.mem_cons, List.mem_singleton] at hentry
    obtain rfl | rfl := hentry
    · exact ⟨_, rfl, by decide⟩
    · exact ⟨_, rfl, by decide⟩
  closed := by simp [receivedMembers, envelopeKeys]

/-- The texts that have a pattern of their own match it, whatever incident they name. -/
theorem named_receivedTexts (h : IsRequest message) : (receivedTexts message).Named := by
  refine ⟨pythonSearch_of_ecmaTest ?_, pythonSearch_of_ecmaTest ?_, pythonSearch_of_ecmaTest ?_⟩
  · have hmatch := taskTypePattern_rmatch 'i' "ncident".toList
      [('p', "rocessing".toList), ('r', "equested".toList)] (by decide) (by decide) (by decide)
      (by decide)
    change taskTypePattern.rmatch message.taskType.toList = true
    rw [h.taskType]
    exact hmatch
  · change producerPattern.rmatch "incident-service".toList = true
    exact oneOf_mul_star_rmatch.mpr ⟨'i', "ncident-service".toList, by decide, by decide, by decide⟩
  · have hprefix : ∀ d ∈ "ncident:".toList,
        d ∈ upper ++ lower ++ digits ++ ['.', '_', ':', '/', '-'] := by decide
    have hsuffix : ∀ d ∈ ":process:v1".toList,
        d ∈ upper ++ lower ++ digits ++ ['.', '_', ':', '/', '-'] := by decide
    have hid : ∀ d ∈ '-' :: hexChars,
        d ∈ upper ++ lower ++ digits ++ ['.', '_', ':', '/', '-'] := by decide
    change idempotencyKeyPattern.rmatch message.idempotencyKey.toList = true
    rw [h.idempotencyKey, String.toList_append, String.toList_append]
    refine oneOf_mul_star_rmatch.mpr ⟨'i', "ncident:".toList ++ message.incidentId.str.toList ++
      ":process:v1".toList, rfl, by decide, fun d hd => ?_⟩
    rw [List.mem_append, List.mem_append] at hd
    obtain (hd | hd) | hd := hd
    · exact hprefix d hd
    · exact hid d (List.mem_cons.mpr (mem_str hd))
    · exact hsuffix d hd

/-- A worker takes whatever the service asks for. -/
theorem taskOfRecord_request (h : IsRequest message)
    (hcorrelation : 1 ≤ message.correlationId.length) (messageId : String) :
    taskOfRecord Json.parse? (sqsRecord messageId (Outbox.taskPublication message)) =
      .ok (receivedMembers message, message.idempotencyKey) := by
  have hid : jsonschemaFormat .uuid (receivedTexts message).taskId = true :=
    jsonschemaFormat_of_rfcFormat (rfcFormat_str message.taskId)
  have hvalid : taskEnvelopeSchema jsonschema (.object (receivedMembers message)) = true :=
    taskEnvelopeSchema_iff.mpr ⟨_, _, rfl, read_receivedMembers h hcorrelation,
      EnvelopeTexts.checked_jsonschema.mpr ⟨hid, named_receivedTexts h⟩⟩
  exact taskOfRecord_of_valid (parseRecordBody_sqsRecord h messageId) hvalid rfl

end OpsFlow.Pipeline
