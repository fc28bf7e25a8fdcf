import OpsFlow.Text
import OpsFlow.Contracts.EnvelopeAgreement

namespace OpsFlow.Messaging
open OpsFlow.Contracts Patterns

/-! ## Identities -/

structure ValueError where
  message : String
  deriving DecidableEq

def normalizeIdentitySegment (name value : String) : Except ValueError String :=
  let normalized := stripped pythonSpace value
  if normalized = "" then .error ⟨name ++ " must not be blank."⟩
  else if ':' ∈ normalized.toList then .error ⟨name ++ " must not contain ':'."⟩
  else .ok normalized

def buildIdempotencyKey (scope resourceId operation : String) (version : ℤ) :
    Except ValueError String := do
  let normalizedScope ← normalizeIdentitySegment "scope" scope
  let normalizedResourceId ← normalizeIdentitySegment "resource_id" resourceId
  let normalizedOperation ← normalizeIdentitySegment "operation" operation
  if version < 1 then .error ⟨"version must be greater than or equal to 1."⟩
  else .ok (normalizedScope ++ ":" ++ normalizedResourceId ++ ":" ++ normalizedOperation ++ ":v" ++
    version.toNat.repr)

/-- `generated` is the UUID that is drawn where there is no usable correlation id. -/
def resolveCorrelationId (correlationId : Option String) (generated : Uuid) : String :=
  match correlationId with
  | some correlationId =>
    if stripped pythonSpace correlationId ≠ "" then stripped pythonSpace correlationId
    else "corr:" ++ generated.str
  | none => "corr:" ++ generated.str

/-! ## The envelope -/

structure TaskEnvelope where
  taskId : String
  taskType : String
  createdAt : Timestamp
  producer : String
  correlationId : String
  idempotencyKey : String
  payload : List (String × Json)
  causationId : Option String
  metadata : List (String × String)

/-- `NonEmptyTaskString`; pydantic's report of a text that is left empty is not spelt out. -/
def nonEmptyTaskString (s : String) : Except ValueError String :=
  if stripped rustSpace s = "" then .error ⟨"String should have at least 1 character"⟩
  else .ok (stripped rustSpace s)

def TaskEnvelope.validate (envelope : TaskEnvelope) : Except ValueError TaskEnvelope := do
  let taskId ← nonEmptyTaskString envelope.taskId
  let taskType ← nonEmptyTaskString envelope.taskType
  let producer ← nonEmptyTaskString envelope.producer
  let correlationId ← nonEmptyTaskString envelope.correlationId
  let idempotencyKey ← nonEmptyTaskString envelope.idempotencyKey
  let causationId ← envelope.causationId.mapM nonEmptyTaskString
  .ok { envelope with
    taskId := taskId
    taskType := taskType
    producer := producer
    correlationId := correlationId
    idempotencyKey := idempotencyKey
    causationId := causationId }

def nullableString : Option String → Json
  | none => .null
  | some s => .string s

/-- `model_dump(mode="json")`; `isoformat` is how pydantic writes an instant. -/
def TaskEnvelope.dump (isoformat : Timestamp → String) (envelope : TaskEnvelope) : Json :=
  .object [("task_id", .string envelope.taskId),
    ("kind", .string "task"),
    ("task_type", .string envelope.taskType),
    ("schema_version", .string "1.0"),
    ("created_at", .string (isoformat envelope.createdAt)),
    ("producer", .string envelope.producer),
    ("correlation_id", .string envelope.correlationId),
    ("idempotency_key", .string envelope.idempotencyKey),
    ("payload", .object envelope.payload),
    ("causation_id", nullableString envelope.causationId),
    ("metadata", .object (envelope.metadata.map fun entry => (entry.1, .string entry.2)))]

/-! ## `TaskPublicationService` -/

structure TaskPublicationService where
  producer : String

def TaskPublicationService.new (producer : String) : Except ValueError TaskPublicationService :=
  let normalizedProducer := stripped pythonSpace producer
  if normalizedProducer = "" then .error ⟨"producer must not be blank."⟩
  else .ok ⟨normalizedProducer⟩

structure Publish where
  taskType : String
  scope : String
  resourceId : String
  operation : String
  payload : List (String × Json)
  correlationId : Option String
  causationId : Option String
  metadata : Option (List (String × String))
  idempotencyVersion : ℤ

structure PublishDraw where
  correlation : Uuid
  taskId : Uuid
  now : Timestamp

/-- The envelope that `publish` hands to the publisher. -/
def TaskPublicationService.publish (service : TaskPublicationService) (args : Publish)
    (draw : PublishDraw) : Except ValueError TaskEnvelope := do
  let resolvedCorrelationId := resolveCorrelationId args.correlationId draw.correlation
  let idempotencyKey ← buildIdempotencyKey args.scope args.resourceId args.operation
    args.idempotencyVersion
  TaskEnvelope.validate
    { taskId := draw.taskId.str
      taskType := args.taskType
      createdAt := draw.now
      producer := service.producer
      correlationId := resolvedCorrelationId
      idempotencyKey := idempotencyKey
      payload := args.payload
      causationId := args.causationId
      metadata := args.metadata.getD [] }

/-! ## What the calls return -/

variable {name value normalized : String} {envelope envelope' : TaskEnvelope}

theorem normalizeIdentitySegment_eq_ok :
    normalizeIdentitySegment name value = .ok normalized ↔
      stripped pythonSpace value = normalized ∧ normalized ≠ "" ∧ ':' ∉ normalized.toList := by
  unfold normalizeIdentitySegment
  dsimp only
  rw [ite_error_eq_ok, ite_error_eq_ok, Except.ok.injEq]
  constructor
  · rintro ⟨hne, hnot, rfl⟩
    exact ⟨rfl, hne, hnot⟩
  · rintro ⟨rfl, hne, hnot⟩
    exact ⟨hne, hnot, rfl⟩

theorem nonEmptyTaskString_eq_ok : nonEmptyTaskString value = .ok normalized ↔
    stripped rustSpace value = normalized ∧ normalized ≠ "" := by
  unfold nonEmptyTaskString
  rw [ite_error_eq_ok, Except.ok.injEq]
  constructor
  · rintro ⟨hne, rfl⟩
    exact ⟨rfl, hne⟩
  · rintro ⟨rfl, hne⟩
    exact ⟨hne, rfl⟩

/-- The key of a call whose identity is in order. -/
theorem buildIdempotencyKey_eq_ok {scope resourceId operation key : String} {version : ℤ} :
    buildIdempotencyKey scope resourceId operation version = .ok key ↔
      ∃ s r o, normalizeIdentitySegment "scope" scope = .ok s ∧
        normalizeIdentitySegment "resource_id" resourceId = .ok r ∧
        normalizeIdentitySegment "operation" operation = .ok o ∧ 1 ≤ version ∧
        s ++ ":" ++ r ++ ":" ++ o ++ ":v" ++ version.toNat.repr = key := by
  unfold buildIdempotencyKey
  simp only [bind_eq_ok]
  constructor
  · rintro ⟨s, hs, r, hr, o, ho, h⟩
    split at h
    · contradiction
    · rename_i hversion
      exact ⟨s, r, o, hs, hr, ho, Int.not_lt.mp hversion, Except.ok.inj h⟩
  · rintro ⟨s, r, o, hs, hr, ho, hversion, rfl⟩
    refine ⟨s, hs, r, hr, o, ho, ?_⟩
    rw [if_neg (Int.not_lt.mpr hversion)]

end OpsFlow.Messaging
