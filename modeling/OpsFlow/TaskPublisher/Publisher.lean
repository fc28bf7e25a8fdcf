import OpsFlow.TaskPublisher.HttpRequest
import OpsFlow.Contracts.EnvelopeAgreement
import OpsFlow.Contracts.IsoDates

namespace OpsFlow.TaskPublisher
open Contracts

/-! ## `config.ts` -/

structure PublisherConfig where
  taskQueueUrl : String
  producerName : String

def requireEnvironmentVariable (environment : String → Option String) (name : String) :
    Except String String :=
  match environment name with
  | some value =>
    if stripped jsSpace value = "" then
      .error ("Required environment variable is missing: " ++ name)
    else .ok (stripped jsSpace value)
  | none => .error ("Required environment variable is missing: " ++ name)

def loadPublisherConfig (environment : String → Option String) : Except String PublisherConfig := do
  let taskQueueUrl ← requireEnvironmentVariable environment "TASK_QUEUE_URL"
  let producerName := stripped jsSpace ((environment "TASK_PRODUCER_NAME").getD "")
  .ok ⟨taskQueueUrl, if producerName = "" then "opsflow-task-publisher" else producerName⟩

/-! ## `taskEnvelope.ts` -/

structure TaskEnvelope where
  taskId : String
  taskType : String
  createdAt : String
  producer : String
  correlationId : String
  causationId : Option String
  idempotencyKey : String
  payload : List (String × Json)
  metadata : Option (List (String × String))

/-- Two draws of `randomUUID`, and the clock in milliseconds. -/
structure EnvelopeDraw where
  taskId : Uuid
  correlationId : Uuid
  now : ℤ

def createTaskEnvelope (input : PublishTaskInput) (producer : String) (draw : EnvelopeDraw) :
    TaskEnvelope where
  taskId := draw.taskId.str
  taskType := input.taskType
  createdAt := toISOString draw.now
  producer := producer
  correlationId := input.correlationId.getD draw.correlationId.str
  causationId := input.causationId.getD none
  idempotencyKey := input.idempotencyKey
  payload := input.payload
  metadata := input.metadata

namespace TaskEnvelope

def causationIdJson (envelope : TaskEnvelope) : Json :=
  match envelope.causationId with
  | none => .null
  | some causationId => .string causationId

def metadataMembers (envelope : TaskEnvelope) : List (String × Json) :=
  match envelope.metadata with
  | none => []
  | some metadata =>
    [("metadata", .object (metadata.map fun entry => (entry.1, .string entry.2)))]

def members (envelope : TaskEnvelope) : List (String × Json) :=
  [("task_id", .string envelope.taskId),
    ("kind", .string "task"),
    ("task_type", .string envelope.taskType),
    ("schema_version", .string "1.0"),
    ("created_at", .string envelope.createdAt),
    ("producer", .string envelope.producer),
    ("correlation_id", .string envelope.correlationId),
    ("causation_id", envelope.causationIdJson),
    ("idempotency_key", .string envelope.idempotencyKey),
    ("payload", .object envelope.payload)] ++ envelope.metadataMembers

end TaskEnvelope

/-! ## `publisher.ts` -/

structure SendMessageInput where
  queueUrl : String
  messageBody : String
  /-- attributes of the data type `String` -/
  messageAttributes : List (String × String)

inductive SendAnswer
  | thrown (message : String)
  | response (messageId : Option String)

inductive PublishError
  | invalidTaskEnvelope
  | other (message : String)

structure PublishTaskResult where
  messageId : String
  envelope : TaskEnvelope

def sendMessageInput (runtime : NodeRuntime) (config : PublisherConfig) (envelope : TaskEnvelope) :
    SendMessageInput where
  queueUrl := config.taskQueueUrl
  messageBody := String.ofList (stringify runtime.number (.object envelope.members))
  messageAttributes :=
    [("task_type", envelope.taskType), ("schema_version", "1.0"),
      ("correlation_id", envelope.correlationId)]

/-- The result, and the messages that were handed to SQS. -/
def publishTask (runtime : NodeRuntime) (environment : String → Option String)
    (input : PublishTaskInput) (draw : EnvelopeDraw) (answer : SendAnswer) :
    Except PublishError PublishTaskResult × List SendMessageInput :=
  match loadPublisherConfig environment with
  | .error message => (.error (.other message), [])
  | .ok config =>
    let envelope := createTaskEnvelope input config.producerName draw
    if !Contracts.TaskPublisher.validateTaskEnvelope (.object envelope.members) then
      (.error .invalidTaskEnvelope, [])
    else if runtime.stackDepth < (Json.object envelope.members).depth then
      (.error (.other "Maximum call stack size exceeded"), [])
    else
      let message := sendMessageInput runtime config envelope
      match answer with
      | .thrown error => (.error (.other error), [message])
      | .response none => (.error (.other "Amazon SQS did not return a MessageId"), [message])
      | .response (some messageId) =>
        if messageId = "" then
          (.error (.other "Amazon SQS did not return a MessageId"), [message])
        else (.ok ⟨messageId, envelope⟩, [message])

/-! ## `handler.ts` -/

structure HttpResponse where
  statusCode : ℕ
  body : Json

def accepted (envelope : TaskEnvelope) : HttpResponse :=
  ⟨202, .object [("status", .string "accepted"), ("task_id", .string envelope.taskId),
    ("correlation_id", .string envelope.correlationId),
    ("idempotency_key", .string envelope.idempotencyKey)]⟩

def badRequest (message : String) : HttpResponse :=
  ⟨400, .object [("error", .string "bad_request"), ("message", .string message)]⟩

def publishFailed : HttpResponse :=
  ⟨503, .object [("error", .string "task_publish_failed"),
    ("message", .string "Task could not be accepted for asynchronous processing")]⟩

@[simp] theorem statusCode_accepted (envelope : TaskEnvelope) :
    (accepted envelope).statusCode = 202 := rfl

@[simp] theorem statusCode_badRequest (message : String) :
    (badRequest message).statusCode = 400 := rfl

@[simp] theorem statusCode_publishFailed : publishFailed.statusCode = 503 := rfl

def handler (runtime : NodeRuntime) (environment : String → Option String) (event : HttpEvent)
    (draw : EnvelopeDraw) (answer : SendAnswer) : HttpResponse × List SendMessageInput :=
  match parsePublishTaskRequest runtime event with
  | .error e => (badRequest e.message, [])
  | .ok input =>
    match publishTask runtime environment input draw answer with
    | (.ok result, sent) => (accepted result.envelope, sent)
    | (.error .invalidTaskEnvelope, sent) =>
      (badRequest "Task envelope does not satisfy the v1 contract", sent)
    | (.error (.other _), sent) => (publishFailed, sent)

end OpsFlow.TaskPublisher
