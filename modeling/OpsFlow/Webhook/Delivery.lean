import OpsFlow.Notifier.SqsBatch
import OpsFlow.Webhook.Signature

namespace OpsFlow.Webhook
open OpsFlow.Contracts OpsFlow.Notifier

/-! ## The platform -/

/-- What `new URL` makes of a text. -/
structure Url where
  protocol : String
  username : String
  password : String
  href : String

/-- The parts of Node.js that the worker calls; `parseUrl` has no value where `new URL` throws. -/
structure Platform extends Runtime where
  syntaxError : String → String
  parseUrl : String → Option Url
  hmac : String → String → Vector UInt8 32

def SignatureError.toThrown : SignatureError → Thrown
  | .invalidWebhookSigningSecret message => .error "InvalidWebhookSigningSecretError" message
  | .invalidWebhookTimestamp message => .error "InvalidWebhookTimestampError" message

/-! ## The notification -/

/-- A value that the contract allows. -/
structure IncidentUpdatedNotification where
  value : Json
  valid : incidentUpdatedSchema ajv value = true

def IncidentUpdatedNotification.text (notification : IncidentUpdatedNotification) (key : String) :
    String :=
  (string? notification.value key).getD ""

section

variable (platform : Platform)

def validateWebhookNotification (value : Json) : Except Thrown IncidentUpdatedNotification :=
  if h : incidentUpdatedSchema ajv value = true then .ok ⟨value, h⟩
  else .error (.error "InvalidWebhookNotificationError"
    ("incident.updated webhook notification failed v1 contract validation: " ++
      platform.validationErrors value))

/-! ## The request -/

structure WebhookHttpRequest where
  method : String
  url : String
  headers : List (String × String)
  body : String
  deriving DecidableEq

def webhookUserAgent : String := "OpsFlow-Webhook/1.0"

def validateTargetUrl (value : String) : Except Thrown String :=
  let invalid (message : String) : Except Thrown String :=
    .error (.error "InvalidWebhookTargetError" message)
  let normalized := stripped jsSpace value
  if normalized = "" then invalid "Webhook target URL must not be empty."
  else
    match platform.parseUrl normalized with
    | none => invalid "Webhook target URL must be a valid absolute URL."
    | some parsed =>
      if parsed.protocol ≠ "https:" then invalid "Webhook target URL must use HTTPS."
      else if parsed.username ≠ "" ∨ parsed.password ≠ "" then
        invalid "Webhook target URL must not contain embedded credentials."
      else .ok parsed.href

/-- The body is made once; it is what is signed and what is sent. -/
def buildWebhookRequest (notification : IncidentUpdatedNotification) (targetUrl secret : String)
    (timestampSeconds : ℚ) : Except Thrown WebhookHttpRequest := do
  let url ← validateTargetUrl platform targetUrl
  let body := payload platform.toRuntime notification.value
  let signature ← (createWebhookSignature platform.hmac ⟨body, timestampSeconds, secret⟩).mapError
    SignatureError.toThrown
  .ok
    { method := "POST"
      url := url
      headers :=
        [("content-type", "application/json"),
          ("user-agent", webhookUserAgent),
          ("x-opsflow-event-id", notification.text "event_id"),
          ("x-opsflow-event-type", notification.text "type"),
          ("x-opsflow-schema-version", notification.text "schema_version"),
          ("x-opsflow-webhook-timestamp", integerText timestampSeconds),
          ("x-opsflow-webhook-signature", signature)]
      body := body }

/-! ## Sending it -/

def maximumTimeoutMs : ℚ := 30000

inductive WebhookDeliveryFailureKind
  | http
  | network
  | timeout
  deriving DecidableEq

structure WebhookHttpStatusClassification where
  success : Bool
  retryable : Bool
  deriving DecidableEq

structure WebhookDeliveryError where
  message : String
  kind : WebhookDeliveryFailureKind
  retryable : Bool
  statusCode : Option ℕ
  deriving DecidableEq

inductive SendError
  | invalidTimeout (message : String)
  | delivery (error : WebhookDeliveryError)
  deriving DecidableEq

def SendError.toThrown : SendError → Thrown
  | .invalidTimeout message => .error "InvalidWebhookHttpTimeoutError" message
  | .delivery error => .error "WebhookDeliveryError" error.message

/-- What becomes of a request: an answer, or a rejection before or after the timeout. -/
inductive FetchOutcome
  | response (status : ℕ)
  | rejected
  | aborted
  deriving DecidableEq

structure Exchange where
  request : WebhookHttpRequest
  outcome : FetchOutcome
  deriving DecidableEq

def validateTimeout (timeoutMs : ℚ) : Except SendError Unit :=
  if ¬ isSafeInteger timeoutMs ∨ timeoutMs ≤ 0 ∨ timeoutMs > maximumTimeoutMs then
    .error (.invalidTimeout
      ("Webhook HTTP timeout must be a positive safe integer no greater than " ++
        integerText maximumTimeoutMs ++ " milliseconds."))
  else .ok ()

def classifyWebhookHttpStatus (statusCode : ℕ) : WebhookHttpStatusClassification :=
  if 200 ≤ statusCode ∧ statusCode ≤ 299 then ⟨true, false⟩
  else ⟨false, statusCode = 408 ∨ statusCode = 425 ∨ statusCode = 429 ∨
    (500 ≤ statusCode ∧ statusCode ≤ 599)⟩

def deliveryResult (timeoutMs : ℚ) : FetchOutcome → Except WebhookDeliveryError Unit
  | .response status =>
    let classification := classifyWebhookHttpStatus status
    if classification.success then .ok ()
    else .error ⟨"Webhook endpoint returned HTTP " ++ toString status ++ ".", .http,
      classification.retryable, some status⟩
  | .aborted => .error ⟨"Webhook delivery exceeded the " ++ integerText timeoutMs ++ "ms timeout.",
      .timeout, true, none⟩
  | .rejected => .error ⟨"Webhook network request failed.", .network, true, none⟩

/-- The requests that have been sent, and how the call ends. -/
def sendWebhookRequest (request : WebhookHttpRequest) (timeoutMs : ℚ) (outcome : FetchOutcome) :
    List Exchange × Except SendError Unit :=
  match validateTimeout timeoutMs with
  | .error error => ([], .error error)
  | .ok () => ([⟨request, outcome⟩], (deliveryResult timeoutMs outcome).mapError .delivery)

/-! ## The batch -/

structure WebhookBatchDependencies where
  targetUrl : String
  signingSecret : String
  timeoutMs : ℚ

/-- A record, what `nowSeconds` returns for it, and what becomes of a request that is
sent for it. -/
structure RecordRun where
  record : ParsedSqsRecord
  nowSeconds : ℚ
  outcome : FetchOutcome

def processRecord (dependencies : WebhookBatchDependencies) (run : RecordRun) :
    List Exchange × Except Thrown Unit :=
  match Json.parse? run.record.body with
  | none => ([], .error (.error "SyntaxError" (platform.syntaxError run.record.body)))
  | some parsed =>
    match validateWebhookNotification platform parsed with
    | .error error => ([], .error error)
    | .ok notification =>
      match buildWebhookRequest platform notification dependencies.targetUrl
        dependencies.signingSecret run.nowSeconds with
      | .error error => ([], .error error)
      | .ok request =>
        let sent := sendWebhookRequest request dependencies.timeoutMs run.outcome
        (sent.1, sent.2.mapError SendError.toThrown)

inductive LogLine
  | delivered (sqsMessageId : String)
  | deliveryFailed (sqsMessageId : String) (details : ErrorDetails)
  deriving DecidableEq

structure BatchRun where
  batchItemFailures : List BatchItemFailure
  exchanges : List Exchange
  log : List LogLine

def handleRecords (dependencies : WebhookBatchDependencies) : List RecordRun → BatchRun → BatchRun
  | [], done => done
  | run :: runs, done =>
    let processed := processRecord platform dependencies run
    match processed.2 with
    | .ok () => handleRecords dependencies runs
        { done with
          exchanges := done.exchanges ++ processed.1
          log := done.log ++ [.delivered run.record.messageId] }
    | .error error => handleRecords dependencies runs
        { batchItemFailures := done.batchItemFailures ++ [⟨run.record.messageId⟩]
          exchanges := done.exchanges ++ processed.1
          log := done.log ++ [.deliveryFailed run.record.messageId
            (describeError "Unknown webhook delivery error" error)] }

def handleWebhookBatch (dependencies : WebhookBatchDependencies) (runs : List RecordRun) :
    BatchRun :=
  handleRecords platform dependencies runs ⟨[], [], []⟩

end

end OpsFlow.Webhook
