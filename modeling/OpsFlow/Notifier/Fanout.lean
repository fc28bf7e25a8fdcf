import OpsFlow.Contracts.EnvelopeAgreement
import OpsFlow.Notifier.Notification

namespace OpsFlow.Notifier
open OpsFlow.Contracts

/-! ## What is thrown -/

/-- An `Error`, another object with or without a `name`, or a primitive value. -/
inductive Thrown
  | error (name message : String)
  | object (name : Option String)
  | primitive
  deriving DecidableEq

def isGoneException : Thrown → Bool
  | .error name _ => name = "GoneException"
  | .object name => name = some "GoneException"
  | .primitive => false

structure ErrorDetails where
  errorType : String
  message : String
  deriving DecidableEq

/-- The two `describeError`s differ in the text for what is no `Error`. -/
def describeError (unknown : String) : Thrown → ErrorDetails
  | .error name message => ⟨name, message⟩
  | _ => ⟨"UnknownError", unknown⟩

def describeDeliveryError : Thrown → ErrorDetails := describeError "Unknown delivery error"

def describeDispatchError : Thrown → ErrorDetails :=
  describeError "Unknown notification dispatch error"

/-! ## The message -/

/-- How numbers are written, and how AJV words its errors about a value. -/
structure Runtime where
  number : ℚ → List Char
  validationErrors : Json → String

def validateRealtimeIncidentMessage (runtime : Runtime) (value : Json) : Except Thrown Json :=
  if incidentUpdatedSchema ajv value then .ok value
  else .error (.error "InvalidRealtimeNotificationError"
    ("incident.updated notification failed v1 contract validation: " ++
      runtime.validationErrors value))

def payload (runtime : Runtime) (message : Json) : String :=
  String.ofList (stringify runtime.number message)

/-! ## The broadcast -/

structure ConnectionRecord where
  channel : String
  connectionId : String
  domainName : String
  stage : String
  deriving DecidableEq

/-- A stored connection, and what becomes of the calls that are made for it. -/
structure Attempt where
  connection : ConnectionRecord
  post : Except Thrown Unit
  cleanup : Except Thrown Unit

/-- `PostToConnectionCommand`, and the endpoint that it is sent to. -/
structure PostToConnection where
  endpoint : String
  connectionId : String
  data : String
  deriving DecidableEq

def buildManagementEndpoint (connection : ConnectionRecord) : String :=
  "https://" ++ connection.domainName ++ "/" ++ connection.stage

def postToConnection (connection : ConnectionRecord) (payload : String) : PostToConnection :=
  ⟨buildManagementEndpoint connection, connection.connectionId, payload⟩

inductive Action
  | post (command : PostToConnection)
  | delete (connectionId : String)
  | cleanupFailed (connectionId : String) (details : ErrorDetails)
  | skipped (connection : ConnectionRecord) (targetChannel : String)
  deriving DecidableEq

structure RealtimeConnectionDeliveryFailure where
  connectionId : String
  details : ErrorDetails
  deriving DecidableEq

/-- The loop over the connections; the last two arguments are `failures` and what has been done. -/
def deliverAll (targetChannel payload : String) : List Attempt →
    List RealtimeConnectionDeliveryFailure → List Action →
    List RealtimeConnectionDeliveryFailure × List Action
  | [], failures, actions => (failures, actions)
  | attempt :: attempts, failures, actions =>
    if attempt.connection.channel ≠ targetChannel then
      deliverAll targetChannel payload attempts failures
        (actions ++ [.skipped attempt.connection targetChannel])
    else
      let posted := actions ++ [.post (postToConnection attempt.connection payload)]
      match attempt.post with
      | .ok () => deliverAll targetChannel payload attempts failures posted
      | .error error =>
        if isGoneException error then
          let deleted := posted ++ [.delete attempt.connection.connectionId]
          match attempt.cleanup with
          | .ok () => deliverAll targetChannel payload attempts failures deleted
          | .error cleanupError =>
            deliverAll targetChannel payload attempts failures
              (deleted ++ [.cleanupFailed attempt.connection.connectionId
                (describeDeliveryError cleanupError)])
        else
          deliverAll targetChannel payload attempts
            (failures ++ [⟨attempt.connection.connectionId, describeDeliveryError error⟩]) posted

structure RealtimeFanoutDeliveryError where
  eventId : String
  failures : List RealtimeConnectionDeliveryFailure
  deriving DecidableEq

def RealtimeFanoutDeliveryError.toThrown (e : RealtimeFanoutDeliveryError) : Thrown :=
  .error "RealtimeFanoutDeliveryError" ("Realtime notification " ++ e.eventId ++ " failed for " ++
    toString e.failures.length ++ " connection(s): " ++
    ", ".intercalate (e.failures.map RealtimeConnectionDeliveryFailure.connectionId))

inductive BroadcastError
  | thrown (error : Thrown)
  | fanout (error : RealtimeFanoutDeliveryError)
  deriving DecidableEq

def BroadcastError.toThrown : BroadcastError → Thrown
  | .thrown error => error
  | .fanout error => error.toThrown

/-- The channel, and the connections of its partition; there may be none of them to be had. -/
structure BroadcastDependencies where
  targetChannel : String
  listConnections : Except Thrown (List Attempt)

structure Broadcast where
  result : Except BroadcastError Unit
  actions : List Action

section

variable (runtime : Runtime) (event : IncidentTaskCompletedEvent)

/-- The dependencies are an error where the configuration is not in order. -/
def broadcastIncidentTaskCompletedEvent (dependencies : Except Thrown BroadcastDependencies) :
    Broadcast :=
  match dependencies with
  | .error error => ⟨.error (.thrown error), []⟩
  | .ok resolvedDependencies =>
    match validateRealtimeIncidentMessage runtime (buildRealtimeIncidentMessage event) with
    | .error error => ⟨.error (.thrown error), []⟩
    | .ok message =>
      match resolvedDependencies.listConnections with
      | .error error => ⟨.error (.thrown error), []⟩
      | .ok connections =>
        match deliverAll resolvedDependencies.targetChannel (payload runtime message) connections
          [] [] with
        | ([], actions) => ⟨.ok (), actions⟩
        | (failure :: failures, actions) =>
          -- the message carries the `event_id` of the event
          ⟨.error (.fanout ⟨event.eventId, failure :: failures⟩), actions⟩

/-! ## The hand-off to the webhook worker -/

structure SqsMessage where
  queueUrl : String
  messageBody : String
  deriving DecidableEq

structure WebhookHandoff where
  queueUrl : Option String
  sendMessage : Except Thrown Unit

def requireWebhookNotificationQueueUrl (value : Option String) : Except Thrown String :=
  match value.map (stripped jsSpace) with
  | none | some "" => .error (.error "WebhookHandoffConfigurationError"
      "WEBHOOK_NOTIFICATION_QUEUE_URL must be configured.")
  | some queueUrl => .ok queueUrl

/-- The messages that have been sent, and how the call ends. -/
def enqueueWebhookNotification (notification : Json) (handoff : WebhookHandoff) :
    Except Thrown Unit × List SqsMessage :=
  match requireWebhookNotificationQueueUrl handoff.queueUrl with
  | .error error => (.error error, [])
  | .ok queueUrl =>
    match validateRealtimeIncidentMessage runtime notification with
    | .error error => (.error error, [])
    | .ok validated => (handoff.sendMessage, [⟨queueUrl, payload runtime validated⟩])

/-! ## The dispatcher -/

inductive NotificationDispatchChannel
  | websocket
  | webhook
  deriving DecidableEq

def NotificationDispatchChannel.text : NotificationDispatchChannel → String
  | .websocket => "websocket"
  | .webhook => "webhook"

structure NotificationDispatchFailure where
  channel : NotificationDispatchChannel
  details : ErrorDetails
  deriving DecidableEq

structure NotificationDispatchError where
  eventId : String
  failures : List NotificationDispatchFailure
  deriving DecidableEq

def NotificationDispatchError.toThrown (e : NotificationDispatchError) : Thrown :=
  .error "NotificationDispatchError" ("Notification dispatch failed for event " ++ e.eventId ++
    " on channel(s): " ++ ", ".intercalate (e.failures.map fun failure => failure.channel.text))

inductive DispatchError
  | thrown (error : Thrown)
  | failed (error : NotificationDispatchError)
  deriving DecidableEq

def DispatchError.toThrown : DispatchError → Thrown
  | .thrown error => error
  | .failed error => error.toThrown

structure DispatcherDependencies where
  broadcast : Except Thrown BroadcastDependencies
  webhook : WebhookHandoff

/-- The calls of the two channels; they share nothing that either of them writes. -/
structure Dispatch where
  result : Except DispatchError Unit
  broadcasts : List Broadcast
  handoffs : List (Json × List SqsMessage)

def rejection (channel : NotificationDispatchChannel) :
    Except Thrown Unit → List NotificationDispatchFailure
  | .ok () => []
  | .error reason => [⟨channel, describeDispatchError reason⟩]

/-- `Promise.allSettled` starts both channels, and waits for both. -/
def dispatchIncidentTaskCompletedEvent (dependencies : DispatcherDependencies) : Dispatch :=
  match validateRealtimeIncidentMessage runtime (buildRealtimeIncidentMessage event) with
  | .error error => ⟨.error (.thrown error), [], []⟩
  | .ok publicNotification =>
    let websocket := broadcastIncidentTaskCompletedEvent runtime event dependencies.broadcast
    let webhook := enqueueWebhookNotification runtime publicNotification dependencies.webhook
    let failures := rejection .websocket (websocket.result.mapError BroadcastError.toThrown) ++
      rejection .webhook webhook.1
    { result :=
        if failures = [] then .ok () else .error (.failed ⟨event.eventId, failures⟩)
      broadcasts := [websocket]
      handoffs := [(publicNotification, webhook.2)] }

end

end OpsFlow.Notifier
