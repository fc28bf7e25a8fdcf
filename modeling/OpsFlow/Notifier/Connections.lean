import OpsFlow.Contracts.IsoDates
import OpsFlow.Library.LaggingStore
import OpsFlow.Library.Transition
import OpsFlow.Notifier.SqsBatch
import Mathlib.Data.String.Basic

namespace OpsFlow.Notifier
open OpsFlow.Contracts LaggingStore

/-! ## The configuration -/

structure RealtimeNotifierConfig where
  connectionsTableName : String
  connectionTtlSeconds : ℕ
  websocketChannel : String
  connectionsTableName_ne : connectionsTableName ≠ ""
  connectionTtlSeconds_pos : 0 < connectionTtlSeconds
  websocketChannel_ne : websocketChannel ≠ ""

def configurationError (message : String) : Thrown :=
  .error "RealtimeNotifierConfigurationError" message

def requireEnvironmentVariable (environment : String → Option String) (name : String) :
    Except Thrown { value : String // value ≠ "" } :=
  match (environment name).map (stripped jsSpace) with
  | some value =>
    if h : value = "" then .error (configurationError (name ++ " must be configured"))
    else .ok ⟨value, h⟩
  | none => .error (configurationError (name ++ " must be configured"))

/-- `number` is ECMAScript's `Number`, where that is finite. -/
def requirePositiveInteger (number : String → Option ℚ) (environment : String → Option String)
    (name : String) : Except Thrown { n : ℕ // 0 < n } := do
  let rawValue ← requireEnvironmentVariable environment name
  match number rawValue with
  | some value =>
    if h : value.den = 1 ∧ 0 < value.num then
      .ok ⟨value.num.toNat, Int.lt_toNat.mpr h.2⟩
    else .error (configurationError (name ++ " must be a positive integer"))
  | none => .error (configurationError (name ++ " must be a positive integer"))

def loadRealtimeNotifierConfig (number : String → Option ℚ) (environment : String → Option String) :
    Except Thrown RealtimeNotifierConfig := do
  let connectionsTableName ← requireEnvironmentVariable environment
    "WEBSOCKET_CONNECTIONS_TABLE_NAME"
  let connectionTtlSeconds ← requirePositiveInteger number environment
    "WEBSOCKET_CONNECTION_TTL_SECONDS"
  let websocketChannel ← requireEnvironmentVariable environment "WEBSOCKET_CHANNEL"
  .ok
    { connectionsTableName := connectionsTableName
      connectionTtlSeconds := connectionTtlSeconds
      websocketChannel := websocketChannel
      connectionsTableName_ne := connectionsTableName.2
      connectionTtlSeconds_pos := connectionTtlSeconds.2
      websocketChannel_ne := websocketChannel.2 }

/-! ## The stored connections -/

abbrev Item := List (String × Json)

structure StoredConnection where
  connection : ConnectionRecord
  connectedAt : String
  expiresAt : ℚ
  deriving DecidableEq

def StoredConnection.item (record : StoredConnection) : Item :=
  [("channel", .string record.connection.channel),
    ("connection_id", .string record.connection.connectionId),
    ("domain_name", .string record.connection.domainName),
    ("stage", .string record.connection.stage),
    ("connected_at", .string record.connectedAt),
    ("expires_at", .number record.expiresAt)]

def missing (field : String) : Thrown :=
  .error "Error" ("Stored WebSocket connection is missing " ++ field)

def requireStoredString (value : Option Json) (field : String) : Except Thrown String :=
  match value with
  | some (.string s) => if s = "" then .error (missing field) else .ok s
  | _ => .error (missing field)

def requireStoredNumber (value : Option Json) (field : String) : Except Thrown ℚ :=
  match value with
  | some (.number q) => .ok q
  | _ => .error (missing field)

def toConnectionRecord (item : Item) : Except Thrown StoredConnection := do
  let channel ← requireStoredString (item.lookup "channel") "channel"
  let connectionId ← requireStoredString (item.lookup "connection_id") "connection_id"
  let domainName ← requireStoredString (item.lookup "domain_name") "domain_name"
  let stage ← requireStoredString (item.lookup "stage") "stage"
  let connectedAt ← requireStoredString (item.lookup "connected_at") "connected_at"
  let expiresAt ← requireStoredNumber (item.lookup "expires_at") "expires_at"
  .ok ⟨⟨channel, connectionId, domainName, stage⟩, connectedAt, expiresAt⟩

structure SaveConnectionInput where
  connectionId : String
  domainName : String
  stage : String

/-- The commands to the table; all of them name the channel of the configuration. -/
inductive TableCommand
  | put (tableName : String) (record : StoredConnection)
  | delete (tableName channel connectionId : String)

variable (config : RealtimeNotifierConfig)

/-- `now` is in milliseconds. -/
def saveConnection (now : ℕ) (input : SaveConnectionInput) : TableCommand :=
  .put config.connectionsTableName
    { connection :=
        { channel := config.websocketChannel
          connectionId := input.connectionId
          domainName := input.domainName
          stage := input.stage }
      connectedAt := toISOString now
      expiresAt := (now / 1000 + config.connectionTtlSeconds : ℕ) }

def deleteConnection (connectionId : String) : TableCommand :=
  .delete config.connectionsTableName config.websocketChannel connectionId

/-! ## The events of the WebSocket API -/

structure RequestContext where
  routeKey : String
  connectionId : String
  domainName : String
  stage : String
  deriving DecidableEq

def isSqsEvent (event : Json) : Bool :=
  match event with
  | .object members =>
    match members.lookup "Records" with
    | some (.array _) => true
    | _ => false
  | _ => false

def requireContextString (context : List (String × Json)) (field : String) : Except Thrown String :=
  match context.lookup field with
  | some (.string s) =>
    if s = "" then .error (.error "Error" ("WebSocket requestContext must contain " ++ field))
    else .ok s
  | _ => .error (.error "Error" ("WebSocket requestContext must contain " ++ field))

def parseWebSocketEvent (event : Json) : Except Thrown RequestContext :=
  match event with
  | .object members =>
    match members.lookup "requestContext" with
    | some (.object requestContext) => do
      let routeKey ← requireContextString requestContext "routeKey"
      let connectionId ← requireContextString requestContext "connectionId"
      let domainName ← requireContextString requestContext "domainName"
      let stage ← requireContextString requestContext "stage"
      .ok ⟨routeKey, connectionId, domainName, stage⟩
    | _ => .error (.error "Error" "WebSocket event must contain requestContext")
  | _ => .error (.error "Error" "WebSocket event must be an object")

structure WebSocketResult where
  statusCode : ℕ
  body : Option String

/-- The result, and the command that is sent to the table; `answer` is what becomes of it. -/
def handleWebSocketEvent (now : ℕ) (event : Json) (answer : Except Thrown Unit) :
    Except Thrown WebSocketResult × Option TableCommand :=
  match parseWebSocketEvent event with
  | .error error => (.error error, none)
  | .ok context =>
    if context.routeKey = "$connect" then
      (answer.map fun () => ⟨200, none⟩,
        some (saveConnection config now ⟨context.connectionId, context.domainName, context.stage⟩))
    else if context.routeKey = "$disconnect" then
      (answer.map fun () => ⟨200, none⟩, some (deleteConnection config context.connectionId))
    else
      (.ok ⟨200, some (String.ofList
        (stringify (fun _ => []) (.object [("status", .string "ignored")])))⟩, none)

/-! ## A broadcast, call by call -/

inductive Phase
  | listing (exclusiveStartKey : Option String) (connections : List StoredConnection)
  | delivering (remaining : List StoredConnection)
      (failures : List RealtimeConnectionDeliveryFailure) (actions : List Action)
  | cleaning (connection : StoredConnection) (remaining : List StoredConnection)
      (failures : List RealtimeConnectionDeliveryFailure) (actions : List Action)
  | thrown (error : Thrown)

/-- `listConnections`, after a page that ends at the key `lastEvaluatedKey`. -/
def afterPage (connections : List StoredConnection) (page : List (String × Item))
    (lastEvaluatedKey : Option String) : Phase :=
  match page.mapM fun item => toConnectionRecord item.2 with
  | .error error => .thrown error
  | .ok records =>
    match lastEvaluatedKey with
    | some key => .listing (some key) (connections ++ records)
    | none => .delivering (connections ++ records) [] []

def afterPost (payload : String) (connection : StoredConnection)
    (remaining : List StoredConnection) (failures : List RealtimeConnectionDeliveryFailure)
    (actions : List Action) (answer : Except Thrown Unit) : Phase :=
  let posted := actions ++ [.post (postToConnection connection.connection payload)]
  match answer with
  | .ok () => .delivering remaining failures posted
  | .error error =>
    if isGoneException error then .cleaning connection remaining failures posted
    else .delivering remaining
      (failures ++ [⟨connection.connection.connectionId, describeDeliveryError error⟩]) posted

def afterCleanup (connection : StoredConnection) (remaining : List StoredConnection)
    (failures : List RealtimeConnectionDeliveryFailure) (actions : List Action)
    (answer : Except Thrown Unit) : Phase :=
  let deleted := actions ++ [.delete connection.connection.connectionId]
  match answer with
  | .ok () => .delivering remaining failures deleted
  | .error cleanupError => .delivering remaining failures (deleted ++
      [.cleanupFailed connection.connection.connectionId (describeDeliveryError cleanupError)])

structure Process where
  event : IncidentTaskCompletedEvent
  phase : Phase

/-! ## The system -/

/-- The clock, in milliseconds; the connections of the channel; and the broadcasts. -/
structure System where
  now : ℕ
  table : Store String Item
  processes : ℕ → Option Process

def System.init : System := ⟨0, .empty, fun _ => none⟩

/-- A write that fails may have been made all the same. -/
inductive WriteAnswer
  | done
  | failed (error : Thrown) (applied : Bool)

def WriteAnswer.result : WriteAnswer → Except Thrown Unit
  | .done => .ok ()
  | .failed error _ => .error error

def WriteAnswer.applied : WriteAnswer → Bool
  | .done => true
  | .failed _ applied => applied

namespace System

def write (s : System) (command : TableCommand) (answer : WriteAnswer) : System :=
  if answer.applied then
    match command with
    | .put _ record =>
      { s with table := s.table.write record.connection.connectionId (some record.item) }
    | .delete _ _ connectionId => { s with table := s.table.write connectionId none }
  else s

def setPhase (s : System) (i : ℕ) (event : IncidentTaskCompletedEvent) (phase : Phase) : System :=
  { s with processes := Function.update s.processes i (some ⟨event, phase⟩) }

end System

inductive Label
  | pass (ms : ℕ)
  | webSocket (event : Json) (answer : WriteAnswer)
  | expire (connectionId : String)
  | settle (connectionId : String)
  | broadcast (i : ℕ) (event : IncidentTaskCompletedEvent)
  | page (i : ℕ)
  | pageFailed (i : ℕ) (error : Thrown)
  | skip (i : ℕ)
  | post (i : ℕ) (answer : Except Thrown Unit)
  | cleanup (i : ℕ) (connectionId : String) (answer : WriteAnswer)

variable (runtime : Runtime)

/-- What any number of invocations do, one call at a time. Time to live removes an item some time
after it has expired; a query is a view of the table as it can be read at that moment. -/
inductive Step : System → Label → System → Prop
  | pass (s : System) (ms : ℕ) : Step s (.pass ms) { s with now := s.now + ms }
  | webSocket {s : System} {event : Json} (answer : WriteAnswer) {command : TableCommand}
      (hevent : isSqsEvent event = false)
      (hcommand : (handleWebSocketEvent config s.now event answer.result).2 = some command) :
      Step s (.webSocket event answer) (s.write command answer)
  | webSocketIgnored {s : System} {event : Json} (answer : WriteAnswer)
      (hevent : isSqsEvent event = false)
      (hcommand : (handleWebSocketEvent config s.now event answer.result).2 = none) :
      Step s (.webSocket event answer) s
  | expire {s : System} {connectionId : String} {item : Item} {expiresAt : ℚ}
      (hitem : s.table.newest connectionId = some item)
      (hexpires : item.lookup "expires_at" = some (.number expiresAt))
      (hexpired : expiresAt * 1000 < s.now) :
      Step s (.expire connectionId) { s with table := s.table.write connectionId none }
  | settle (s : System) (connectionId : String) :
      Step s (.settle connectionId) { s with table := s.table.settle connectionId }
  | broadcast {s : System} {i : ℕ} {event : IncidentTaskCompletedEvent}
      (hnew : s.processes i = none) (hvalid : ValidEvent event) :
      Step s (.broadcast i event) (s.setPhase i event (.listing none []))
  | page {s : System} {i : ℕ} {event : IncidentTaskCompletedEvent} {start last : Option String}
      {connections : List StoredConnection} {items page : List (String × Item)}
      (hphase : s.processes i = some ⟨event, .listing start connections⟩)
      (hview : View s.table items) (hpage : Page items start page last) :
      Step s (.page i) (s.setPhase i event (afterPage connections page last))
  | pageFailed {s : System} {i : ℕ} {event : IncidentTaskCompletedEvent} {start : Option String}
      {connections : List StoredConnection} (error : Thrown)
      (hphase : s.processes i = some ⟨event, .listing start connections⟩) :
      Step s (.pageFailed i error) (s.setPhase i event (.thrown error))
  | skip {s : System} {i : ℕ} {event : IncidentTaskCompletedEvent} {connection : StoredConnection}
      {remaining : List StoredConnection} {failures : List RealtimeConnectionDeliveryFailure}
      {actions : List Action}
      (hphase : s.processes i =
        some ⟨event, .delivering (connection :: remaining) failures actions⟩)
      (hchannel : connection.connection.channel ≠ config.websocketChannel) :
      Step s (.skip i) (s.setPhase i event (.delivering remaining failures
        (actions ++ [.skipped connection.connection config.websocketChannel])))
  | post {s : System} {i : ℕ} {event : IncidentTaskCompletedEvent} {connection : StoredConnection}
      {remaining : List StoredConnection} {failures : List RealtimeConnectionDeliveryFailure}
      {actions : List Action} (answer : Except Thrown Unit)
      (hphase : s.processes i =
        some ⟨event, .delivering (connection :: remaining) failures actions⟩)
      (hchannel : connection.connection.channel = config.websocketChannel) :
      Step s (.post i answer) (s.setPhase i event
        (afterPost (payload runtime (buildRealtimeIncidentMessage event)) connection remaining
          failures actions answer))
  | cleanup {s : System} {i : ℕ} {event : IncidentTaskCompletedEvent}
    {connection : StoredConnection}
      {remaining : List StoredConnection} {failures : List RealtimeConnectionDeliveryFailure}
      {actions : List Action} (answer : WriteAnswer)
      (hphase : s.processes i = some ⟨event, .cleaning connection remaining failures actions⟩) :
      Step s (.cleanup i connection.connection.connectionId answer)
        ((s.write (deleteConnection config connection.connection.connectionId) answer).setPhase i
          event (afterCleanup connection remaining failures actions answer.result))

end OpsFlow.Notifier
