import OpsFlow.JsonText
import OpsFlow.Text
import OpsFlow.Contracts.CompletionEvent
import OpsFlow.Contracts.Uuids

namespace OpsFlow.Notifier
open OpsFlow.Contracts

/-! ## The parser of the notifier -/

structure InvalidNotificationError where
  message : String
  deriving DecidableEq

def uuidVersion (c : Char) : Bool := c ∈ ['1', '2', '3', '4', '5']

/-- `[89ab]`, in either case. -/
def uuidVariant (c : Char) : Bool := c ∈ ['8', '9', 'a', 'b', 'A', 'B']

def uuidPattern : List (Char → Bool) := uuidShape uuidVersion uuidVariant

/-- Whether `Date.parse` returns a number. It does for every date and time of RFC 3339 but one in a
leap second; what it makes of other texts is up to the engine. -/
def dateParses (other : String → Bool) (s : String) : Bool :=
  match readDateTime s.toList with
  | some t => if t.valid then t.second ≤ 59 else other s
  | none => other s

/-- `null` is no object here, nor is an array. -/
def requireObject (value : Json) : Except InvalidNotificationError (List (String × Json)) :=
  match value with
  | .object members => .ok members
  | _ => .error ⟨"Notification must be a JSON object"⟩

/-- The member is `none` where the object has none of that name. -/
def requireString (value : Option Json) (field : String) : Except InvalidNotificationError String :=
  match value with
  | some (.string s) =>
    if stripped jsSpace s = "" then .error ⟨field ++ " must be a non-empty string"⟩ else .ok s
  | _ => .error ⟨field ++ " must be a non-empty string"⟩

def requireUuid (value : Option Json) (field : String) :
    Except InvalidNotificationError String := do
  let resolved ← requireString value field
  if fits uuidPattern resolved.toList then .ok resolved
  else .error ⟨field ++ " must be a UUID"⟩

def requireDateTime (other : String → Bool) (value : Option Json) (field : String) :
    Except InvalidNotificationError String := do
  let resolved ← requireString value field
  if dateParses other resolved then .ok resolved
  else .error ⟨field ++ " must be an ISO-8601 date-time"⟩

def requireNullableDateTime (other : String → Bool) (value : Option Json) (field : String) :
    Except InvalidNotificationError (Option String) :=
  match value with
  | some .null => .ok none
  | value => (requireDateTime other value field).map some

def requireIncidentStatus (value : Option Json) : Except InvalidNotificationError String := do
  let resolved ← requireString value "status"
  if resolved ∈ incidentStatuses then .ok resolved
  else .error ⟨"status must be one of: " ++ ", ".intercalate incidentStatuses⟩

/-- What is done with a member that must equal a text. -/
def requireConstant (value : Option Json) (field text : String) :
    Except InvalidNotificationError Unit :=
  match value with
  | some (.string s) => if s = text then .ok () else .error ⟨field ++ " must equal " ++ text⟩
  | _ => .error ⟨field ++ " must equal " ++ text⟩

def parseIncidentTaskCompletedEvent (other : String → Bool) (body : String) :
    Except InvalidNotificationError IncidentTaskCompletedEvent :=
  match Json.parse? body with
  | none => .error ⟨"Notification body must contain valid JSON"⟩
  | some candidate => do
    let event ← requireObject candidate
    requireConstant (event.lookup "schema_version") "schema_version" "1.0"
    requireConstant (event.lookup "event_type") "event_type" "incident.task.completed"
    let eventId ← requireUuid (event.lookup "event_id") "event_id"
    let incidentId ← requireUuid (event.lookup "incident_id") "incident_id"
    let taskId ← requireUuid (event.lookup "task_id") "task_id"
    let correlationId ← requireString (event.lookup "correlation_id") "correlation_id"
    let status ← requireIncidentStatus (event.lookup "status")
    let acknowledgedAt ← requireNullableDateTime other (event.lookup "acknowledged_at")
      "acknowledged_at"
    let occurredAt ← requireDateTime other (event.lookup "occurred_at") "occurred_at"
    .ok
      { schemaVersion := "1.0"
        eventType := "incident.task.completed"
        eventId := eventId
        incidentId := incidentId
        taskId := taskId
        correlationId := correlationId
        status := status
        acknowledgedAt := acknowledgedAt
        occurredAt := occurredAt }

def buildRealtimeIncidentMessage (event : IncidentTaskCompletedEvent) : Json :=
  .object [("type", .string "incident.updated"),
    ("schema_version", .string event.schemaVersion),
    ("event_id", .string event.eventId),
    ("incident_id", .string event.incidentId),
    ("task_id", .string event.taskId),
    ("correlation_id", .string event.correlationId),
    ("status", .string event.status),
    ("acknowledged_at", textOrNull event.acknowledgedAt),
    ("occurred_at", .string event.occurredAt)]

/-! ## What each check lets through -/

variable {value : Option Json} {s field text : String} {other : String → Bool}

def Visible (s : String) : Prop := ∃ c ∈ s.toList, jsSpace c = false

theorem visible_iff : Visible s ↔ stripped jsSpace s ≠ "" := by
  rw [ne_eq, stripped_eq_empty]
  simp [Visible]

theorem requireString_eq_ok : requireString value field = .ok s ↔
    value = some (.string s) ∧ Visible s := by
  unfold requireString
  rw [visible_iff]
  split
  · rename_i t
    rw [ite_error_eq_ok, Except.ok.injEq, Option.some.injEq, Json.string.injEq]
    constructor
    · rintro ⟨hne, rfl⟩
      exact ⟨rfl, hne⟩
    · rintro ⟨rfl, hne⟩
      exact ⟨hne, rfl⟩
  · rename_i hnot
    simp only [reduceCtorEq, false_iff]
    exact fun h => hnot s h.1

theorem requireUuid_eq_ok : requireUuid value field = .ok s ↔
    (value = some (.string s) ∧ Visible s) ∧ fits uuidPattern s.toList = true := by
  rw [requireUuid, checked_eq_ok, requireString_eq_ok]

theorem requireDateTime_eq_ok : requireDateTime other value field = .ok s ↔
    (value = some (.string s) ∧ Visible s) ∧ dateParses other s = true := by
  rw [requireDateTime, checked_eq_ok, requireString_eq_ok]

theorem requireIncidentStatus_eq_ok : requireIncidentStatus value = .ok s ↔
    (value = some (.string s) ∧ Visible s) ∧ s ∈ incidentStatuses := by
  rw [requireIncidentStatus, checked_eq_ok, requireString_eq_ok]

theorem requireNullableDateTime_eq_ok {acknowledgedAt : Option String} :
    requireNullableDateTime other value field = .ok acknowledgedAt ↔
      value = some (textOrNull acknowledgedAt) ∧
        ∀ t ∈ acknowledgedAt, Visible t ∧ dateParses other t = true := by
  unfold requireNullableDateTime
  split
  · cases acknowledgedAt with
    | none => simp [textOrNull]
    | some t => simp [textOrNull]
  · -- a value that is not null has to be a date
    rename_i hnotNull
    cases hcheck : requireDateTime other value field with
    | error e =>
      simp only [Except.map, reduceCtorEq, false_iff]
      rintro ⟨hvalue, hall⟩
      cases acknowledgedAt with
      | none => exact hnotNull hvalue
      | some t =>
        have hok : requireDateTime other value field = .ok t :=
          requireDateTime_eq_ok.mpr ⟨⟨hvalue, (hall t rfl).1⟩, (hall t rfl).2⟩
        rw [hcheck] at hok
        contradiction
    | ok t =>
      obtain ⟨⟨rfl, hvisible⟩, hparses⟩ := requireDateTime_eq_ok.mp hcheck
      simp only [Except.map, Except.ok.injEq]
      constructor
      · rintro rfl
        refine ⟨rfl, fun t' ht' => ?_⟩
        obtain rfl := Option.mem_some_iff.mp ht'
        exact ⟨hvisible, hparses⟩
      · rintro ⟨hvalue, -⟩
        cases acknowledgedAt with
        | none => exact absurd hvalue hnotNull
        | some t' =>
          rw [Json.string.inj (Option.some.inj hvalue)]

theorem requireConstant_eq_ok {u : Unit} : requireConstant value field text = .ok u ↔
    value = some (.string text) := by
  unfold requireConstant
  split
  · rename_i t
    split
    · rename_i h
      simp [h]
    · rename_i h
      simp [h]
  · rename_i hnot
    simp only [reduceCtorEq, false_iff]
    exact hnot text

/-! ## What the parser lets through -/

/-- The checks of the parser, on the fields of an event. -/
structure Accepted (other : String → Bool) (event : IncidentTaskCompletedEvent) : Prop where
  schemaVersion : event.schemaVersion = "1.0"
  eventType : event.eventType = "incident.task.completed"
  eventId : Visible event.eventId ∧ fits uuidPattern event.eventId.toList = true
  incidentId : Visible event.incidentId ∧ fits uuidPattern event.incidentId.toList = true
  taskId : Visible event.taskId ∧ fits uuidPattern event.taskId.toList = true
  correlationId : Visible event.correlationId
  status : Visible event.status ∧ event.status ∈ incidentStatuses
  acknowledgedAt : ∀ t ∈ event.acknowledgedAt, Visible t ∧ dateParses other t = true
  occurredAt : Visible event.occurredAt ∧ dateParses other event.occurredAt = true

variable {body : String} {event : IncidentTaskCompletedEvent} {members : List (String × Json)}

theorem parseIncidentTaskCompletedEvent_eq_ok :
    parseIncidentTaskCompletedEvent other body = .ok event ↔
      ∃ members, Json.parse? body = some (.object members) ∧ event.Read members ∧
        Accepted other event := by
  unfold parseIncidentTaskCompletedEvent
  cases hbody : Json.parse? body with
  | none => simp
  | some candidate =>
    cases candidate with
    | object members =>
      simp only [requireObject, bind_eq_ok, requireConstant_eq_ok, requireUuid_eq_ok,
        requireString_eq_ok, requireIncidentStatus_eq_ok, requireNullableDateTime_eq_ok,
        requireDateTime_eq_ok]
      constructor
      · rintro ⟨_, hmembers, _, hversion, _, htype, eventId, ⟨⟨heventId, hv₁⟩, hf₁⟩, incidentId,
          ⟨⟨hincidentId, hv₂⟩, hf₂⟩, taskId, ⟨⟨htaskId, hv₃⟩, hf₃⟩, correlationId,
          ⟨hcorrelationId, hv₄⟩, status, ⟨⟨hstatus, hv₅⟩, hmem⟩, acknowledgedAt,
          ⟨hacknowledgedAt, hall⟩, occurredAt, ⟨⟨hoccurredAt, hv₆⟩, hparses⟩, hok⟩
        obtain rfl := Except.ok.inj hmembers
        obtain rfl := Except.ok.inj hok
        exact ⟨members, rfl, ⟨hversion, htype, heventId, hincidentId, htaskId, hcorrelationId,
          hstatus, hacknowledgedAt, hoccurredAt⟩, ⟨rfl, rfl, ⟨hv₁, hf₁⟩, ⟨hv₂, hf₂⟩, ⟨hv₃, hf₃⟩,
          hv₄, ⟨hv₅, hmem⟩, hall, ⟨hv₆, hparses⟩⟩⟩
      · rintro ⟨_, hmembers, hread, haccepted⟩
        obtain rfl := Json.object.inj (Option.some.inj hmembers)
        refine ⟨members, rfl, (), ?_, (), ?_, _, ⟨⟨hread.eventId, haccepted.eventId.1⟩,
          haccepted.eventId.2⟩, _, ⟨⟨hread.incidentId, haccepted.incidentId.1⟩,
          haccepted.incidentId.2⟩, _, ⟨⟨hread.taskId, haccepted.taskId.1⟩, haccepted.taskId.2⟩, _,
          ⟨hread.correlationId, haccepted.correlationId⟩, _, ⟨⟨hread.status, haccepted.status.1⟩,
          haccepted.status.2⟩, _, ⟨hread.acknowledgedAt, haccepted.acknowledgedAt⟩, _,
          ⟨⟨hread.occurredAt, haccepted.occurredAt.1⟩, haccepted.occurredAt.2⟩, ?_⟩
        · rw [hread.schemaVersion, haccepted.schemaVersion]
        · rw [hread.eventType, haccepted.eventType]
        · rw [← haccepted.schemaVersion, ← haccepted.eventType]
    | _ => simp [requireObject, bind, Except.bind]

/-! ## The message for the clients -/

variable {engine : Engine}

/-- The message is valid where the fields of the event are. -/
theorem incidentUpdatedSchema_build (h : event.Checked engine) :
    incidentUpdatedSchema engine (buildRealtimeIncidentMessage event) = true := by
  have hacknowledged :
      Schema.oneOf [.all [.type [.string], .format .dateTime], .all [.type [.null]]]
      engine (textOrNull event.acknowledgedAt) = true := by
    cases hacknowledgedAt : event.acknowledgedAt with
    | none => rfl
    | some t =>
      have hformat := h.acknowledgedAt t hacknowledgedAt
      simp [Schema.oneOf, textOrNull, type_string, type_null, hformat]
  have hformatted {f : Format} {s : String} (hs : engine.format f s = true) :
      Schema.all [.type [.string], .format f] engine (.string s) = true := by
    simp [type_string, hs]
  unfold incidentUpdatedSchema buildRealtimeIncidentMessage
  simp only [all_cons, all_nil, and_true]
  refine ⟨rfl, additional_object.mpr fun m hm => .inl ?_, required_object.mpr fun key hkey => ?_,
    ?_, ?_, ?_, ?_, ?_, ?_, ?_, ?_, ?_⟩
  · revert m
    simp [updatedKeys]
  · simp only [updatedKeys, List.mem_cons, List.not_mem_nil, or_false] at hkey
    obtain rfl | rfl | rfl | rfl | rfl | rfl | rfl | rfl | rfl := hkey
    all_goals exact ⟨_, rfl⟩
  · exact (property_of_lookup rfl).mpr (const_iff.mpr rfl)
  · exact (property_of_lookup rfl).mpr (const_iff.mpr (congrArg Json.string h.schemaVersion))
  · exact (property_of_lookup rfl).mpr (hformatted h.eventId)
  · exact (property_of_lookup rfl).mpr (hformatted h.incidentId)
  · exact (property_of_lookup rfl).mpr (hformatted h.taskId)
  · exact (property_of_lookup rfl).mpr (by simp [type_string, h.correlationId])
  · exact (property_of_lookup rfl).mpr (by simp [type_string, enum_iff, h.status])
  · exact (property_of_lookup rfl).mpr hacknowledged
  · exact (property_of_lookup rfl).mpr (hformatted h.occurredAt)

end OpsFlow.Notifier
