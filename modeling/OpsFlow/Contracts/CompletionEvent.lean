import OpsFlow.Contracts.TaskEnvelope

namespace OpsFlow.Contracts

/-! ## The two contracts of a completed task -/

def incidentStatuses : List String := ["Open", "Investigating", "Monitoring", "Resolved"]

def completedKeys : List String :=
  ["schema_version", "event_type", "event_id", "incident_id", "task_id", "correlation_id", "status",
    "acknowledged_at", "occurred_at"]

open Schema in
def incidentTaskCompletedSchema : Schema := all
  [type [.object],
    additional completedKeys never,
    required completedKeys,
    property "schema_version" (const "1.0"),
    property "event_type" (const "incident.task.completed"),
    property "event_id" (all [type [.string], format .uuid]),
    property "incident_id" (all [type [.string], format .uuid]),
    property "task_id" (all [type [.string], format .uuid]),
    property "correlation_id" (all [type [.string], minLength 1]),
    property "status" (all [type [.string], enum incidentStatuses]),
    property "acknowledged_at" (all [type [.string, .null], format .dateTime]),
    property "occurred_at" (all [type [.string], format .dateTime])]

def updatedKeys : List String :=
  ["type", "schema_version", "event_id", "incident_id", "task_id", "correlation_id", "status",
    "acknowledged_at", "occurred_at"]

open Schema in
def incidentUpdatedSchema : Schema := all
  [type [.object],
    additional updatedKeys never,
    required updatedKeys,
    property "type" (const "incident.updated"),
    property "schema_version" (const "1.0"),
    property "event_id" (all [type [.string], format .uuid]),
    property "incident_id" (all [type [.string], format .uuid]),
    property "task_id" (all [type [.string], format .uuid]),
    property "correlation_id" (all [type [.string], minLength 1]),
    property "status" (all [type [.string], enum incidentStatuses]),
    property "acknowledged_at"
      (oneOf [all [type [.string], format .dateTime], all [type [.null]]]),
    property "occurred_at" (all [type [.string], format .dateTime])]

/-- The engine that reads the formats as their RFCs define them. -/
def rfc : Engine := ⟨Patterns.ecmaTest, rfcFormat⟩

/-! ## What the first one says -/

structure IncidentTaskCompletedEvent where
  schemaVersion : String
  eventType : String
  eventId : String
  incidentId : String
  taskId : String
  correlationId : String
  status : String
  acknowledgedAt : Option String
  occurredAt : String
  deriving DecidableEq

def textOrNull : Option String → Json
  | none => .null
  | some s => .string s

namespace IncidentTaskCompletedEvent

/-- The nine members are the nine fields. -/
structure Read (event : IncidentTaskCompletedEvent) (members : List (String × Json)) : Prop where
  schemaVersion : members.lookup "schema_version" = some (.string event.schemaVersion)
  eventType : members.lookup "event_type" = some (.string event.eventType)
  eventId : members.lookup "event_id" = some (.string event.eventId)
  incidentId : members.lookup "incident_id" = some (.string event.incidentId)
  taskId : members.lookup "task_id" = some (.string event.taskId)
  correlationId : members.lookup "correlation_id" = some (.string event.correlationId)
  status : members.lookup "status" = some (.string event.status)
  acknowledgedAt : members.lookup "acknowledged_at" = some (textOrNull event.acknowledgedAt)
  occurredAt : members.lookup "occurred_at" = some (.string event.occurredAt)

/-- What the two contracts ask of the fields that they share. -/
structure Checked (event : IncidentTaskCompletedEvent) (engine : Engine) : Prop where
  schemaVersion : event.schemaVersion = "1.0"
  eventId : engine.format .uuid event.eventId = true
  incidentId : engine.format .uuid event.incidentId = true
  taskId : engine.format .uuid event.taskId = true
  correlationId : 1 ≤ event.correlationId.length
  status : event.status ∈ incidentStatuses
  acknowledgedAt : ∀ s ∈ event.acknowledgedAt, engine.format .dateTime s = true
  occurredAt : engine.format .dateTime event.occurredAt = true

variable {event event' : IncidentTaskCompletedEvent} {members : List (String × Json)}

theorem textOrNull_inj {s s' : Option String} (h : textOrNull s = textOrNull s') : s = s' := by
  cases s with
  | none =>
    cases s' with
    | none => rfl
    | some s' => simp [textOrNull] at h
  | some s =>
    cases s' with
    | none => simp [textOrNull] at h
    | some s' => simpa [textOrNull] using h

theorem Read.unique (h : event.Read members) (h' : event'.Read members) : event = event' := by
  have hmember {key s s' : String} (hs : members.lookup key = some (.string s))
      (hs' : members.lookup key = some (.string s')) : s = s' :=
    Json.string.inj (Option.some.inj (hs.symm.trans hs'))
  have hacknowledgedAt := textOrNull_inj
    (Option.some.inj (h.acknowledgedAt.symm.trans h'.acknowledgedAt))
  obtain ⟨schemaVersion, eventType, eventId, incidentId, taskId, correlationId, status,
    acknowledgedAt, occurredAt⟩ := event
  obtain rfl := hmember h.schemaVersion h'.schemaVersion
  obtain rfl := hmember h.eventType h'.eventType
  obtain rfl := hmember h.eventId h'.eventId
  obtain rfl := hmember h.incidentId h'.incidentId
  obtain rfl := hmember h.taskId h'.taskId
  obtain rfl := hmember h.correlationId h'.correlationId
  obtain rfl := hmember h.status h'.status
  obtain rfl := hacknowledgedAt
  obtain rfl := hmember h.occurredAt h'.occurredAt
  rfl

end IncidentTaskCompletedEvent

open IncidentTaskCompletedEvent

variable {engine : Engine} {value : Json} {event : IncidentTaskCompletedEvent}
  {members : List (String × Json)}

theorem type_stringOrNull : Schema.type [.string, .null] engine value = true ↔
    ∃ s, value = textOrNull s := by
  cases value with
  | null => exact iff_of_true rfl ⟨none, rfl⟩
  | string s => exact iff_of_true rfl ⟨some s, rfl⟩
  | _ =>
    refine iff_of_false (by simp [Schema.type, jsonType]) ?_
    rintro ⟨_ | s, h⟩
    · contradiction
    · contradiction

theorem format_textOrNull {f : Format} {s : Option String} :
    Schema.format f engine (textOrNull s) = true ↔ ∀ t ∈ s, engine.format f t = true := by
  cases s with
  | none => simp [textOrNull, Schema.format, Schema.onString]
  | some t => simp [textOrNull]

theorem incidentTaskCompletedSchema_iff : incidentTaskCompletedSchema engine value = true ↔
    ∃ members event, value = .object members ∧ Read event members ∧
      event.eventType = "incident.task.completed" ∧ Checked event engine ∧
      ∀ m ∈ members, m.1 ∈ completedKeys := by
  unfold incidentTaskCompletedSchema
  constructor
  · intro h
    simp only [all_cons, all_nil, and_true] at h
    obtain ⟨hobject, hclosed, hrequired, hversion, htype, heventId, hincidentId, htaskId,
      hcorrelationId, hstatus, hacknowledgedAt, hoccurredAt⟩ := h
    obtain ⟨members, rfl⟩ := type_object.mp hobject
    rw [required_object] at hrequired
    have hpresent (key : String) (h : key ∈ completedKeys) := hrequired key h
    obtain ⟨version, hversion'⟩ := hpresent "schema_version" (by decide)
    obtain ⟨type, htype'⟩ := hpresent "event_type" (by decide)
    obtain ⟨acknowledged, hacknowledged⟩ := hpresent "acknowledged_at" (by decide)
    rw [property_of_lookup hversion', const_iff] at hversion
    rw [property_of_lookup htype', const_iff] at htype
    rw [property_of_lookup hacknowledged, all_cons, type_stringOrNull] at hacknowledgedAt
    obtain ⟨⟨acknowledgedAt, rfl⟩, hacknowledgedAt⟩ := hacknowledgedAt
    obtain ⟨eventId, heventId', heventId⟩ :=
      (property_string (hpresent "event_id" (by decide))).mp heventId
    obtain ⟨incidentId, hincidentId', hincidentId⟩ :=
      (property_string (hpresent "incident_id" (by decide))).mp hincidentId
    obtain ⟨taskId, htaskId', htaskId⟩ :=
      (property_string (hpresent "task_id" (by decide))).mp htaskId
    obtain ⟨correlationId, hcorrelationId', hcorrelationId⟩ :=
      (property_string (hpresent "correlation_id" (by decide))).mp hcorrelationId
    obtain ⟨status, hstatus', hstatus⟩ :=
      (property_string (hpresent "status" (by decide))).mp hstatus
    obtain ⟨occurredAt, hoccurredAt', hoccurredAt⟩ :=
      (property_string (hpresent "occurred_at" (by decide))).mp hoccurredAt
    simp only [all_cons, all_nil, and_true, format_string, minLength_string, format_textOrNull]
      at heventId hincidentId htaskId hcorrelationId hoccurredAt hacknowledgedAt
    simp only [all_cons, all_nil, and_true, enum_iff, Json.string.injEq] at hstatus
    obtain ⟨_, hmem, rfl⟩ := hstatus
    refine ⟨members, ⟨"1.0", "incident.task.completed", eventId, incidentId, taskId, correlationId,
      status, acknowledgedAt, occurredAt⟩, rfl,
      ⟨by rw [hversion', hversion], by rw [htype', htype], heventId', hincidentId', htaskId',
        hcorrelationId', hstatus', hacknowledged, hoccurredAt'⟩, rfl,
      ⟨rfl, heventId, hincidentId, htaskId, hcorrelationId, hmem, hacknowledgedAt, hoccurredAt⟩,
      fun m hm => ?_⟩
    obtain hm | hm := additional_object.mp hclosed m hm
    · exact hm
    · contradiction
  · rintro ⟨members, event, rfl, hread, htype, hchecked, hclosed⟩
    simp only [all_cons, all_nil, and_true]
    refine ⟨rfl, additional_object.mpr fun m hm => .inl (hclosed m hm),
      required_object.mpr fun key hkey => ?_, ?_, ?_, ?_, ?_, ?_, ?_, ?_, ?_, ?_⟩
    · simp only [completedKeys, List.mem_cons, List.not_mem_nil, or_false] at hkey
      obtain rfl | rfl | rfl | rfl | rfl | rfl | rfl | rfl | rfl := hkey
      · exact ⟨_, hread.schemaVersion⟩
      · exact ⟨_, hread.eventType⟩
      · exact ⟨_, hread.eventId⟩
      · exact ⟨_, hread.incidentId⟩
      · exact ⟨_, hread.taskId⟩
      · exact ⟨_, hread.correlationId⟩
      · exact ⟨_, hread.status⟩
      · exact ⟨_, hread.acknowledgedAt⟩
      · exact ⟨_, hread.occurredAt⟩
    · simp [property_of_lookup hread.schemaVersion, const_iff, hchecked.schemaVersion]
    · simp [property_of_lookup hread.eventType, const_iff, htype]
    · simp [property_of_lookup hread.eventId, type_string, hchecked.eventId]
    · simp [property_of_lookup hread.incidentId, type_string, hchecked.incidentId]
    · simp [property_of_lookup hread.taskId, type_string, hchecked.taskId]
    · simp [property_of_lookup hread.correlationId, type_string, hchecked.correlationId]
    · simp [property_of_lookup hread.status, type_string, enum_iff, hchecked.status]
    · simp only [property_of_lookup hread.acknowledgedAt, all_cons, all_nil, and_true,
        type_stringOrNull, format_textOrNull]
      exact ⟨⟨_, rfl⟩, hchecked.acknowledgedAt⟩
    · simp [property_of_lookup hread.occurredAt, type_string, hchecked.occurredAt]

end OpsFlow.Contracts
