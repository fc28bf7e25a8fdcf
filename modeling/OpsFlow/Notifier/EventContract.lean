import OpsFlow.Contracts.Instants
import OpsFlow.Notifier.Notification

namespace OpsFlow.Notifier
open OpsFlow.Contracts

/-! ## The events that the parser takes, among the valid ones -/

/-- The UUID is of version 1 to 5, and of the variant of RFC 4122. -/
def Versioned (s : String) : Prop :=
  (∃ c ∈ s.toList[14]?, uuidVersion c = true) ∧ ∃ c ∈ s.toList[19]?, uuidVariant c = true

def LeapSecond (s : String) : Prop := ∃ t, readDateTime s.toList = some t ∧ t.second = 60

structure Covered (event : IncidentTaskCompletedEvent) : Prop where
  eventId : Versioned event.eventId
  incidentId : Versioned event.incidentId
  taskId : Versioned event.taskId
  correlationId : Visible event.correlationId
  acknowledgedAt : ∀ s ∈ event.acknowledgedAt, ¬ LeapSecond s
  occurredAt : ¬ LeapSecond event.occurredAt

variable {s : String} {other : String → Bool} {event : IncidentTaskCompletedEvent}

theorem visible_of_head {c : Char} (h : s.toList[0]? = some c) (hspace : jsSpace c = false) :
    Visible s :=
  ⟨c, List.mem_of_getElem? h, hspace⟩

theorem hexChars_not_space : ∀ c ∈ hexChars, jsSpace c = false := by decide

theorem visible_uuid (h : rfcFormat .uuid s = true) : Visible s := by
  obtain ⟨c, hc, hhex⟩ := fits_getElem? (p := hex) (i := 0) h rfl
  exact visible_of_head hc (hexChars_not_space c (hex_iff.mp hhex))

/-- The two digits that the pattern asks for are all that the format leaves open. -/
theorem fits_uuidPattern_iff (h : rfcFormat .uuid s = true) :
    fits uuidPattern s.toList = true ↔ Versioned s := by
  constructor
  · intro hfits
    obtain ⟨v, hv, hversion⟩ := fits_getElem? (p := uuidVersion) (i := 14) hfits rfl
    obtain ⟨w, hw, hvariant⟩ := fits_getElem? (p := uuidVariant) (i := 19) hfits rfl
    exact ⟨⟨v, hv, hversion⟩, w, hw, hvariant⟩
  · rintro ⟨⟨v', hv', hversion⟩, w', hw', hvariant⟩
    obtain ⟨a, b, v, c, w, d, e, hs, ha, hb, hv, hc, hw, hd, he⟩ := fits_uuidShape.mp h
    have hv'' : s.toList[14]? = some v := by
      rw [hs]
      simp [List.getElem?_append, ha.1, hb.1]
    have hw'' : s.toList[19]? = some w := by
      rw [hs]
      simp [List.getElem?_append, ha.1, hb.1, hc.1]
    obtain rfl := Option.some.inj (hv''.symm.trans hv')
    obtain rfl := Option.some.inj (hw''.symm.trans hw')
    exact fits_uuidShape.mpr ⟨a, b, v, c, w, d, e, hs, ha, hb, hversion, hc, hvariant, hd, he⟩

theorem digits_not_space : ∀ c ∈ digits, jsSpace c = false := by decide

theorem visible_dateTime (h : rfcFormat .dateTime s = true) : Visible s := by
  obtain ⟨t, hread, -⟩ := rfcFormat_dateTime.mp h
  obtain ⟨c, hc, hdigit⟩ := readDateTime_head hread
  exact visible_of_head hc (digits_not_space c (digit_iff.mp hdigit))

/-- Of the valid dates and times, `Date.parse` refuses those in a leap second. -/
theorem dateParses_iff (h : rfcFormat .dateTime s = true) :
    dateParses other s = true ↔ ¬ LeapSecond s := by
  obtain ⟨t, hread, hvalid⟩ := rfcFormat_dateTime.mp h
  have hparses : dateParses other s = decide (t.second ≤ 59) := by
    simp [dateParses, hread, hvalid]
  have hsecond : t.second ≤ 59 ∨ t.second = 60 := by
    have hrules := of_decide_eq_true hvalid
    obtain hle | ⟨heq, -⟩ := hrules.2.2.2.2.2.2.2
    · exact .inl hle
    · exact .inr heq
  rw [hparses, decide_eq_true_eq]
  constructor
  · rintro hle ⟨t', hread', heq⟩
    obtain rfl := Option.some.inj (hread.symm.trans hread')
    omega
  · intro hnot
    exact hsecond.resolve_right fun heq => hnot ⟨t, hread, heq⟩

theorem visible_status (h : s ∈ incidentStatuses) : Visible s := by
  simp only [incidentStatuses, List.mem_cons, List.not_mem_nil, or_false] at h
  obtain rfl | rfl | rfl | rfl := h
  · exact visible_of_head (c := 'O') (by decide) (by decide)
  · exact visible_of_head (c := 'I') (by decide) (by decide)
  · exact visible_of_head (c := 'M') (by decide) (by decide)
  · exact visible_of_head (c := 'R') (by decide) (by decide)

/-- Among the fields that the contract allows, the parser takes those that are covered. -/
theorem accepted_iff (h : event.Checked rfc)
    (htype : event.eventType = "incident.task.completed") :
    Accepted other event ↔ Covered event := by
  constructor
  · intro haccepted
    exact
      { eventId := (fits_uuidPattern_iff h.eventId).mp haccepted.eventId.2
        incidentId := (fits_uuidPattern_iff h.incidentId).mp haccepted.incidentId.2
        taskId := (fits_uuidPattern_iff h.taskId).mp haccepted.taskId.2
        correlationId := haccepted.correlationId
        acknowledgedAt := fun s hs =>
          (dateParses_iff (h.acknowledgedAt s hs)).mp (haccepted.acknowledgedAt s hs).2
        occurredAt := (dateParses_iff h.occurredAt).mp haccepted.occurredAt.2 }
  · intro hcovered
    exact
      { schemaVersion := h.schemaVersion
        eventType := htype
        eventId := ⟨visible_uuid h.eventId, (fits_uuidPattern_iff h.eventId).mpr hcovered.eventId⟩
        incidentId := ⟨visible_uuid h.incidentId,
          (fits_uuidPattern_iff h.incidentId).mpr hcovered.incidentId⟩
        taskId := ⟨visible_uuid h.taskId, (fits_uuidPattern_iff h.taskId).mpr hcovered.taskId⟩
        correlationId := hcovered.correlationId
        status := ⟨visible_status h.status, h.status⟩
        acknowledgedAt := fun s hs => ⟨visible_dateTime (h.acknowledgedAt s hs),
          (dateParses_iff (h.acknowledgedAt s hs)).mpr (hcovered.acknowledgedAt s hs)⟩
        occurredAt := ⟨visible_dateTime h.occurredAt,
          (dateParses_iff h.occurredAt).mpr hcovered.occurredAt⟩ }

/-- A valid event comes through with its nine fields, and makes a valid message, if and only if it
is covered. -/
theorem completed_event_accepted_iff (other : String → Bool) {body : String} {value : Json}
    (hbody : Json.parse? body = some value)
    (hvalid : incidentTaskCompletedSchema rfc value = true) :
    (∃ members event, value = .object members ∧
        parseIncidentTaskCompletedEvent other body = .ok event ∧ event.Read members ∧
        incidentUpdatedSchema rfc (buildRealtimeIncidentMessage event) = true) ↔
      ∀ members (event : IncidentTaskCompletedEvent), value = .object members →
        event.Read members → Covered event := by
  obtain ⟨members, event, rfl, hread, htype, hchecked, -⟩ :=
    incidentTaskCompletedSchema_iff.mp hvalid
  constructor
  · rintro ⟨_, parsed, hvalue, hparse, -, -⟩ _ event' hvalue' hread'
    obtain rfl := Json.object.inj hvalue'
    obtain rfl := hread'.unique hread
    obtain ⟨_, hbody', hparsed, haccepted⟩ := parseIncidentTaskCompletedEvent_eq_ok.mp hparse
    rw [hbody] at hbody'
    obtain rfl := Json.object.inj (Option.some.inj hbody')
    rw [hparsed.unique hread] at haccepted
    exact (accepted_iff hchecked htype).mp haccepted
  · intro hcovered
    have haccepted : Accepted other event :=
      (accepted_iff hchecked htype).mpr (hcovered members event rfl hread)
    exact ⟨members, event, rfl,
      parseIncidentTaskCompletedEvent_eq_ok.mpr ⟨members, hbody, hread, haccepted⟩, hread,
      incidentUpdatedSchema_build hchecked⟩

/-! ## Two events -/

def eventMembers (event : IncidentTaskCompletedEvent) : List (String × Json) :=
  [("acknowledged_at", textOrNull event.acknowledgedAt),
    ("correlation_id", .string event.correlationId),
    ("event_id", .string event.eventId),
    ("event_type", .string event.eventType),
    ("incident_id", .string event.incidentId),
    ("occurred_at", .string event.occurredAt),
    ("schema_version", .string event.schemaVersion),
    ("status", .string event.status),
    ("task_id", .string event.taskId)]

theorem eventMembers_read (event : IncidentTaskCompletedEvent) :
    event.Read (eventMembers event) := by
  constructor
  all_goals rfl

theorem eventMembers_valid (h : event.Checked rfc)
    (htype : event.eventType = "incident.task.completed") :
    incidentTaskCompletedSchema rfc (.object (eventMembers event)) = true :=
  incidentTaskCompletedSchema_iff.mpr ⟨_, event, rfl, eventMembers_read event, htype, h, by
    simp [eventMembers, completedKeys]⟩

theorem eventMembers_flat {m : String × Json} (hm : m ∈ eventMembers event) : m.2.flat := by
  simp only [eventMembers, List.mem_cons, List.not_mem_nil, or_false] at hm
  obtain rfl | rfl | rfl | rfl | rfl | rfl | rfl | rfl | rfl := hm
  · cases event.acknowledgedAt with
    | none => trivial
    | some s => trivial
  all_goals trivial

def noNumber : ℚ → List Char := fun _ => []

/-- The text of an event is read back. -/
theorem parse?_eventMembers (number : ℚ → List Char) (event : IncidentTaskCompletedEvent) :
    Json.parse? (String.ofList (dumps number (.object (eventMembers event)))) =
      some (.object (eventMembers event)) := by
  have hsorted : sortedMembers (eventMembers event) = eventMembers event :=
    List.Pairwise.insertionSort_eq (by simp [eventMembers])
  have hne : eventMembers event ≠ [] := List.cons_ne_nil _ _
  have hnodup : ((eventMembers event).map Prod.fst).Nodup := by simp [eventMembers]
  rw [parse?_dumps hne (fun m hm => eventMembers_flat hm) hnodup, hsorted]

def coveredEvent : IncidentTaskCompletedEvent where
  schemaVersion := "1.0"
  eventType := "incident.task.completed"
  eventId := "7c1f9d0a-f544-47b3-b1df-642875a8fa49"
  incidentId := "aca0a505-b460-4d08-9035-3b92bac0fff1"
  taskId := "bb587a5f-3c94-4e03-8b13-159d8f58acfa"
  correlationId := "c"
  status := "Investigating"
  acknowledgedAt := none
  occurredAt := "2026-09-21T16:00:01Z"

theorem coveredEvent_checked : coveredEvent.Checked rfc where
  schemaVersion := rfl
  eventId := by decide
  incidentId := by decide
  taskId := by decide
  correlationId := by decide
  status := by decide
  acknowledgedAt := fun _ h => by contradiction
  occurredAt := by decide

theorem coveredEvent_covered : Covered coveredEvent where
  eventId := ⟨⟨'4', by decide, by decide⟩, 'b', by decide, by decide⟩
  incidentId := ⟨⟨'4', by decide, by decide⟩, '9', by decide, by decide⟩
  taskId := ⟨⟨'4', by decide, by decide⟩, '8', by decide, by decide⟩
  correlationId := ⟨'c', by decide, by decide⟩
  acknowledgedAt := fun _ h => by contradiction
  occurredAt := by
    rintro ⟨t, hread, hsecond⟩
    have htext : readDateTime "2026-09-21T16:00:01Z".toList =
        some ⟨2026, 9, 21, 16, 0, 1, [], .utc⟩ := by decide
    rw [← Option.some.inj (htext.symm.trans hread)] at hsecond
    contradiction

theorem coveredEvent_parsed : parseIncidentTaskCompletedEvent (fun _ => false)
    (String.ofList (dumps noNumber (.object (eventMembers coveredEvent)))) = .ok coveredEvent :=
  parseIncidentTaskCompletedEvent_eq_ok.mpr ⟨_, parse?_eventMembers noNumber coveredEvent,
    eventMembers_read coveredEvent,
    (accepted_iff coveredEvent_checked rfl).mpr coveredEvent_covered⟩

theorem coveredEvent_accepted : ∃ event,
    parseIncidentTaskCompletedEvent (fun _ => false)
      (String.ofList (dumps noNumber (.object (eventMembers coveredEvent)))) = .ok event ∧
    event.Read (eventMembers coveredEvent) := by
  obtain ⟨members, event, hvalue, hparse, hread, -⟩ :=
    (completed_event_accepted_iff (fun _ => false) (parse?_eventMembers noNumber coveredEvent)
      (eventMembers_valid coveredEvent_checked rfl)).mpr fun members event hvalue hread => by
        obtain rfl := Json.object.inj hvalue
        rw [hread.unique (eventMembers_read coveredEvent)]
        exact coveredEvent_covered
  obtain rfl := Json.object.inj hvalue
  exact ⟨event, hparse, hread⟩

/-- A UUID of version 7, which the contract allows. -/
def sortableEvent : IncidentTaskCompletedEvent := { coveredEvent with
  eventId := "018f4a9e-0000-7000-8000-000000000000" }

theorem sortableEvent_rejected : ¬ ∀ (other : String → Bool) (body : String) (value : Json),
    Json.parse? body = some value → incidentTaskCompletedSchema rfc value = true →
    ∃ members event, value = .object members ∧
      parseIncidentTaskCompletedEvent other body = .ok event ∧ event.Read members ∧
      incidentUpdatedSchema rfc (buildRealtimeIncidentMessage event) = true := by
  intro h
  have hchecked : sortableEvent.Checked rfc := { coveredEvent_checked with
    eventId := by decide }
  obtain ⟨members, event, hvalue, hparse, hread, -⟩ := h (fun _ => false) _ _
    (parse?_eventMembers noNumber sortableEvent) (eventMembers_valid hchecked rfl)
  obtain rfl := Json.object.inj hvalue
  obtain rfl := hread.unique (eventMembers_read sortableEvent)
  obtain ⟨-, -, -, haccepted⟩ := parseIncidentTaskCompletedEvent_eq_ok.mp hparse
  exact absurd haccepted.eventId.2 (by decide)

end OpsFlow.Notifier
