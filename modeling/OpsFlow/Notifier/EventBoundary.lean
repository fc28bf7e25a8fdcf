import OpsFlow.Contracts.EnvelopeAgreement
import OpsFlow.Notifier.EventContract
import OpsFlow.Outbox.Message

namespace OpsFlow.Notifier
open OpsFlow.Contracts
open OpsFlow.Incidents (CompletionMessage IncidentProcessingResult Job completionMessage)
open OpsFlow.Outbox (replaceAll requiredAwareTimestamp completionEvent completionPublication)

/-! ## The instant that a text denotes -/

def Denotes (s : String) (τ : Timestamp) : Prop :=
  ∃ t, readDateTime s.toList = some t ∧ t.valid = true ∧ t.instant = (τ : ℤ)

variable {τ τ' : Timestamp} {s : String}

theorem Denotes.unique (h : Denotes s τ) (h' : Denotes s τ') : τ = τ' := by
  obtain ⟨t, hread, -, hinstant⟩ := h
  obtain ⟨t', hread', -, hinstant'⟩ := h'
  obtain rfl := Option.some.inj (hread.symm.trans hread')
  exact Int.cast_injective (hinstant.symm.trans hinstant')

/-- The only `+00:00` is the offset at the end. -/
theorem replaceAll_offset {stamp : List Char} (h : '+' ∉ stamp) :
    replaceAll "+00:00".toList "Z".toList 0 (stamp ++ "+00:00".toList) = stamp ++ ['Z'] := by
  induction stamp with
  | nil => rfl
  | cons c stamp ih =>
    obtain ⟨hc, hstamp⟩ := not_or.mp (mt List.mem_cons.mpr h)
    have hprefix : "+00:00".toList.isPrefixOf (c :: (stamp ++ "+00:00".toList)) = false := by
      change (('+' == c) && _) = false
      rw [beq_false_of_ne hc, Bool.false_and]
    rw [List.cons_append, replaceAll, hprefix, ih hstamp]
    rfl

theorem requiredAwareTimestamp_spec (other : String → Bool) (h : InYears τ) :
    Denotes (requiredAwareTimestamp τ) τ ∧ dateParses other (requiredAwareTimestamp τ) = true ∧
      rfcFormat .dateTime (requiredAwareTimestamp τ) = true ∧
      ajvFormat .dateTime (requiredAwareTimestamp τ) = true := by
  obtain ⟨stamp, t, hiso, hread, hvalid, hsecond, hinstant, hlength, hchars⟩ := isoformat_stamp h
  have hplus : '+' ∉ stamp := by
    intro hmem
    exact absurd (hchars '+' hmem) (by decide)
  have htext : (requiredAwareTimestamp τ).toList = stamp ++ ['Z'] := by
    unfold requiredAwareTimestamp
    rw [String.toList_ofList, hiso, replaceAll_offset hplus]
  rw [← htext] at hread
  refine ⟨⟨t, hread, hvalid, hinstant⟩, ?_, rfcFormat_dateTime.mpr ⟨t, hread, hvalid⟩,
    ajvFormat_of_readDateTime hread hvalid hsecond hlength⟩
  simp [dateParses, hread, hvalid, hsecond]

/-! ## The event that is sent -/

def messageBody (number : ℚ → List Char) (message : CompletionMessage) : String :=
  String.ofList (dumps number (completionPublication message).body)

def sentEvent (message : CompletionMessage) : IncidentTaskCompletedEvent where
  schemaVersion := message.schemaVersion
  eventType := message.eventType
  eventId := message.eventId.str
  incidentId := message.incidentId.str
  taskId := message.taskId.str
  correlationId := message.correlationId
  status := message.status.value
  acknowledgedAt := message.acknowledgedAt.map requiredAwareTimestamp
  occurredAt := requiredAwareTimestamp message.occurredAt

variable {message message' : CompletionMessage} {number : ℚ → List Char}

/-- The members, as `sort_keys` has them. -/
theorem dumps_completionEvent : dumps number (completionEvent message) =
    dumps number (.object (eventMembers (sentEvent message))) := by
  have hoptional : Outbox.optionalString = textOrNull := by
    funext s
    cases s with
    | none => rfl
    | some s => rfl
  unfold completionEvent
  rw [dumps_object, dumps_object, hoptional]
  congr 4
  simp [sortedMembers, List.insertionSort, eventMembers, sentEvent]

theorem parse?_messageBody (number : ℚ → List Char) (message : CompletionMessage) :
    Json.parse? (messageBody number message) =
      some (.object (eventMembers (sentEvent message))) := by
  have hbody : messageBody number message =
      String.ofList (dumps number (.object (eventMembers (sentEvent message)))) :=
    congrArg String.ofList dumps_completionEvent
  rw [hbody, parse?_eventMembers]

/-- A UUID of version 4, as `uuid4` makes them. -/
def Version4 (u : Uuid) : Prop := Uuid.digitAt u 12 = 4 ∧ Uuid.digitAt u 16 ∈ [8, 9, 10, 11]

/-- The timestamps that the contract has texts for. -/
structure Dated (message : CompletionMessage) : Prop where
  acknowledgedAt : ∀ τ ∈ message.acknowledgedAt, InYears τ
  occurredAt : InYears message.occurredAt

structure Deliverable (message : CompletionMessage) : Prop extends Dated message where
  schemaVersion : message.schemaVersion = "1.0"
  eventType : message.eventType = "incident.task.completed"
  eventId : Version4 message.eventId
  incidentId : Version4 message.incidentId
  taskId : Version4 message.taskId
  correlationId : ∃ c ∈ message.correlationId.toList, '!' ≤ c ∧ c ≤ '~'

/-- The message of a reconciler has this version and this type. -/
theorem deliverable_completionMessage {job : Job} {result : IncidentProcessingResult}
    {id eventId : Uuid} {occurredAt : Timestamp}
    (hdated : Dated (completionMessage job result id eventId occurredAt))
    (hevent : Version4 eventId) (hincident : Version4 result.incidentId)
    (htask : Version4 job.taskId)
    (hvisible : ∃ c ∈ job.execution.correlationId.toList, '!' ≤ c ∧ c ≤ '~') :
    Deliverable (completionMessage job result id eventId occurredAt) where
  toDated := hdated
  schemaVersion := rfl
  eventType := rfl
  eventId := hevent
  incidentId := hincident
  taskId := htask
  correlationId := hvisible

theorem fits_version4 {u : Uuid} (h : Version4 u) : fits uuidPattern u.str.toList = true := by
  have hvariants : ∀ d ∈ [8, 9, 10, 11], uuidVariant d.digitChar = true := by decide
  refine fits_str u ?_ (hvariants _ h.2)
  rw [h.1]
  rfl

theorem visible_ascii {c : Char} (h : '!' ≤ c ∧ c ≤ '~') : jsSpace c = false := by
  have hlower : 33 ≤ c.toNat := h.1
  have hupper : c.toNat ≤ 126 := h.2
  have hspaces : ∀ d ∈ [' ', '\t', '\n', '\x0b', '\x0c', '\r', '\ufeff'],
      d.toNat < 33 ∨ 126 < d.toNat := by decide
  have hwide : ∀ n ∈ wideSpaces, n < 33 ∨ 126 < n := by decide
  unfold jsSpace
  rw [decide_eq_false_iff_not]
  rintro (hmem | ⟨hmem, -⟩)
  · have hout := hspaces c hmem
    omega
  · have hout := hwide c.toNat hmem
    omega

theorem sentEvent_accepted (other : String → Bool) (h : Deliverable message) :
    Accepted other (sentEvent message) := by
  obtain ⟨c, hc, hascii⟩ := h.correlationId
  obtain ⟨-, hparses, hformat, -⟩ := requiredAwareTimestamp_spec other h.occurredAt
  refine
    { schemaVersion := h.schemaVersion
      eventType := h.eventType
      eventId := ⟨visible_uuid (rfcFormat_str _), fits_version4 h.eventId⟩
      incidentId := ⟨visible_uuid (rfcFormat_str _), fits_version4 h.incidentId⟩
      taskId := ⟨visible_uuid (rfcFormat_str _), fits_version4 h.taskId⟩
      correlationId := ⟨c, hc, visible_ascii hascii⟩
      status := ?_
      acknowledgedAt := fun s hs => ?_
      occurredAt := ⟨visible_dateTime hformat, hparses⟩ }
  · have hstatus : message.status.value ∈ incidentStatuses := by
      cases message.status with
      | _ => decide
    exact ⟨visible_status hstatus, hstatus⟩
  · obtain ⟨τ, hτ, rfl⟩ := Option.map_eq_some_iff.mp hs
    obtain ⟨-, hparses', hformat', -⟩ :=
      requiredAwareTimestamp_spec other (h.acknowledgedAt τ hτ)
    exact ⟨visible_dateTime hformat', hparses'⟩

theorem sentEvent_checked {engine : Engine} (h : Deliverable message)
    (huuid : ∀ s, rfcFormat .uuid s = true → engine.format .uuid s = true)
    (hdate : ∀ τ, InYears τ → engine.format .dateTime (requiredAwareTimestamp τ) = true) :
    (sentEvent message).Checked engine where
  schemaVersion := h.schemaVersion
  eventId := huuid _ (rfcFormat_str _)
  incidentId := huuid _ (rfcFormat_str _)
  taskId := huuid _ (rfcFormat_str _)
  correlationId := by
    obtain ⟨c, hc, -⟩ := h.correlationId
    rw [← String.length_toList]
    exact List.length_pos_of_mem hc
  status := by
    change message.status.value ∈ incidentStatuses
    cases message.status with
    | _ => decide
  acknowledgedAt := fun s hs => by
    obtain ⟨τ, hτ, rfl⟩ := Option.map_eq_some_iff.mp hs
    exact hdate τ (h.acknowledgedAt τ hτ)
  occurredAt := hdate _ h.occurredAt

theorem sentEvent_checked_rfc (h : Deliverable message) : (sentEvent message).Checked rfc := by
  have hrfc (f : Format) (s : String) : rfc.format f s = rfcFormat f s := rfl
  refine sentEvent_checked h (fun s hs => ?_) fun τ hτ => ?_
  · rw [hrfc]
    exact hs
  · rw [hrfc]
    exact (requiredAwareTimestamp_spec (fun _ => false) hτ).2.2.1

theorem sentEvent_checked_ajv (h : Deliverable message) : (sentEvent message).Checked ajv := by
  have hajv (f : Format) (s : String) : ajv.format f s = ajvFormat f s := rfl
  refine sentEvent_checked h (fun s hs => ?_) fun τ hτ => ?_
  · have huuid : rfcFormat .uuid s = fits (uuidShape hex hex) s.toList := rfl
    rw [hajv, ajvFormat, ← huuid, hs, Bool.true_or]
  · rw [hajv]
    exact (requiredAwareTimestamp_spec (fun _ => false) hτ).2.2.2

structure SameEvent (event : IncidentTaskCompletedEvent) (message : CompletionMessage) : Prop where
  schemaVersion : event.schemaVersion = message.schemaVersion
  eventType : event.eventType = message.eventType
  eventId : event.eventId = message.eventId.str
  incidentId : event.incidentId = message.incidentId.str
  taskId : event.taskId = message.taskId.str
  correlationId : event.correlationId = message.correlationId
  status : event.status = message.status.value
  acknowledgedAt : Option.Rel Denotes event.acknowledgedAt message.acknowledgedAt
  occurredAt : Denotes event.occurredAt message.occurredAt

/-- The nine fields of the event are the same; timestamps are instants. -/
structure SameFields (message message' : CompletionMessage) : Prop where
  schemaVersion : message.schemaVersion = message'.schemaVersion
  eventType : message.eventType = message'.eventType
  eventId : message.eventId = message'.eventId
  incidentId : message.incidentId = message'.incidentId
  taskId : message.taskId = message'.taskId
  correlationId : message.correlationId = message'.correlationId
  status : message.status = message'.status
  acknowledgedAt : message.acknowledgedAt = message'.acknowledgedAt
  occurredAt : message.occurredAt = message'.occurredAt

theorem sentEvent_same (h : Dated message) : SameEvent (sentEvent message) message where
  schemaVersion := rfl
  eventType := rfl
  eventId := rfl
  incidentId := rfl
  taskId := rfl
  correlationId := rfl
  status := rfl
  acknowledgedAt := by
    change Option.Rel Denotes (message.acknowledgedAt.map requiredAwareTimestamp) _
    have hdated := h.acknowledgedAt
    cases hacknowledged : message.acknowledgedAt with
    | none => exact .none
    | some τ =>
      exact .some (requiredAwareTimestamp_spec (fun _ => false) (hdated τ hacknowledged)).1
  occurredAt := (requiredAwareTimestamp_spec (fun _ => false) h.occurredAt).1

theorem acknowledged_unique {text : Option String} {a b : Option Timestamp}
    (ha : Option.Rel Denotes text a) (hb : Option.Rel Denotes text b) : a = b := by
  cases ha with
  | none =>
    cases hb with
    | none => rfl
  | some hd =>
    cases hb with
    | some hd' => rw [hd.unique hd']

theorem SameEvent.unique {event : IncidentTaskCompletedEvent} (h : SameEvent event message)
    (h' : SameEvent event message') : SameFields message message' := by
  have hvalue {a b : Incidents.IncidentStatus} (hab : a.value = b.value) : a = b := by
    cases a <;> cases b <;> simp_all [Incidents.IncidentStatus.value]
  exact
    { schemaVersion := h.schemaVersion.symm.trans h'.schemaVersion
      eventType := h.eventType.symm.trans h'.eventType
      eventId := str_injective (h.eventId.symm.trans h'.eventId)
      incidentId := str_injective (h.incidentId.symm.trans h'.incidentId)
      taskId := str_injective (h.taskId.symm.trans h'.taskId)
      correlationId := h.correlationId.symm.trans h'.correlationId
      status := hvalue (h.status.symm.trans h'.status)
      acknowledgedAt := acknowledged_unique h.acknowledgedAt h'.acknowledgedAt
      occurredAt := h.occurredAt.unique h'.occurredAt }

/-- The body is taken by the parser, which reads the same event from it; the message for the clients
is valid; and different events have different bodies. -/
theorem completion_event_delivered (other : String → Bool) (number : ℚ → List Char) :
    (∀ message, Deliverable message → ∃ event,
      parseIncidentTaskCompletedEvent other (messageBody number message) = .ok event ∧
        SameEvent event message ∧
        incidentUpdatedSchema rfc (buildRealtimeIncidentMessage event) = true ∧
        incidentUpdatedSchema ajv (buildRealtimeIncidentMessage event) = true) ∧
    ∀ message message', Dated message → Dated message' →
      messageBody number message = messageBody number message' → SameFields message message' := by
  constructor
  · intro message h
    have haccepted := sentEvent_accepted other h
    have hrfc := sentEvent_checked_rfc h
    have hajv := sentEvent_checked_ajv h
    exact ⟨sentEvent message, parseIncidentTaskCompletedEvent_eq_ok.mpr ⟨_,
      parse?_messageBody number message, eventMembers_read _, haccepted⟩, sentEvent_same h.toDated,
      incidentUpdatedSchema_build hrfc, incidentUpdatedSchema_build hajv⟩
  · intro message message' h h' hbody
    have hparse := parse?_messageBody number message
    rw [hbody, parse?_messageBody] at hparse
    have hread := eventMembers_read (sentEvent message')
    rw [Json.object.inj (Option.some.inj hparse)] at hread
    have hevent := hread.unique (eventMembers_read (sentEvent message))
    have hsame := sentEvent_same h'
    rw [hevent] at hsame
    exact (sentEvent_same h).unique hsame

def firstVersion4 : Uuid := 0x00000000000040008000000000000000

def resolvedJob : Job :=
  ⟨⟨firstVersion4.str, firstVersion4, "incident.processing.requested", "c", "2026",
    .incidentServiceProcessing, 1, none, none⟩, firstVersion4⟩

/-- What a reconciler writes for an incident that was acknowledged at `acknowledgedAt`. -/
def resolvedMessage (acknowledgedAt : AwareDatetime) : CompletionMessage :=
  completionMessage resolvedJob ⟨firstVersion4, .resolved, false, some acknowledgedAt.instant⟩
    firstVersion4 firstVersion4 (0 : ℤ)

def oneInUtc : AwareDatetime := ⟨(3600000000 : ℤ), 0, by decide⟩

/-- The same instant, an hour ahead of UTC. -/
def twoAhead : AwareDatetime := ⟨(7200000000 : ℤ), 3600000000, by decide⟩

/-- The same time on the clock, an hour ahead of UTC. -/
def oneAhead : AwareDatetime := ⟨(3600000000 : ℤ), 3600000000, by decide⟩

theorem resolvedMessage_dated {acknowledgedAt : AwareDatetime}
    (h : InYears acknowledgedAt.instant) : Dated (resolvedMessage acknowledgedAt) where
  acknowledgedAt := fun τ hτ => by
    obtain rfl : acknowledgedAt.instant = τ := Option.some.inj hτ
    exact h
  occurredAt := ⟨⟨(0 : ℤ), 0, by decide⟩, rfl, by decide, by decide⟩

theorem resolvedMessage_deliverable {acknowledgedAt : AwareDatetime}
    (h : InYears acknowledgedAt.instant) : Deliverable (resolvedMessage acknowledgedAt) := by
  have hversion : Version4 firstVersion4 := ⟨rfl, List.mem_cons_self⟩
  exact deliverable_completionMessage (resolvedMessage_dated h) hversion hversion hversion
    ⟨'c', by decide, by decide⟩

/-- One instant in two offsets has one body, and one wall-clock time in two offsets has two. -/
theorem resolvedMessage_delivered :
    (∃ event, parseIncidentTaskCompletedEvent (fun _ => false)
      (messageBody noNumber (resolvedMessage twoAhead)) = .ok event ∧
      SameEvent event (resolvedMessage oneInUtc)) ∧
    SameFields (resolvedMessage oneInUtc) (resolvedMessage twoAhead) ∧
    messageBody noNumber (resolvedMessage oneInUtc) ≠
      messageBody noNumber (resolvedMessage oneAhead) := by
  obtain ⟨haccepted, hinjective⟩ := completion_event_delivered (fun _ => false) noNumber
  have hutc : InYears oneInUtc.instant := ⟨oneInUtc, rfl, by decide, by decide⟩
  have htwo : InYears twoAhead.instant := ⟨twoAhead, rfl, by decide, by decide⟩
  have hone : InYears oneAhead.instant := ⟨oneAhead, rfl, by decide, by decide⟩
  have hinstant : oneInUtc.instant = twoAhead.instant := by decide
  have hsame : resolvedMessage oneInUtc = resolvedMessage twoAhead := by
    unfold resolvedMessage
    rw [hinstant]
  obtain ⟨event, hparse, hevent, -⟩ := haccepted _ (resolvedMessage_deliverable htwo)
  refine ⟨⟨event, hparse, by rw [hsame]; exact hevent⟩,
    hinjective _ _ (resolvedMessage_dated hutc) (resolvedMessage_dated htwo) (by rw [hsame]), ?_⟩
  intro hbody
  have hfields := hinjective _ _ (resolvedMessage_dated hutc) (resolvedMessage_dated hone) hbody
  have hacknowledged : some oneInUtc.instant = some oneAhead.instant := hfields.acknowledgedAt
  exact absurd hacknowledged (by decide)

end OpsFlow.Notifier
