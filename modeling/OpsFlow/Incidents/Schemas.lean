import OpsFlow.Incidents.Wire

namespace OpsFlow.Incidents

/-! ## Dumping -/

def dumpUuid (u : Uuid) : Json := .string u.str

def dumpDatetime (wire : Wire) (t : Timestamp) : Json := .string (wire.dumpDatetime t)

def dumpSeverity (severity : IncidentSeverity) : Json := .string severity.value

def dumpStatus (status : IncidentStatus) : Json := .string status.value

def dumpNullable {α : Type} (dump : α → Json) : Option α → Json
  | none => .null
  | some a => dump a

/-- A dump that the validator reads back, and that is not null. -/
def Reads {α : Type} (validator : Validator α) (dump : α → Json) (a : α) : Prop :=
  dump a ≠ .null ∧ validator (dump a) = some a

theorem reads_text (s : String) : Reads textValidator .string s := by
  simp [Reads, textValidator]

theorem reads_boundedText {minLength maxLength : ℕ} {s : String} (hmin : minLength ≤ s.length)
    (hmax : s.length ≤ maxLength) : Reads (boundedText minLength maxLength) .string s := by
  simp [Reads, boundedText, hmin, hmax]

theorem reads_bool (b : Bool) : Reads boolValidator .bool b := by
  simp [Reads, boolValidator]

theorem reads_severity (severity : IncidentSeverity) :
    Reads severityValidator dumpSeverity severity := by
  cases severity <;> simp [Reads, dumpSeverity, severityValidator, textValidator,
    IncidentSeverity.ofValue?, IncidentSeverity.value]

theorem reads_status (status : IncidentStatus) : Reads statusValidator dumpStatus status := by
  cases status <;> simp [Reads, dumpStatus, statusValidator, textValidator,
    IncidentStatus.ofValue?, IncidentStatus.value]

theorem reads_uuid (wire : Wire) (u : Uuid) : Reads (uuidValidator wire) dumpUuid u := by
  simp [Reads, dumpUuid, uuidValidator, textValidator, wire.parseUuid_str]

theorem reads_datetime (wire : Wire) (t : Timestamp) :
    Reads (datetimeValidator wire) (dumpDatetime wire) t := by
  simp [Reads, dumpDatetime, datetimeValidator, textValidator, wire.parseDatetime_dump]

theorem reads_email {wire : Wire} {email : String} (h : wire.parseEmail email = some email) :
    Reads (emailValidator wire) .string email := by
  simp [Reads, emailValidator, textValidator, h]

theorem nullable_dumpNullable {α : Type} {validator : Validator α} {dump : α → Json}
    {value : Option α} (h : ∀ a ∈ value, Reads validator dump a) :
    nullable validator (dumpNullable dump value) = some value := by
  cases value with
  | none => rfl
  | some a =>
    obtain ⟨hne, hread⟩ := h a rfl
    unfold nullable dumpNullable
    split
    · contradiction
    · simp [hread]

/-! ## The request schemas -/

def Within (minLength maxLength : ℕ) (s : String) : Prop :=
  minLength ≤ s.length ∧ s.length ≤ maxLength

instance (minLength maxLength : ℕ) (s : String) : Decidable (Within minLength maxLength s) :=
  inferInstanceAs (Decidable (_ ∧ _))

def EmailNormalised (wire : Wire) (email : Option String) : Prop :=
  ∀ e ∈ email, wire.parseEmail e = some e

/-- The schema admits these values; the lax reading of other JSON types is left out. -/
structure IncidentCreate.Admitted (wire : Wire) (payload : IncidentCreate) : Prop where
  title : Within 1 200 payload.title
  summary : Within 1 2000 payload.summary
  assignee : Within 1 120 payload.assignee
  source : Within 1 80 payload.source
  reportedByEmail : ∃ raw : Option String, raw.bind wire.parseEmail = payload.reportedByEmail

structure IncidentUpdate.Admitted (payload : IncidentUpdate) : Prop where
  title : ∀ title ∈ payload.title.join, Within 1 200 title
  summary : ∀ summary ∈ payload.summary.join, Within 1 2000 summary
  assignee : ∀ assignee ∈ payload.assignee.join, Within 1 120 assignee
  source : ∀ source ∈ payload.source.join, Within 1 80 source

def createFields : List Field :=
  [.title, .service_id, .severity, .status, .summary, .assignee, .started_at, .source,
    .customer_impacting, .acknowledged_at, .reported_by_email]

/-- `model_dump(mode="json", by_alias=True)`. -/
def IncidentCreate.dump (wire : Wire) (payload : IncidentCreate) : Json :=
  .object <| dumpMembers createFields fun
    | .title => some (.string payload.title)
    | .service_id => some (dumpUuid payload.serviceId)
    | .severity => some (dumpSeverity payload.severity)
    | .status => some (dumpStatus payload.status)
    | .summary => some (.string payload.summary)
    | .assignee => some (.string payload.assignee)
    | .started_at => some (dumpNullable (dumpDatetime wire) payload.startedAt)
    | .source => some (.string payload.source)
    | .customer_impacting => some (.bool payload.customerImpacting)
    | .acknowledged_at => some (dumpNullable (dumpDatetime wire) payload.acknowledgedAt)
    | .reported_by_email => some (dumpNullable .string payload.reportedByEmail)
    | _ => none

def IncidentCreate.validate (wire : Wire) : Validator IncidentCreate
  | .object members => do
    let title ← required (boundedText 1 200) members .title
    let serviceId ← required (uuidValidator wire) members .service_id
    let severity ← required severityValidator members .severity
    let status ← defaulted statusValidator .opened members .status
    let summary ← required (boundedText 1 2000) members .summary
    let assignee ← required (boundedText 1 120) members .assignee
    let startedAt ← defaulted (nullable (datetimeValidator wire)) none members .started_at
    let source ← defaulted (boundedText 1 80) "manual" members .source
    let customerImpacting ← defaulted boolValidator false members .customer_impacting
    let acknowledgedAt ←
      defaulted (nullable (datetimeValidator wire)) none members .acknowledged_at
    let reportedByEmail ←
      defaulted (nullable (emailValidator wire)) none members .reported_by_email
    return { title, serviceId, severity, status, summary, assignee, startedAt, source,
             customerImpacting, acknowledgedAt, reportedByEmail }
  | _ => none

def updateFields : List Field :=
  [.title, .service_id, .severity, .status, .summary, .assignee, .source, .customer_impacting,
    .acknowledged_at, .started_at, .resolved_at]

/-- `model_dump(mode="json", by_alias=True, exclude_unset=True)`. -/
def IncidentUpdate.dump (wire : Wire) (payload : IncidentUpdate) : Json :=
  .object <| dumpMembers updateFields fun
    | .title => payload.title.map (dumpNullable .string)
    | .service_id => payload.serviceId.map (dumpNullable dumpUuid)
    | .severity => payload.severity.map (dumpNullable dumpSeverity)
    | .status => payload.status.map (dumpNullable dumpStatus)
    | .summary => payload.summary.map (dumpNullable .string)
    | .assignee => payload.assignee.map (dumpNullable .string)
    | .source => payload.source.map (dumpNullable .string)
    | .customer_impacting => payload.customerImpacting.map (dumpNullable .bool)
    | .acknowledged_at => payload.acknowledgedAt.map (dumpNullable (dumpDatetime wire))
    | .started_at => payload.startedAt.map (dumpNullable (dumpDatetime wire))
    | .resolved_at => payload.resolvedAt.map (dumpNullable (dumpDatetime wire))
    | _ => none

def IncidentUpdate.validate (wire : Wire) : Validator IncidentUpdate
  | .object members => do
    let title ← unsetOr (nullable (boundedText 1 200)) members .title
    let serviceId ← unsetOr (nullable (uuidValidator wire)) members .service_id
    let severity ← unsetOr (nullable severityValidator) members .severity
    let status ← unsetOr (nullable statusValidator) members .status
    let summary ← unsetOr (nullable (boundedText 1 2000)) members .summary
    let assignee ← unsetOr (nullable (boundedText 1 120)) members .assignee
    let source ← unsetOr (nullable (boundedText 1 80)) members .source
    let customerImpacting ← unsetOr (nullable boolValidator) members .customer_impacting
    let acknowledgedAt ← unsetOr (nullable (datetimeValidator wire)) members .acknowledged_at
    let startedAt ← unsetOr (nullable (datetimeValidator wire)) members .started_at
    let resolvedAt ← unsetOr (nullable (datetimeValidator wire)) members .resolved_at
    return { title, serviceId, severity, status, summary, assignee, source, customerImpacting,
             acknowledgedAt, startedAt, resolvedAt }
  | _ => none

theorem IncidentCreate.Admitted.emailNormalised {wire : Wire} {payload : IncidentCreate}
    (h : payload.Admitted wire) : EmailNormalised wire payload.reportedByEmail := by
  intro email hemail
  obtain ⟨raw, hraw⟩ := h.reportedByEmail
  rw [← hraw] at hemail
  obtain ⟨address, -, hparse⟩ := Option.bind_eq_some_iff.mp hemail
  exact wire.parseEmail_normalised address email hparse

theorem required_dumpMembers {α : Type} {validator : Validator α} {fields : List Field}
    {value : Field → Option Json} {field : Field} {json : Json} {a : α}
    (hmem : field ∈ fields) (hvalue : value field = some json) (h : validator json = some a) :
    required validator (dumpMembers fields value) field = some a := by
  rw [required, member_dumpMembers hmem, hvalue]
  exact h

theorem defaulted_dumpMembers {α : Type} {validator : Validator α} {default : α}
    {fields : List Field} {value : Field → Option Json} {field : Field} {json : Json} {a : α}
    (hmem : field ∈ fields) (hvalue : value field = some json) (h : validator json = some a) :
    defaulted validator default (dumpMembers fields value) field = some a := by
  rw [defaulted, member_dumpMembers hmem, hvalue]
  exact h

theorem unsetOr_dumpMembers {α : Type} {validator : Validator α} {dump : α → Json}
    {fields : List Field} {value : Field → Option Json} {field : Field}
    {a : Option (Option α)} (hmem : field ∈ fields)
    (hvalue : value field = a.map (dumpNullable dump))
    (h : ∀ x ∈ a.join, Reads validator dump x) :
    unsetOr (nullable validator) (dumpMembers fields value) field = some a := by
  rw [unsetOr, member_dumpMembers hmem, hvalue]
  cases a with
  | none => rfl
  | some a =>
    have hread : nullable validator (dumpNullable dump a) = some a :=
      nullable_dumpNullable fun x hx => h x (by simpa using hx)
    simp [hread]

/-- The service reads a created incident as the gateway was given it. -/
theorem IncidentCreate.validate_dump {wire : Wire} {payload : IncidentCreate}
    (h : payload.Admitted wire) :
    IncidentCreate.validate wire (payload.dump wire) = some payload := by
  have htitle := reads_boundedText h.title.1 h.title.2
  have hsummary := reads_boundedText h.summary.1 h.summary.2
  have hassignee := reads_boundedText h.assignee.1 h.assignee.2
  have hsource := reads_boundedText h.source.1 h.source.2
  have hstarted : nullable (datetimeValidator wire)
      (dumpNullable (dumpDatetime wire) payload.startedAt) = some payload.startedAt :=
    nullable_dumpNullable fun t _ => reads_datetime wire t
  have hacknowledged : nullable (datetimeValidator wire)
      (dumpNullable (dumpDatetime wire) payload.acknowledgedAt) = some payload.acknowledgedAt :=
    nullable_dumpNullable fun t _ => reads_datetime wire t
  have hemail : nullable (emailValidator wire) (dumpNullable .string payload.reportedByEmail) =
      some payload.reportedByEmail :=
    nullable_dumpNullable fun e he => reads_email (h.emailNormalised e he)
  unfold IncidentCreate.validate IncidentCreate.dump
  dsimp only
  rw [required_dumpMembers (show Field.title ∈ createFields by decide) rfl htitle.2,
    required_dumpMembers (show Field.service_id ∈ createFields by decide) rfl
      (reads_uuid wire payload.serviceId).2,
    required_dumpMembers (show Field.severity ∈ createFields by decide) rfl
      (reads_severity payload.severity).2,
    defaulted_dumpMembers (show Field.status ∈ createFields by decide) rfl
      (reads_status payload.status).2,
    required_dumpMembers (show Field.summary ∈ createFields by decide) rfl hsummary.2,
    required_dumpMembers (show Field.assignee ∈ createFields by decide) rfl hassignee.2,
    defaulted_dumpMembers (show Field.started_at ∈ createFields by decide) rfl hstarted,
    defaulted_dumpMembers (show Field.source ∈ createFields by decide) rfl hsource.2,
    defaulted_dumpMembers (show Field.customer_impacting ∈ createFields by decide) rfl
      (reads_bool payload.customerImpacting).2,
    defaulted_dumpMembers (show Field.acknowledged_at ∈ createFields by decide) rfl
      hacknowledged,
    defaulted_dumpMembers (show Field.reported_by_email ∈ createFields by decide) rfl hemail]
  rfl

theorem IncidentUpdate.validate_dump (wire : Wire) {payload : IncidentUpdate}
    (h : payload.Admitted) :
    IncidentUpdate.validate wire (payload.dump wire) = some payload := by
  unfold IncidentUpdate.validate IncidentUpdate.dump
  dsimp only
  rw [unsetOr_dumpMembers (show Field.title ∈ updateFields by decide) rfl
      fun s hs => reads_boundedText (h.title s hs).1 (h.title s hs).2,
    unsetOr_dumpMembers (show Field.service_id ∈ updateFields by decide) rfl
      fun u _ => reads_uuid wire u,
    unsetOr_dumpMembers (show Field.severity ∈ updateFields by decide) rfl
      fun severity _ => reads_severity severity,
    unsetOr_dumpMembers (show Field.status ∈ updateFields by decide) rfl
      fun status _ => reads_status status,
    unsetOr_dumpMembers (show Field.summary ∈ updateFields by decide) rfl
      fun s hs => reads_boundedText (h.summary s hs).1 (h.summary s hs).2,
    unsetOr_dumpMembers (show Field.assignee ∈ updateFields by decide) rfl
      fun s hs => reads_boundedText (h.assignee s hs).1 (h.assignee s hs).2,
    unsetOr_dumpMembers (show Field.source ∈ updateFields by decide) rfl
      fun s hs => reads_boundedText (h.source s hs).1 (h.source s hs).2,
    unsetOr_dumpMembers (show Field.customer_impacting ∈ updateFields by decide) rfl
      fun b _ => reads_bool b,
    unsetOr_dumpMembers (show Field.acknowledged_at ∈ updateFields by decide) rfl
      fun t _ => reads_datetime wire t,
    unsetOr_dumpMembers (show Field.started_at ∈ updateFields by decide) rfl
      fun t _ => reads_datetime wire t,
    unsetOr_dumpMembers (show Field.resolved_at ∈ updateFields by decide) rfl
      fun t _ => reads_datetime wire t]
  rfl

/-! ## The response schema -/

abbrev IncidentResponse := Incident

/-- `IncidentResponse.model_validate(incident)`: among the attributes of a domain object only
the address is validated anew. -/
def IncidentResponse.ofIncident (wire : Wire) (incident : Incident) : Option IncidentResponse :=
  match incident.reportedByEmail with
  | none => some incident
  | some email => (wire.parseEmail email).map fun e => { incident with reportedByEmail := some e }

def responseFields : List Field :=
  [.id, .title, .service_id, .severity, .status, .summary, .assignee, .source,
    .customer_impacting, .acknowledged_at, .started_at, .resolved_at, .created_at, .updated_at,
    .reported_by_email]

def IncidentResponse.dump (wire : Wire) (response : IncidentResponse) : Json :=
  .object <| dumpMembers responseFields fun
    | .id => some (dumpUuid response.id)
    | .title => some (.string response.title)
    | .service_id => some (dumpUuid response.serviceId)
    | .severity => some (dumpSeverity response.severity)
    | .status => some (dumpStatus response.status)
    | .summary => some (.string response.summary)
    | .assignee => some (.string response.assignee)
    | .source => some (.string response.source)
    | .customer_impacting => some (.bool response.customerImpacting)
    | .acknowledged_at => some (dumpNullable (dumpDatetime wire) response.acknowledgedAt)
    | .started_at => some (dumpDatetime wire response.startedAt)
    | .resolved_at => some (dumpNullable (dumpDatetime wire) response.resolvedAt)
    | .created_at => some (dumpDatetime wire response.createdAt)
    | .updated_at => some (dumpDatetime wire response.updatedAt)
    | .reported_by_email => some (dumpNullable .string response.reportedByEmail)

def IncidentResponse.validate (wire : Wire) : Validator IncidentResponse
  | .object members => do
    let id ← required (uuidValidator wire) members .id
    let title ← required textValidator members .title
    let serviceId ← required (uuidValidator wire) members .service_id
    let severity ← required severityValidator members .severity
    let status ← required statusValidator members .status
    let summary ← required textValidator members .summary
    let assignee ← required textValidator members .assignee
    let source ← required textValidator members .source
    let customerImpacting ← required boolValidator members .customer_impacting
    let acknowledgedAt ← required (nullable (datetimeValidator wire)) members .acknowledged_at
    let startedAt ← required (datetimeValidator wire) members .started_at
    let resolvedAt ← required (nullable (datetimeValidator wire)) members .resolved_at
    let createdAt ← required (datetimeValidator wire) members .created_at
    let updatedAt ← required (datetimeValidator wire) members .updated_at
    let reportedByEmail ←
      defaulted (nullable (emailValidator wire)) none members .reported_by_email
    return { id, title, serviceId, severity, status, summary, assignee, startedAt, resolvedAt,
             createdAt, updatedAt, source, customerImpacting, acknowledgedAt, reportedByEmail }
  | _ => none

theorem IncidentResponse.ofIncident_eq {wire : Wire} {incident : Incident}
    (h : EmailNormalised wire incident.reportedByEmail) :
    IncidentResponse.ofIncident wire incident = some incident := by
  unfold IncidentResponse.ofIncident
  cases hemail : incident.reportedByEmail with
  | none => rfl
  | some email =>
    have hparse := h email hemail
    have hsame : { incident with reportedByEmail := some email } = incident := by
      rw [← hemail]
    simp [hparse, hsame]

/-- The gateway reads an answered incident as the service has it. -/
theorem IncidentResponse.validate_dump {wire : Wire} {response : IncidentResponse}
    (h : EmailNormalised wire response.reportedByEmail) :
    IncidentResponse.validate wire (IncidentResponse.dump wire response) = some response := by
  have hdatetime (t : Timestamp) := reads_datetime wire t
  have hnullable (t : Option Timestamp) :
      nullable (datetimeValidator wire) (dumpNullable (dumpDatetime wire) t) = some t :=
    nullable_dumpNullable fun t _ => reads_datetime wire t
  have hemail : nullable (emailValidator wire) (dumpNullable .string response.reportedByEmail) =
      some response.reportedByEmail :=
    nullable_dumpNullable fun e he => reads_email (h e he)
  unfold IncidentResponse.validate IncidentResponse.dump
  dsimp only
  rw [required_dumpMembers (show Field.id ∈ responseFields by decide) rfl
      (reads_uuid wire response.id).2,
    required_dumpMembers (show Field.title ∈ responseFields by decide) rfl
      (reads_text response.title).2,
    required_dumpMembers (show Field.service_id ∈ responseFields by decide) rfl
      (reads_uuid wire response.serviceId).2,
    required_dumpMembers (show Field.severity ∈ responseFields by decide) rfl
      (reads_severity response.severity).2,
    required_dumpMembers (show Field.status ∈ responseFields by decide) rfl
      (reads_status response.status).2,
    required_dumpMembers (show Field.summary ∈ responseFields by decide) rfl
      (reads_text response.summary).2,
    required_dumpMembers (show Field.assignee ∈ responseFields by decide) rfl
      (reads_text response.assignee).2,
    required_dumpMembers (show Field.source ∈ responseFields by decide) rfl
      (reads_text response.source).2,
    required_dumpMembers (show Field.customer_impacting ∈ responseFields by decide) rfl
      (reads_bool response.customerImpacting).2,
    required_dumpMembers (show Field.acknowledged_at ∈ responseFields by decide) rfl
      (hnullable response.acknowledgedAt),
    required_dumpMembers (show Field.started_at ∈ responseFields by decide) rfl
      (hdatetime response.startedAt).2,
    required_dumpMembers (show Field.resolved_at ∈ responseFields by decide) rfl
      (hnullable response.resolvedAt),
    required_dumpMembers (show Field.created_at ∈ responseFields by decide) rfl
      (hdatetime response.createdAt).2,
    required_dumpMembers (show Field.updated_at ∈ responseFields by decide) rfl
      (hdatetime response.updatedAt).2,
    defaulted_dumpMembers (show Field.reported_by_email ∈ responseFields by decide) rfl hemail]
  rfl

end OpsFlow.Incidents
