import OpsFlow.Values

namespace OpsFlow.Incidents

inductive IncidentSeverity
  | sev1
  | sev2
  | sev3
  | sev4
  deriving DecidableEq, Repr

inductive IncidentStatus
  | opened
  | investigating
  | monitoring
  | resolved
  deriving DecidableEq, Repr

def IncidentSeverity.value : IncidentSeverity → String
  | .sev1 => "SEV-1"
  | .sev2 => "SEV-2"
  | .sev3 => "SEV-3"
  | .sev4 => "SEV-4"

def IncidentStatus.value : IncidentStatus → String
  | .opened => "Open"
  | .investigating => "Investigating"
  | .monitoring => "Monitoring"
  | .resolved => "Resolved"

structure Incident where
  id : Uuid
  title : String
  serviceId : Uuid
  severity : IncidentSeverity
  status : IncidentStatus
  summary : String
  assignee : String
  startedAt : Timestamp
  resolvedAt : Option Timestamp
  createdAt : Timestamp
  updatedAt : Timestamp
  source : String
  customerImpacting : Bool
  acknowledgedAt : Option Timestamp
  reportedByEmail : Option String
  deriving DecidableEq

/-! ## Requests -/

structure IncidentCreate where
  title : String
  serviceId : Uuid
  severity : IncidentSeverity
  status : IncidentStatus
  summary : String
  assignee : String
  startedAt : Option Timestamp
  source : String
  customerImpacting : Bool
  acknowledgedAt : Option Timestamp
  reportedByEmail : Option String

/-- A PATCH: a field is `none` if the request leaves it out, `some none` if it says null. -/
structure IncidentUpdate where
  title : Option (Option String)
  serviceId : Option (Option Uuid)
  severity : Option (Option IncidentSeverity)
  status : Option (Option IncidentStatus)
  summary : Option (Option String)
  assignee : Option (Option String)
  source : Option (Option String)
  customerImpacting : Option (Option Bool)
  acknowledgedAt : Option (Option Timestamp)
  startedAt : Option (Option Timestamp)
  resolvedAt : Option (Option Timestamp)

def IncidentUpdate.empty : IncidentUpdate :=
  ⟨none, none, none, none, none, none, none, none, none, none, none⟩

structure IncidentNotFoundError where
  message : String
  deriving DecidableEq

def IncidentNotFoundError.of (incidentId : Uuid) : IncidentNotFoundError :=
  ⟨"Incident " ++ incidentId.str ++ " was not found."⟩

/-! ## A user's update, as the Incident Service computes it -/

def resolveTimestamp (existing : Incident) (payload : IncidentUpdate)
    (updatedStatus : IncidentStatus) (now : Timestamp) : Option Timestamp :=
  if updatedStatus ≠ .resolved then none
  else
    match payload.resolvedAt.join with
    | some resolvedAt => some resolvedAt
    | none =>
      match existing.resolvedAt with
      | some resolvedAt => some resolvedAt
      | none => some now

/-- The incident that `IncidentService.update` writes back; the clock is read for the time of
resolution first and then for `updated_at`. -/
def updatedIncident (existing : Incident) (payload : IncidentUpdate)
    (resolvedNow updatedNow : Timestamp) : Incident :=
  let updatedStatus := payload.status.join.getD existing.status
  { existing with
    title := payload.title.join.getD existing.title
    serviceId := payload.serviceId.join.getD existing.serviceId
    severity := payload.severity.join.getD existing.severity
    status := updatedStatus
    summary := payload.summary.join.getD existing.summary
    assignee := payload.assignee.join.getD existing.assignee
    source := payload.source.join.getD existing.source
    customerImpacting := payload.customerImpacting.join.getD existing.customerImpacting
    acknowledgedAt := payload.acknowledgedAt.getD existing.acknowledgedAt
    startedAt := payload.startedAt.join.getD existing.startedAt
    resolvedAt := resolveTimestamp existing payload updatedStatus resolvedNow
    updatedAt := updatedNow }

/-! ## Asynchronous processing -/

structure IncidentProcessingResult where
  incidentId : Uuid
  status : IncidentStatus
  changed : Bool
  acknowledgedAt : Option Timestamp
  deriving DecidableEq

def targetStatus (existing : Incident) : IncidentStatus :=
  if existing.status = .opened then .investigating else existing.status

def targetAcknowledgedAt (existing : Incident) (now : Timestamp) : Option Timestamp :=
  if (existing.status = .opened ∨ existing.status = .investigating) ∧
      existing.acknowledgedAt = none then some now
  else existing.acknowledgedAt

def processingChanges (existing : Incident) (now : Timestamp) : Bool :=
  targetStatus existing ≠ existing.status ∨
    targetAcknowledgedAt existing now ≠ existing.acknowledgedAt

/-- The incident that `IncidentTaskProcessingService.process` writes back if it changes any. -/
def processedIncident (existing : Incident) (acknowledgedNow updatedNow : Timestamp) : Incident :=
  { existing with
    status := targetStatus existing
    acknowledgedAt := targetAcknowledgedAt existing acknowledgedNow
    updatedAt := updatedNow }

def unchangedResult (existing : Incident) : IncidentProcessingResult :=
  ⟨existing.id, existing.status, false, existing.acknowledgedAt⟩

def persistedResult (persisted : Incident) : IncidentProcessingResult :=
  ⟨persisted.id, persisted.status, true, persisted.acknowledgedAt⟩

/-! ## Writing back -/

/-- A column of an UPDATE by the unit of work: only a value that differs from the one that was
selected is written. -/
def flushColumn {α : Type} [DecidableEq α] (selected updated latest : α) : α :=
  if updated = selected then latest else updated

/-- The row after `SqlAlchemyIncidentRepository.update` has assigned every field of `updated` to
the model it had `selected` and flushed it onto the row as it is by then. -/
def flushed (selected updated latest : Incident) : Incident :=
  { id := latest.id
    serviceId := flushColumn selected.serviceId updated.serviceId latest.serviceId
    title := flushColumn selected.title updated.title latest.title
    severity := flushColumn selected.severity updated.severity latest.severity
    status := flushColumn selected.status updated.status latest.status
    summary := flushColumn selected.summary updated.summary latest.summary
    assignee := flushColumn selected.assignee updated.assignee latest.assignee
    source := flushColumn selected.source updated.source latest.source
    customerImpacting := flushColumn selected.customerImpacting updated.customerImpacting
      latest.customerImpacting
    acknowledgedAt := flushColumn selected.acknowledgedAt updated.acknowledgedAt
      latest.acknowledgedAt
    reportedByEmail := flushColumn selected.reportedByEmail updated.reportedByEmail
      latest.reportedByEmail
    startedAt := flushColumn selected.startedAt updated.startedAt latest.startedAt
    resolvedAt := flushColumn selected.resolvedAt updated.resolvedAt latest.resolvedAt
    createdAt := flushColumn selected.createdAt updated.createdAt latest.createdAt
    updatedAt := flushColumn selected.updatedAt updated.updatedAt latest.updatedAt }

def flushesNothing (selected updated : Incident) : Bool :=
  { updated with id := selected.id } = selected

@[simp] theorem flushColumn_selected {α : Type} [DecidableEq α] (selected updated : α) :
    flushColumn selected updated selected = updated := by
  unfold flushColumn
  split_ifs with h
  · exact h.symm
  · rfl

/-- On the very row that was selected the whole incident is written. -/
theorem flushed_selected {selected updated : Incident} (h : updated.id = selected.id) :
    flushed selected updated selected = updated := by
  simp [flushed, ← h]

end OpsFlow.Incidents
