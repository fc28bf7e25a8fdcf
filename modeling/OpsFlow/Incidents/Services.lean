import OpsFlow.Incidents.Domain
import Mathlib.Data.List.ReduceOption
import Mathlib.Data.List.Sort

namespace OpsFlow.Incidents

/-! ## The incident repository of both services -/

/-- The stored incidents, oldest row first. -/
abbrev Rows := List Incident

structure ListQuery where
  search : Option String
  serviceId : Option Uuid
  severity : Option IncidentSeverity
  status : Option IncidentStatus
  offset : ℕ
  limit : ℕ

def isSpace (c : Char) : Bool :=
  (9 ≤ c.toNat ∧ c.toNat ≤ 13) ∨ (28 ≤ c.toNat ∧ c.toNat ≤ 32) ∨
    (0x2000 ≤ c.toNat ∧ c.toNat ≤ 0x200A) ∨
    c.toNat ∈ [0x85, 0xA0, 0x1680, 0x2028, 0x2029, 0x202F, 0x205F, 0x3000]

def strip (s : String) : String :=
  String.ofList ((s.toList.dropWhile isSpace).rdropWhile isSpace)

inductive ServiceError
  | incidentNotFound (message : String)
  | serviceReference (message : String)
  /-- The driver does not bind a value, or does not load a column. -/
  | dataError
  deriving DecidableEq

/-- psycopg binds no text with a character zero. -/
def bindsText (s : String) : Bool := '\x00' ∉ s.toList

/-- What a `varchar(n)` column makes of a text, if it takes it: spaces beyond its length are cut
off, and there is no character zero. -/
def varchar (n : ℕ) (s : String) : Option String :=
  if '\x00' ∈ s.toList then none
  else if s.length ≤ n then some s
  else if (s.toList.drop n).all (· = ' ') then some (String.ofList (s.toList.take n))
  else none

theorem varchar_of_length {n : ℕ} {s : String} (hzero : '\x00' ∉ s.toList) (h : s.length ≤ n) :
    varchar n s = some s := by
  unfold varchar
  rw [if_neg hzero, if_pos h]

/-- OFFSET and LIMIT are of type `bigint`. -/
def bindsBigint (n : ℕ) : Bool := n < 2 ^ 63

namespace Repository

def bindTexts (texts : List String) : Except ServiceError Unit :=
  if texts.all bindsText then .ok () else .error .dataError

/-- The pattern that a search is bound as. -/
def searchTexts (q : ListQuery) : List String :=
  match q.search with
  | none => []
  | some search => if search = "" then [] else ["%" ++ strip search ++ "%"]

def binds (q : ListQuery) : Bool :=
  (searchTexts q).all bindsText && bindsBigint q.offset && bindsBigint q.limit

/-- The WHERE clause; `ilike` is the operator of the database. An empty search is no filter. -/
def found (ilike : String → String → Bool) (q : ListQuery) (i : Incident) : Bool :=
  (match q.search with
    | none => true
    | some search =>
      if search = "" then true
      else
        let pattern := "%" ++ strip search ++ "%"
        ilike i.title pattern || ilike i.summary pattern || ilike i.assignee pattern) &&
  (match q.serviceId with
    | none => true
    | some serviceId => i.serviceId = serviceId) &&
  (match q.severity with
    | none => true
    | some severity => i.severity = severity) &&
  (match q.status with
    | none => true
    | some status => i.status = status)

def newestFirst (rows : Rows) : Rows :=
  rows.mergeSort fun i j => decide (j.createdAt ≤ i.createdAt)

def page (ilike : String → String → Bool) (rows : Rows) (q : ListQuery) : List Incident :=
  ((newestFirst (rows.filter (found ilike q))).drop q.offset).take q.limit

def list (ilike : String → String → Bool) (rows : Rows) (q : ListQuery) :
    Except ServiceError (List Incident) :=
  if binds q then .ok (page ilike rows q) else .error .dataError

def servicePage (rows : Rows) (serviceId : Uuid) (offset limit : ℕ) : List Incident :=
  ((newestFirst (rows.filter fun i => i.serviceId = serviceId)).drop offset).take limit

def listByService (rows : Rows) (serviceId : Uuid) (offset limit : ℕ) :
    Except ServiceError (List Incident) :=
  if bindsBigint offset && bindsBigint limit then .ok (servicePage rows serviceId offset limit)
  else .error .dataError

def getById (rows : Rows) (incidentId : Uuid) : Option Incident :=
  rows.find? fun i => i.id = incidentId

def textColumns (incident : Incident) : List (Option String) :=
  [some incident.title, some incident.summary, some incident.assignee, some incident.source,
    incident.reportedByEmail]

def create (rows : Rows) (incident : Incident) : Except ServiceError Rows := do
  bindTexts (textColumns incident).reduceOption
  return rows ++ [incident]

/-- The texts that an UPDATE binds: it sets the columns that have changed. -/
def changedTexts (model incident : Incident) : List String :=
  ((textColumns model).zip (textColumns incident)).filterMap fun (old, new) =>
    if old = new then none else new

def replace (rows : Rows) (incident : Incident) : Rows :=
  rows.map fun i => if i.id = incident.id then incident else i

/-- `model` is the row of the incident, as it has been read. -/
def update (rows : Rows) (model incident : Incident) : Except ServiceError Rows := do
  bindTexts (changedTexts model incident)
  return replace rows incident

def delete (rows : Rows) (incidentId : Uuid) : Rows := rows.filter fun i => i.id ≠ incidentId

theorem create_eq_ok {rows rows' : Rows} {incident : Incident}
    (h : create rows incident = .ok rows') : rows' = rows ++ [incident] := by
  obtain ⟨_, -, h⟩ := bind_eq_ok.mp h
  exact (Except.ok.inj h).symm

theorem update_eq_ok {rows rows' : Rows} {model incident : Incident}
    (h : update rows model incident = .ok rows') : rows' = replace rows incident := by
  obtain ⟨_, -, h⟩ := bind_eq_ok.mp h
  exact (Except.ok.inj h).symm

/-- No text is bound where no text changes. -/
theorem update_of_textColumns {rows : Rows} {model incident : Incident}
    (h : textColumns incident = textColumns model) :
    update rows model incident = .ok (replace rows incident) := by
  have hnone : changedTexts model incident = [] := by
    rw [changedTexts, h]
    simp [textColumns]
  rw [update, hnone]
  rfl

end Repository

/-! ## The database and its driver -/

/-- ILIKE, and the instants that come back as a `datetime` in the time zone of the session. -/
structure Driver where
  ilike : String → String → Bool
  loads : Timestamp → Bool

def instants (incident : Incident) : List Timestamp :=
  [incident.startedAt, incident.createdAt, incident.updatedAt] ++ incident.resolvedAt.toList ++
    incident.acknowledgedAt.toList

def Driver.loadsAll (driver : Driver) (selected : Rows) : Bool :=
  selected.all fun incident => (instants incident).all driver.loads

def Driver.load (driver : Driver) (selected : Rows) : Except ServiceError Unit :=
  if driver.loadsAll selected then .ok () else .error .dataError

/-- A service that begins by selecting the row of an incident. -/
def Driver.reading {α : Type} (driver : Driver) (rows : Rows) (incidentId : Uuid)
    (service : Except ServiceError α) : Except ServiceError α := do
  driver.load (Repository.getById rows incidentId).toList
  service

/-- A service that ends by loading the rows that it has selected. -/
def Driver.listing (driver : Driver) (service : Except ServiceError (List Incident)) :
    Except ServiceError (List Incident) := do
  let incidents ← service
  driver.load incidents
  return incidents

/-! ## The application services -/

/-- What a request draws while it runs: its clock readings and its fresh identifiers. -/
structure Draw where
  incidentId : Uuid
  now : Timestamp
  resolvedNow : Timestamp
  updatedNow : Timestamp
  taskId : Uuid
  messageId : Uuid
  correlationId : Uuid

def getById (rows : Rows) (incidentId : Uuid) : Except ServiceError Incident :=
  match Repository.getById rows incidentId with
  | none => .error (.incidentNotFound (IncidentNotFoundError.of incidentId).message)
  | some incident => .ok incident

theorem getById_eq_ok_iff {rows : Rows} {incidentId : Uuid} {existing : Incident} :
    getById rows incidentId = .ok existing ↔
      Repository.getById rows incidentId = some existing := by
  unfold getById
  cases Repository.getById rows incidentId with
  | none => simp
  | some incident => simp

theorem mem_of_getById {rows : Rows} {incidentId : Uuid} {existing : Incident}
    (h : Repository.getById rows incidentId = some existing) :
    existing ∈ rows ∧ existing.id = incidentId :=
  ⟨List.mem_of_find?_eq_some h, by simpa using List.find?_some h⟩

def ensureServiceExists (serviceExists : Uuid → Bool) (serviceId : Uuid) :
    Except ServiceError Unit :=
  if serviceExists serviceId then .ok ()
  else .error (.serviceReference ("Service " ++ serviceId.str ++ " does not exist."))

def delete (rows : Rows) (incidentId : Uuid) : Except ServiceError Rows := do
  let _ ← getById rows incidentId
  return Repository.delete rows incidentId

/-- A new incident with the values of the request; `resolved_at` follows the status. -/
def createdIncident (payload : IncidentCreate) (source : String) (customerImpacting : Bool)
    (acknowledgedAt : Option Timestamp) (draw : Draw) : Incident :=
  { id := draw.incidentId
    title := payload.title
    serviceId := payload.serviceId
    severity := payload.severity
    status := payload.status
    summary := payload.summary
    assignee := payload.assignee
    startedAt := payload.startedAt.getD draw.now
    resolvedAt := if payload.status = .resolved then some draw.now else none
    createdAt := draw.now
    updatedAt := draw.now
    source := source
    customerImpacting := customerImpacting
    acknowledgedAt := acknowledgedAt
    reportedByEmail := payload.reportedByEmail }

/-! ### The service inside the backend -/

namespace Local

/-- The domain defaults stand where the constructor is given no value. -/
def create (serviceExists : Uuid → Bool) (rows : Rows) (payload : IncidentCreate) (draw : Draw) :
    Except ServiceError (Incident × Rows) := do
  ensureServiceExists serviceExists payload.serviceId
  let incident := createdIncident payload "manual" false none draw
  return (incident, ← Repository.create rows incident)

def resolvedAt (existing : Incident) (updatedStatus : IncidentStatus) (now : Timestamp) :
    Option Timestamp :=
  if existing.status ≠ .resolved ∧ updatedStatus = .resolved then some now
  else if existing.status = .resolved ∧ updatedStatus ≠ .resolved then none
  else existing.resolvedAt

def updatedIncident (existing : Incident) (payload : IncidentUpdate) (draw : Draw) : Incident :=
  let updatedStatus := payload.status.join.getD existing.status
  { existing with
    title := payload.title.join.getD existing.title
    serviceId := payload.serviceId.join.getD existing.serviceId
    severity := payload.severity.join.getD existing.severity
    status := updatedStatus
    summary := payload.summary.join.getD existing.summary
    assignee := payload.assignee.join.getD existing.assignee
    startedAt := payload.startedAt.join.getD existing.startedAt
    resolvedAt := resolvedAt existing updatedStatus draw.resolvedNow
    updatedAt := draw.updatedNow }

/-- The check of a service that the payload names, be it the present one or not. -/
def checkService (serviceExists : Uuid → Bool) (payload : IncidentUpdate) :
    Except ServiceError Unit :=
  match payload.serviceId.join with
  | none => .ok ()
  | some serviceId => ensureServiceExists serviceExists serviceId

def update (serviceExists : Uuid → Bool) (rows : Rows) (incidentId : Uuid)
    (payload : IncidentUpdate) (draw : Draw) : Except ServiceError (Incident × Rows) := do
  let existing ← getById rows incidentId
  checkService serviceExists payload
  let updated := updatedIncident existing payload draw
  return (updated, ← Repository.update rows existing updated)

def listForService (serviceExists : Uuid → Bool) (rows : Rows) (serviceId : Uuid)
    (offset limit : ℕ) : Except ServiceError (List Incident) :=
  if serviceExists serviceId then Repository.listByService rows serviceId offset limit
  else .error (.incidentNotFound serviceId.str)

variable {serviceExists : Uuid → Bool} {rows rows' : Rows} {incident : Incident} {draw : Draw}

theorem create_eq_ok {payload : IncidentCreate}
    (h : create serviceExists rows payload draw = .ok (incident, rows')) :
    incident = createdIncident payload "manual" false none draw ∧ rows' = rows ++ [incident] := by
  obtain ⟨_, -, h⟩ := bind_eq_ok.mp h
  obtain ⟨rows, hrows, h⟩ := bind_eq_ok.mp h
  obtain ⟨rfl, rfl⟩ := Prod.mk.inj (Except.ok.inj h)
  exact ⟨rfl, Repository.create_eq_ok hrows⟩

theorem update_eq_ok {incidentId : Uuid} {payload : IncidentUpdate}
    (h : update serviceExists rows incidentId payload draw = .ok (incident, rows')) :
    ∃ existing, Repository.getById rows incidentId = some existing ∧
      incident = updatedIncident existing payload draw ∧
      rows' = Repository.replace rows incident := by
  obtain ⟨existing, hexisting, h⟩ := bind_eq_ok.mp h
  obtain ⟨_, -, h⟩ := bind_eq_ok.mp h
  obtain ⟨rows, hrows, h⟩ := bind_eq_ok.mp h
  obtain ⟨rfl, rfl⟩ := Prod.mk.inj (Except.ok.inj h)
  exact ⟨existing, getById_eq_ok_iff.mp hexisting, rfl, Repository.update_eq_ok hrows⟩

end Local

/-! ### The incident service of its own -/

structure IncidentTaskOutboxMessage where
  id : Uuid
  taskId : Uuid
  incidentId : Uuid
  schemaVersion : String
  taskType : String
  idempotencyKey : String
  correlationId : String
  causationId : Option String
  payload : Json
  metadata : Json
  createdAt : Timestamp

structure Database where
  incidents : Rows
  taskOutbox : List IncidentTaskOutboxMessage

namespace Remote

def taskMessage (incident : Incident) (correlationId : Option String) (draw : Draw) :
    IncidentTaskOutboxMessage :=
  { id := draw.messageId
    taskId := draw.taskId
    incidentId := incident.id
    schemaVersion := "1.0"
    taskType := "incident.processing.requested"
    idempotencyKey := "incident:" ++ incident.id.str ++ ":process:v1"
    correlationId :=
      match correlationId with
      | some correlationId =>
        if correlationId = "" then draw.correlationId.str else correlationId
      | none => draw.correlationId.str
    causationId := none
    payload := .object [("incident_id", .string incident.id.str)]
    metadata := .object [("source", .string "incident-service"),
      ("operation", .string "incident.create")]
    createdAt := draw.now }

/-- `create` of the outbox; only the correlation identifier comes from outside. -/
def createTask (outbox : List IncidentTaskOutboxMessage) (message : IncidentTaskOutboxMessage) :
    Except ServiceError (List IncidentTaskOutboxMessage) :=
  match varchar 128 message.correlationId with
  | none => .error .dataError
  | some correlationId => .ok (outbox ++ [{ message with correlationId }])

def create (serviceExists : Uuid → Bool) (db : Database) (payload : IncidentCreate)
    (correlationId : Option String) (draw : Draw) : Except ServiceError (Incident × Database) := do
  ensureServiceExists serviceExists payload.serviceId
  let incident := createdIncident payload payload.source payload.customerImpacting
    payload.acknowledgedAt draw
  return (incident,
    { incidents := ← Repository.create db.incidents incident
      taskOutbox := ← createTask db.taskOutbox (taskMessage incident correlationId draw) })

/-- The check of a service to which the payload moves the incident. -/
def checkService (serviceExists : Uuid → Bool) (existing : Incident) (payload : IncidentUpdate) :
    Except ServiceError Unit :=
  match payload.serviceId.join with
  | none => .ok ()
  | some serviceId =>
    if serviceId ≠ existing.serviceId then ensureServiceExists serviceExists serviceId
    else .ok ()

def update (serviceExists : Uuid → Bool) (db : Database) (incidentId : Uuid)
    (payload : IncidentUpdate) (draw : Draw) : Except ServiceError (Incident × Database) := do
  let existing ← getById db.incidents incidentId
  checkService serviceExists existing payload
  let updated := updatedIncident existing payload draw.resolvedNow draw.updatedNow
  return (updated, { db with incidents := ← Repository.update db.incidents existing updated })

variable {serviceExists : Uuid → Bool} {db db' : Database} {incident : Incident} {draw : Draw}

theorem create_eq_ok {payload : IncidentCreate} {correlationId : Option String}
    (h : create serviceExists db payload correlationId draw = .ok (incident, db')) :
    incident = createdIncident payload payload.source payload.customerImpacting
      payload.acknowledgedAt draw ∧ db'.incidents = db.incidents ++ [incident] := by
  obtain ⟨_, -, h⟩ := bind_eq_ok.mp h
  obtain ⟨rows, hrows, h⟩ := bind_eq_ok.mp h
  obtain ⟨tasks, -, h⟩ := bind_eq_ok.mp h
  obtain ⟨rfl, rfl⟩ := Prod.mk.inj (Except.ok.inj h)
  exact ⟨rfl, Repository.create_eq_ok hrows⟩

theorem update_eq_ok {incidentId : Uuid} {payload : IncidentUpdate}
    (h : update serviceExists db incidentId payload draw = .ok (incident, db')) :
    ∃ existing, Repository.getById db.incidents incidentId = some existing ∧
      incident = updatedIncident existing payload draw.resolvedNow draw.updatedNow ∧
      db'.incidents = Repository.replace db.incidents incident := by
  obtain ⟨existing, hexisting, h⟩ := bind_eq_ok.mp h
  obtain ⟨_, -, h⟩ := bind_eq_ok.mp h
  obtain ⟨rows, hrows, h⟩ := bind_eq_ok.mp h
  obtain ⟨rfl, rfl⟩ := Prod.mk.inj (Except.ok.inj h)
  exact ⟨existing, getById_eq_ok_iff.mp hexisting, rfl, Repository.update_eq_ok hrows⟩

end Remote

end OpsFlow.Incidents
