import OpsFlow.Incidents.Schemas
import OpsFlow.Gateway.Request

namespace OpsFlow.Incidents

inductive Operation
  | list (query : ListQuery)
  | getById (incidentId : Uuid)
  | create (payload : IncidentCreate)
  | update (incidentId : Uuid) (payload : IncidentUpdate)
  | delete (incidentId : Uuid)
  | listForService (serviceId : Uuid) (offset limit : ℕ)

inductive Answer
  | incident (incident : Incident)
  | incidents (incidents : List Incident)
  | deleted
  deriving DecidableEq

inductive GatewayError
  | incidentNotFound (message : String)
  | serviceReference (message : String)
  | unavailable (message : String)
  | protocol (message : String)
  /-- What the driver raises, and no gateway maps. -/
  | dataError
  deriving DecidableEq

abbrev Outcome := Except GatewayError Answer

/-! ## The service inside the backend as a gateway -/

def Local.raised : ServiceError → GatewayError
  | .incidentNotFound message => .incidentNotFound message
  | .serviceReference message => .serviceReference message
  | .dataError => .dataError

/-- The state after an operation of a service; one that raises is rolled back. -/
def conclude {σ : Type} (raised : ServiceError → GatewayError) (state : σ) :
    Except ServiceError (Answer × σ) → Outcome × σ
  | .error e => (.error (raised e), state)
  | .ok (answer, state') => (.ok answer, state')

def Local.performed (serviceExists : Uuid → Bool) (driver : Driver) (rows : Rows) (draw : Draw) :
    Operation → Except ServiceError (Answer × Rows)
  | .list query =>
    (driver.listing (Repository.list driver.ilike rows query)).map fun is => (.incidents is, rows)
  | .getById incidentId =>
    (driver.reading rows incidentId (Incidents.getById rows incidentId)).map fun i =>
      (.incident i, rows)
  | .create payload =>
    (Local.create serviceExists rows payload draw).map fun (i, rows') => (.incident i, rows')
  | .update incidentId payload =>
    (driver.reading rows incidentId
      (Local.update serviceExists rows incidentId payload draw)).map fun (i, rows') =>
        (.incident i, rows')
  | .delete incidentId =>
    (driver.reading rows incidentId (Incidents.delete rows incidentId)).map fun rows' =>
      (.deleted, rows')
  | .listForService serviceId offset limit =>
    (driver.listing (Local.listForService serviceExists rows serviceId offset limit)).map
      fun is => (.incidents is, rows)

def Local.perform (serviceExists : Uuid → Bool) (driver : Driver) (rows : Rows) (draw : Draw)
    (operation : Operation) : Outcome × Rows :=
  conclude raised rows (performed serviceExists driver rows draw operation)

/-! ## The private HTTP interface of the Incident Service -/

structure HttpRequest where
  method : String
  path : List String
  params : List (String × String)
  body : Option Json

structure HttpResponse where
  statusCode : ℕ
  body : Option Json

def httpException (statusCode : ℕ) (detail : String) : HttpResponse :=
  ⟨statusCode, some (.object [("detail", .string detail)])⟩

/-- A request that fails its validation; the list of errors is left out. -/
def unprocessable : HttpResponse := ⟨422, some (.object [("detail", .array [])])⟩

def internalServerError : HttpResponse := ⟨500, none⟩

@[simp] theorem statusCode_httpException (statusCode : ℕ) (detail : String) :
    (httpException statusCode detail).statusCode = statusCode := rfl

@[simp] theorem statusCode_unprocessable : unprocessable.statusCode = 422 := rfl

@[simp] theorem statusCode_internalServerError : internalServerError.statusCode = 500 := rfl

/-- What `resolve_request_id` gives to a request: an ASCII token, and no long one. -/
structure RequestId where
  text : String
  nonempty : text ≠ ""
  short : text.length ≤ 128
  token : ∀ c ∈ text.toList, c.isAlphanum ∨ c ∈ ['.', '_', ':', '-']

namespace Api

variable (wire : Wire) (serviceExists : Uuid → Bool) (driver : Driver)

def optionalParam {α : Type} (parse : String → Option α) (params : List (String × String))
    (name : String) : Option (Option α) :=
  match params.lookup name with
  | none => some none
  | some value => (parse value).map some

def intParam (default minimum : ℤ) (maximum : Option ℤ) (params : List (String × String))
    (name : String) : Option ℕ := do
  let value ← match params.lookup name with
    | none => some default
    | some text => wire.parseInt text
  if minimum ≤ value ∧ ∀ bound ∈ maximum, value ≤ bound then some value.toNat else none

def listQuery (params : List (String × String)) : Option ListQuery := do
  let search ← optionalParam some params "search"
  let serviceId ← optionalParam wire.parseUuid params "serviceId"
  let severity ← optionalParam IncidentSeverity.ofValue? params "severity"
  let status ← optionalParam IncidentStatus.ofValue? params "status"
  let offset ← intParam wire 0 0 none params "offset"
  let limit ← intParam wire 50 1 (some 100) params "limit"
  return { search, serviceId, severity, status, offset, limit }

/-- The body of an answer with one incident. If the incident does not fit the response schema
the request fails, and its transaction is rolled back. -/
def answered (statusCode : ℕ) (db : Database) (incident : Incident) (db' : Database) :
    HttpResponse × Database :=
  match IncidentResponse.ofIncident wire incident with
  | none => (internalServerError, db)
  | some response => (⟨statusCode, some (IncidentResponse.dump wire response)⟩, db')

def listIncidents (db : Database) (params : List (String × String)) : HttpResponse × Database :=
  match listQuery wire params with
  | none => (unprocessable, db)
  | some query =>
    match driver.listing (Repository.list driver.ilike db.incidents query) with
    | .error _ => (internalServerError, db)
    | .ok incidents =>
      match incidents.mapM (IncidentResponse.ofIncident wire) with
      | none => (internalServerError, db)
      | some responses => (⟨200, some (.array (responses.map (IncidentResponse.dump wire)))⟩, db)

def getIncident (db : Database) (incidentId : Uuid) : HttpResponse × Database :=
  match driver.reading db.incidents incidentId (Incidents.getById db.incidents incidentId) with
  | .error (.incidentNotFound message) => (httpException 404 message, db)
  | .error _ => (internalServerError, db)
  | .ok incident => answered wire 200 db incident db

def createIncident (db : Database) (requestId : RequestId) (draw : Draw)
    (payload : IncidentCreate) : HttpResponse × Database :=
  match Remote.create serviceExists db payload (some requestId.text) draw with
  | .error (.serviceReference message) => (httpException 404 message, db)
  | .error _ => (internalServerError, db)
  | .ok (incident, db') => answered wire 201 db incident db'

def updateIncident (db : Database) (draw : Draw) (incidentId : Uuid) (payload : IncidentUpdate) :
    HttpResponse × Database :=
  match driver.reading db.incidents incidentId
      (Remote.update serviceExists db incidentId payload draw) with
  | .error (.incidentNotFound message) => (httpException 404 message, db)
  | .error (.serviceReference message) => (httpException 400 message, db)
  | .error .dataError => (internalServerError, db)
  | .ok (incident, db') => answered wire 200 db incident db'

def deleteIncident (db : Database) (incidentId : Uuid) : HttpResponse × Database :=
  match driver.reading db.incidents incidentId (Incidents.delete db.incidents incidentId) with
  | .error (.incidentNotFound message) => (httpException 404 message, db)
  | .error _ => (internalServerError, db)
  | .ok rows => (⟨204, none⟩, { db with incidents := rows })

/-- One request: its route, the validation of its path, its parameters and its body, and the
endpoint. `requestId` is what `get_request_id` answers in the service. -/
def handle (db : Database) (requestId : RequestId) (draw : Draw) (request : HttpRequest) :
    HttpResponse × Database :=
  match request.path with
  | ["incidents"] =>
    if request.method = "GET" then listIncidents wire driver db request.params
    else if request.method = "POST" then
      match request.body.bind (IncidentCreate.validate wire) with
      | none => (unprocessable, db)
      | some payload => createIncident wire serviceExists db requestId draw payload
    else (httpException 405 "Method Not Allowed", db)
  | ["incidents", segment] =>
    match wire.parseUuid segment with
    | none => (unprocessable, db)
    | some incidentId =>
      if request.method = "GET" then getIncident wire driver db incidentId
      else if request.method = "PATCH" then
        match request.body.bind (IncidentUpdate.validate wire) with
        | none => (unprocessable, db)
        | some payload => updateIncident wire serviceExists driver db draw incidentId payload
      else if request.method = "DELETE" then deleteIncident driver db incidentId
      else (httpException 405 "Method Not Allowed", db)
  | _ => (httpException 404 "Not Found", db)

end Api

/-! ## The HTTP gateway -/

namespace HttpGateway

variable (wire : Wire)

def param {α : Type} (name : String) (dump : α → String) (value : Option α) :
    List (String × String) :=
  (value.map fun a => (name, dump a)).toList

def listParams (query : ListQuery) : List (String × String) :=
  [("offset", query.offset.repr), ("limit", query.limit.repr)] ++ param "search" id query.search ++
    param "serviceId" Uuid.str query.serviceId ++
    param "severity" IncidentSeverity.value query.severity ++
    param "status" IncidentStatus.value query.status

def listRequest (query : ListQuery) : HttpRequest :=
  ⟨"GET", ["incidents"], listParams query, none⟩

def request : Operation → HttpRequest
  | .list query => listRequest query
  | .getById incidentId => ⟨"GET", ["incidents", incidentId.str], [], none⟩
  | .create payload => ⟨"POST", ["incidents"], [], some (payload.dump wire)⟩
  | .update incidentId payload =>
    ⟨"PATCH", ["incidents", incidentId.str], [], some (payload.dump wire)⟩
  | .delete incidentId => ⟨"DELETE", ["incidents", incidentId.str], [], none⟩
  | .listForService serviceId offset limit =>
    listRequest ⟨none, some serviceId, none, none, offset, limit⟩

def requireStatus (response : HttpResponse) (expectedStatus : ℕ) : Except GatewayError Unit :=
  if response.statusCode = expectedStatus then .ok ()
  else if 500 ≤ response.statusCode then .error (.unavailable "Incident Service is unavailable.")
  else .error (.protocol "Incident Service returned an unexpected response.")

def responseDetail (response : HttpResponse) (fallback : String) : String :=
  match response.body with
  | some (.object members) =>
    match members.lookup "detail" with
    | some (.string detail) => if detail = "" then fallback else detail
    | _ => fallback
  | _ => fallback

def parseIncident (response : HttpResponse) : Except GatewayError Incident :=
  match response.body.bind (IncidentResponse.validate wire) with
  | none => .error (.protocol "Incident Service returned an invalid incident.")
  | some incident => .ok incident

def incidentListValidator : Validator (List Incident)
  | .array elements => elements.mapM (IncidentResponse.validate wire)
  | _ => none

def parseIncidentList (response : HttpResponse) : Except GatewayError (List Incident) :=
  match response.body.bind (incidentListValidator wire) with
  | none => .error (.protocol "Incident Service returned an invalid incident list.")
  | some incidents => .ok incidents

def listResult (response : HttpResponse) : Outcome := do
  requireStatus response 200
  let incidents ← parseIncidentList wire response
  return .incidents incidents

def result (response : HttpResponse) : Operation → Outcome
  | .list _ => listResult wire response
  | .getById _ =>
    if response.statusCode = 404 then
      .error (.incidentNotFound (responseDetail response "Incident not found."))
    else do
      requireStatus response 200
      let incident ← parseIncident wire response
      return .incident incident
  | .create _ =>
    if response.statusCode = 404 then
      .error (.serviceReference (responseDetail response "Referenced service not found."))
    else do
      requireStatus response 201
      let incident ← parseIncident wire response
      return .incident incident
  | .update _ _ =>
    if response.statusCode = 404 then
      .error (.incidentNotFound (responseDetail response "Incident not found."))
    else if response.statusCode = 400 then
      .error (.serviceReference (responseDetail response "Referenced service not found."))
    else do
      requireStatus response 200
      let incident ← parseIncident wire response
      return .incident incident
  | .delete _ =>
    if response.statusCode = 404 then
      .error (.incidentNotFound (responseDetail response "Incident not found."))
    else do
      requireStatus response 204
      return .deleted
  | .listForService _ _ _ => listResult wire response

/-- An operation over a healthy transport: the service answers the one request that is sent. -/
def perform (serviceExists : Uuid → Bool) (driver : Driver) (db : Database)
    (requestId : RequestId) (draw : Draw) (operation : Operation) : Outcome × Database :=
  let answer := Api.handle wire serviceExists driver db requestId draw (request wire operation)
  (result wire answer.1 operation, answer.2)

end HttpGateway

end OpsFlow.Incidents
