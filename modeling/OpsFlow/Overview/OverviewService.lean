import OpsFlow.Incidents.Pagination
import OpsFlow.Incidents.HttpTransparency

namespace OpsFlow.Overview
open OpsFlow.Incidents

/-! ## The service catalog -/

inductive ServiceStatus
  | healthy
  | degraded
  | critical
  deriving DecidableEq, Repr

/-- A service of the catalog; its `incidents`, which the repository leaves empty, are left out. -/
structure Service where
  id : Uuid
  name : String
  owner : String
  status : ServiceStatus
  uptime : String
  latencyMs : ℕ
  description : String
  region : String
  version : String
  lastDeployedAt : Timestamp
  dependencies : List String
  deriving DecidableEq

structure ServiceQuery where
  search : Option String
  status : Option ServiceStatus
  offset : ℕ
  limit : ℕ

namespace ServiceRepository

/-- The WHERE clause; `ilike` is the operator of the database. An empty search is no filter. -/
def found (ilike : String → String → Bool) (q : ServiceQuery) (s : Service) : Bool :=
  (match q.search with
    | none => true
    | some search =>
      if search = "" then true
      else
        let pattern := "%" ++ strip search ++ "%"
        ilike s.name pattern || ilike s.owner pattern || ilike s.description pattern) &&
  (match q.status with
    | none => true
    | some status => s.status = status)

/-- The rows in the order of their names, which the collation of the database decides. -/
def list (ilike nameLe : String → String → Bool) (rows : List Service) (q : ServiceQuery) :
    List Service :=
  (((rows.filter (found ilike q)).mergeSort fun s t => nameLe s.name t.name).drop q.offset).take
    q.limit

end ServiceRepository

/-! ## The incident gateway -/

/-- How a call of the gateway comes out. The errors that derive from `IncidentGatewayError`
are those of a service that is not available, of an open circuit, and of an answer that
cannot be read. -/
inductive GatewayOutcome
  | answers
  | incidentGatewayError
  | otherException (message : String)
  deriving DecidableEq

inductive GatewayReply
  | incidents (incidents : List Incident)
  | incidentGatewayError
  | otherException (message : String)

def gatewayList (ilike : String → String → Bool) (sorted : Rows) (outcome : GatewayOutcome)
    (q : ListQuery) : GatewayReply :=
  match outcome with
  | .answers =>
    .incidents (((sorted.filter (Repository.found ilike q)).drop q.offset).take q.limit)
  | .incidentGatewayError => .incidentGatewayError
  | .otherException message => .otherException message

/-! ## The overview -/

structure OverviewSummary where
  totalServices : ℕ
  healthyServices : ℕ
  degradedServices : ℕ
  criticalServices : ℕ
  activeIncidents : Option ℕ
  customerImpactingIncidents : Option ℕ
  deriving DecidableEq

abbrev ServiceResponse := Service

structure OverviewResponse where
  summary : OverviewSummary
  services : List ServiceResponse
  incidents : List IncidentResponse
  incidentDataAvailable : Bool

inductive OverviewError
  | gateway (message : String)
  | validation
  deriving DecidableEq

def overviewCollectionLimit : ℕ := 100

def active (incident : Incident) : Bool := incident.status ≠ .resolved

def buildSummary (services : List Service) (incidents : Option (List Incident)) : OverviewSummary :=
  let activeIncidents := incidents.map fun incidents => incidents.filter active
  { totalServices := services.length
    healthyServices := services.countP fun service => service.status = .healthy
    degradedServices := services.countP fun service => service.status = .degraded
    criticalServices := services.countP fun service => service.status = .critical
    activeIncidents := activeIncidents.map List.length
    customerImpactingIncidents := activeIncidents.map fun incidents =>
      incidents.countP fun incident => incident.customerImpacting }

def overviewServices : ServiceQuery := ⟨none, none, 0, overviewCollectionLimit⟩

def overviewIncidents : ListQuery := ⟨none, none, none, none, 0, overviewCollectionLimit⟩

/-- Of the gateway's errors, only an `IncidentGatewayError` is caught. -/
def getOverview (wire : Wire) (listServices : ServiceQuery → List Service)
    (listIncidents : ListQuery → GatewayReply) : Except OverviewError OverviewResponse :=
  let services := listServices overviewServices
  match listIncidents overviewIncidents with
  | .otherException message => .error (.gateway message)
  | .incidentGatewayError => .ok
      { summary := buildSummary services none
        services := services
        incidents := []
        incidentDataAvailable := false }
  | .incidents incidents =>
    match incidents.mapM (IncidentResponse.ofIncident wire) with
    | none => .error .validation
    | some responses => .ok
        { summary := buildSummary services (some incidents)
          services := services
          incidents := responses
          incidentDataAvailable := true }

/-! ## Both gateways answer so -/

variable {ilike nameLe : String → String → Bool} {store sorted : Rows} {catalog : List Service}

theorem found_overviewIncidents (ilike : String → String → Bool) (rows : Rows) :
    rows.filter (Repository.found ilike overviewIncidents) = rows :=
  List.filter_eq_self.mpr fun _ _ => rfl

theorem gatewayList_overviewIncidents (ilike : String → String → Bool) (sorted : Rows) :
    gatewayList ilike sorted .answers overviewIncidents = .incidents (sorted.take 100) := by
  unfold gatewayList
  rw [found_overviewIncidents]
  rfl

/-- The store may answer with the first 100 rows of each order that it may read them in. -/
theorem listAnswer_overviewIncidents {page : List Incident} :
    Repository.ListAnswer ilike store overviewIncidents page ↔
      ∃ sorted, Paging.Arranged Incident.createdAt store sorted ∧
        gatewayList ilike sorted .answers overviewIncidents = .incidents page := by
  unfold Repository.ListAnswer Paging.Page
  rw [found_overviewIncidents]
  refine exists_congr fun sorted => and_congr_right fun _ => ?_
  rw [gatewayList_overviewIncidents, GatewayReply.incidents.injEq]
  exact eq_comm

/-- Over a healthy transport, the HTTP gateway hands the page of the store through. -/
theorem httpGateway_overviewIncidents {wire : Wire} {serviceExists : Uuid → Bool}
    {driver : Driver} {db : Database} {requestId : RequestId} {draw : Draw}
    (hemails : EmailsNormalised wire db.incidents)
    (hloads :
      driver.loadsAll (Repository.page driver.ilike db.incidents overviewIncidents) = true) :
    gatewayList driver.ilike (Repository.newestFirst db.incidents) .answers overviewIncidents =
      .incidents (Repository.page driver.ilike db.incidents overviewIncidents) ∧
    (HttpGateway.perform wire serviceExists driver db requestId draw (.list overviewIncidents)).1 =
      .ok (.incidents (Repository.page driver.ilike db.incidents overviewIncidents)) := by
  have hadmitted : (Operation.list overviewIncidents).Admitted wire := ⟨by decide, by decide⟩
  have hbinds : Repository.binds overviewIncidents = true := by decide
  constructor
  · rw [gatewayList_overviewIncidents]
    unfold Repository.page
    rw [found_overviewIncidents]
    rfl
  · rw [HttpGateway.perform_eq hemails hadmitted]
    simp only [Remote.perform, Remote.performed, listing_list, hbinds, hloads, and_self, if_true]
    rfl

end OpsFlow.Overview
