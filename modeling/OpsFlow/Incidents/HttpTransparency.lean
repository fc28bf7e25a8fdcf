import OpsFlow.Incidents.HttpGateway
import Mathlib.Tactic.SplitIfs

namespace OpsFlow.Incidents

def Operation.Admitted (wire : Wire) : Operation → Prop
  | .list query => 1 ≤ query.limit ∧ query.limit ≤ 100
  | .create payload => payload.Admitted wire
  | .update _ payload => payload.Admitted
  | .listForService _ _ limit => 1 ≤ limit ∧ limit ≤ 100
  | .getById _ | .delete _ => True

def EmailsNormalised (wire : Wire) (rows : Rows) : Prop :=
  ∀ incident ∈ rows, EmailNormalised wire incident.reportedByEmail

/-- What the gateway raises once the service has raised: it sees a response without a detail where
the service has mapped nothing. -/
def Remote.raised : ServiceError → GatewayError
  | .incidentNotFound message => .incidentNotFound message
  | .serviceReference message => .serviceReference message
  | .dataError => .unavailable "Incident Service is unavailable."

/-- What an operation comes to at the Incident Service, with HTTP taken away. -/
def Remote.performed (serviceExists : Uuid → Bool) (driver : Driver) (db : Database)
    (requestId : RequestId) (draw : Draw) : Operation → Except ServiceError (Answer × Database)
  | .list query =>
    (driver.listing (Repository.list driver.ilike db.incidents query)).map fun is =>
      (.incidents is, db)
  | .getById incidentId =>
    (driver.reading db.incidents incidentId (Incidents.getById db.incidents incidentId)).map
      fun i => (.incident i, db)
  | .create payload =>
    (Remote.create serviceExists db payload (some requestId.text) draw).map fun (i, db') =>
      (.incident i, db')
  | .update incidentId payload =>
    (driver.reading db.incidents incidentId
      (Remote.update serviceExists db incidentId payload draw)).map fun (i, db') =>
        (.incident i, db')
  | .delete incidentId =>
    (driver.reading db.incidents incidentId (Incidents.delete db.incidents incidentId)).map
      fun rows => (.deleted, { db with incidents := rows })
  | .listForService serviceId offset limit =>
    (driver.listing (Repository.list driver.ilike db.incidents
      ⟨none, some serviceId, none, none, offset, limit⟩)).map fun is => (.incidents is, db)

def Remote.perform (serviceExists : Uuid → Bool) (driver : Driver) (db : Database)
    (requestId : RequestId) (draw : Draw) (operation : Operation) : Outcome × Database :=
  conclude raised db (performed serviceExists driver db requestId draw operation)

/-! ## What the services answer -/

theorem getById_eq_ok {rows : Rows} {incidentId : Uuid} {incident : Incident}
    (h : getById rows incidentId = .ok incident) : incident ∈ rows :=
  (mem_of_getById (getById_eq_ok_iff.mp h)).1

theorem getById_eq_error {rows : Rows} {incidentId : Uuid} {e : ServiceError}
    (h : getById rows incidentId = .error e) :
    ∃ message, message ≠ "" ∧ e = .incidentNotFound message := by
  unfold getById at h
  split at h
  · refine ⟨_, ?_, (Except.error.inj h).symm⟩
    simp [IncidentNotFoundError.of]
  · contradiction

theorem ensureServiceExists_eq_error {serviceExists : Uuid → Bool} {serviceId : Uuid}
    {e : ServiceError} (h : ensureServiceExists serviceExists serviceId = .error e) :
    ∃ message, message ≠ "" ∧ e = .serviceReference message := by
  unfold ensureServiceExists at h
  split_ifs at h
  refine ⟨_, ?_, (Except.error.inj h).symm⟩
  simp

theorem load_eq_error {driver : Driver} {selected : Rows} {e : ServiceError}
    (h : driver.load selected = .error e) : e = .dataError := by
  unfold Driver.load at h
  split_ifs at h
  exact (Except.error.inj h).symm

theorem bindTexts_eq_error {texts : List String} {e : ServiceError}
    (h : Repository.bindTexts texts = .error e) : e = .dataError := by
  unfold Repository.bindTexts at h
  split_ifs at h
  exact (Except.error.inj h).symm

theorem create_rows_eq_error {rows : Rows} {incident : Incident} {e : ServiceError}
    (h : Repository.create rows incident = .error e) : e = .dataError := by
  obtain h | ⟨_, -, h⟩ := bind_eq_error.mp h
  · exact bindTexts_eq_error h
  · contradiction

theorem update_rows_eq_error {rows : Rows} {model incident : Incident} {e : ServiceError}
    (h : Repository.update rows model incident = .error e) : e = .dataError := by
  obtain h | ⟨_, -, h⟩ := bind_eq_error.mp h
  · exact bindTexts_eq_error h
  · contradiction

theorem createTask_eq_error {outbox : List IncidentTaskOutboxMessage}
    {message : IncidentTaskOutboxMessage} {e : ServiceError}
    (h : Remote.createTask outbox message = .error e) : e = .dataError := by
  unfold Remote.createTask at h
  split at h
  · exact (Except.error.inj h).symm
  · contradiction

theorem listing_list {driver : Driver} {rows : Rows} {query : ListQuery} :
    driver.listing (Repository.list driver.ilike rows query) =
      if Repository.binds query = true ∧
          driver.loadsAll (Repository.page driver.ilike rows query) = true then
        .ok (Repository.page driver.ilike rows query)
      else .error .dataError := by
  unfold Driver.listing Repository.list Driver.load
  by_cases hbinds : Repository.binds query = true
  · by_cases hloads : driver.loadsAll (Repository.page driver.ilike rows query) = true
    · simp [hbinds, hloads, bind, Except.bind, pure, Except.pure]
    · simp [hbinds, hloads, bind, Except.bind]
  · simp [hbinds, bind, Except.bind]

theorem list_eq_error {driver : Driver} {rows : Rows} {query : ListQuery} {e : ServiceError}
    (h : driver.listing (Repository.list driver.ilike rows query) = .error e) :
    e = .dataError := by
  rw [listing_list] at h
  split_ifs at h
  exact (Except.error.inj h).symm

/-- What is listed are rows. -/
theorem list_eq_ok {driver : Driver} {rows : Rows} {query : ListQuery} {incidents : List Incident}
    (h : driver.listing (Repository.list driver.ilike rows query) = .ok incidents) :
    ∀ i ∈ incidents, i ∈ rows := by
  rw [listing_list] at h
  split_ifs at h
  obtain rfl := Except.ok.inj h
  intro i hi
  have hsorted := List.mem_of_mem_drop (List.mem_of_mem_take hi)
  exact List.mem_of_mem_filter (List.mem_mergeSort.mp hsorted)

theorem reading_eq_error {α : Type} {driver : Driver} {rows : Rows} {incidentId : Uuid}
    {service : Except ServiceError α} {e : ServiceError}
    (h : driver.reading rows incidentId service = .error e) :
    e = .dataError ∨ service = .error e := by
  obtain h | ⟨_, -, h⟩ := bind_eq_error.mp h
  · exact .inl (load_eq_error h)
  · exact .inr h

theorem reading_eq_ok {α : Type} {driver : Driver} {rows : Rows} {incidentId : Uuid}
    {service : Except ServiceError α} {a : α}
    (h : driver.reading rows incidentId service = .ok a) : service = .ok a := by
  obtain ⟨_, -, h⟩ := bind_eq_ok.mp h
  exact h

theorem delete_eq_error {rows : Rows} {incidentId : Uuid} {e : ServiceError}
    (h : delete rows incidentId = .error e) :
    ∃ message, message ≠ "" ∧ e = .incidentNotFound message := by
  obtain h | ⟨_, -, h⟩ := bind_eq_error.mp h
  · exact getById_eq_error h
  · contradiction

theorem create_eq_error {serviceExists : Uuid → Bool} {db : Database} {payload : IncidentCreate}
    {correlationId : Option String} {draw : Draw} {e : ServiceError}
    (h : Remote.create serviceExists db payload correlationId draw = .error e) :
    e = .dataError ∨ ∃ message, message ≠ "" ∧ e = .serviceReference message := by
  obtain h | ⟨_, -, h⟩ := bind_eq_error.mp h
  · exact .inr (ensureServiceExists_eq_error h)
  · obtain h | ⟨_, -, h⟩ := bind_eq_error.mp h
    · exact .inl (create_rows_eq_error h)
    · obtain h | ⟨_, -, h⟩ := bind_eq_error.mp h
      · exact .inl (createTask_eq_error h)
      · contradiction

theorem checkService_eq_error {serviceExists : Uuid → Bool} {existing : Incident}
    {payload : IncidentUpdate} {e : ServiceError}
    (h : Remote.checkService serviceExists existing payload = .error e) :
    ∃ message, message ≠ "" ∧ e = .serviceReference message := by
  unfold Remote.checkService at h
  split at h
  · contradiction
  · split_ifs at h
    exact ensureServiceExists_eq_error h

/-- An update that raises met no incident, a service that does not exist, or the
driver's refusal. -/
theorem update_eq_error {serviceExists : Uuid → Bool} {db : Database} {incidentId : Uuid}
    {payload : IncidentUpdate} {draw : Draw} {e : ServiceError}
    (h : Remote.update serviceExists db incidentId payload draw = .error e) :
    e = .dataError ∨
      ∃ message, message ≠ "" ∧
        (e = .incidentNotFound message ∨ e = .serviceReference message) := by
  obtain h | ⟨existing, -, h⟩ := bind_eq_error.mp h
  · obtain ⟨message, hne, rfl⟩ := getById_eq_error h
    exact .inr ⟨message, hne, Or.inl rfl⟩
  · obtain h | ⟨_, -, h⟩ := bind_eq_error.mp h
    · obtain ⟨message, hne, rfl⟩ := checkService_eq_error h
      exact .inr ⟨message, hne, Or.inr rfl⟩
    · obtain h | ⟨_, -, h⟩ := bind_eq_error.mp h
      · exact .inl (update_rows_eq_error h)
      · contradiction

/-! ## Answers over HTTP -/

section

variable {wire : Wire} {db : Database}

theorem answered_eq {statusCode : ℕ} {db' : Database} {incident : Incident}
    (h : EmailNormalised wire incident.reportedByEmail) :
    Api.answered wire statusCode db incident db' =
      (⟨statusCode, some (IncidentResponse.dump wire incident)⟩, db') := by
  rw [Api.answered, IncidentResponse.ofIncident_eq h]

theorem parseIncident_dump {statusCode : ℕ} {incident : Incident}
    (h : EmailNormalised wire incident.reportedByEmail) :
    HttpGateway.parseIncident wire ⟨statusCode, some (IncidentResponse.dump wire incident)⟩ =
      .ok incident := by
  rw [HttpGateway.parseIncident, Option.bind_some, IncidentResponse.validate_dump h]

theorem responseDetail_httpException {statusCode : ℕ} {message fallback : String}
    (h : message ≠ "") :
    HttpGateway.responseDetail (httpException statusCode message) fallback = message := by
  simp [HttpGateway.responseDetail, httpException, h]

theorem optionalParam_listParams {α : Type} {parse : String → Option α} {dump : α → String}
    {params : List (String × String)} {name : String} {value : Option α}
    (hlookup : params.lookup name = value.map dump) (hparse : ∀ a, parse (dump a) = some a) :
    Api.optionalParam parse params name = some value := by
  rw [Api.optionalParam, hlookup]
  cases value with
  | none => rfl
  | some a => simp [hparse a]

theorem ofValue?_severity (severity : IncidentSeverity) :
    IncidentSeverity.ofValue? severity.value = some severity := by
  cases severity <;> decide

theorem ofValue?_status (status : IncidentStatus) :
    IncidentStatus.ofValue? status.value = some status := by
  cases status <;> decide

@[simp] theorem lookup_param {α : Type} (key name : String) (dump : α → String)
    (value : Option α) : (HttpGateway.param key dump value).lookup name =
      if name = key then value.map dump else none := by
  cases value with
  | none => simp [HttpGateway.param]
  | some a => simp [HttpGateway.param]

/-- The service reads the query parameters as the gateway was given them. -/
theorem listQuery_listParams {query : ListQuery} (hmin : 1 ≤ query.limit)
    (hmax : query.limit ≤ 100) :
    Api.listQuery wire (HttpGateway.listParams query) = some query := by
  have hsearch : Api.optionalParam some (HttpGateway.listParams query) "search" =
      some query.search := by
    have hlookup : (HttpGateway.listParams query).lookup "search" = query.search.map id := by
      simp [HttpGateway.listParams, List.lookup_append, List.lookup_cons]
    exact optionalParam_listParams hlookup fun _ => rfl
  have hservice : Api.optionalParam wire.parseUuid (HttpGateway.listParams query) "serviceId" =
      some query.serviceId := by
    have hlookup : (HttpGateway.listParams query).lookup "serviceId" =
        query.serviceId.map Uuid.str := by
      simp [HttpGateway.listParams, List.lookup_append, List.lookup_cons]
    exact optionalParam_listParams hlookup wire.parseUuid_str
  have hseverity : Api.optionalParam IncidentSeverity.ofValue? (HttpGateway.listParams query)
      "severity" = some query.severity := by
    have hlookup : (HttpGateway.listParams query).lookup "severity" =
        query.severity.map IncidentSeverity.value := by
      simp [HttpGateway.listParams, List.lookup_append, List.lookup_cons]
    exact optionalParam_listParams hlookup ofValue?_severity
  have hstatus : Api.optionalParam IncidentStatus.ofValue? (HttpGateway.listParams query)
      "status" = some query.status := by
    have hlookup : (HttpGateway.listParams query).lookup "status" =
        query.status.map IncidentStatus.value := by
      simp [HttpGateway.listParams, List.lookup_append, List.lookup_cons]
    exact optionalParam_listParams hlookup ofValue?_status
  -- the two numbers are always sent
  have hoffset : Api.intParam wire 0 0 none (HttpGateway.listParams query) "offset" =
      some query.offset := by
    simp [Api.intParam, HttpGateway.listParams, wire.parseInt_repr]
  have hlimit : Api.intParam wire 50 1 (some 100) (HttpGateway.listParams query) "limit" =
      some query.limit := by
    simp [Api.intParam, HttpGateway.listParams, List.lookup_cons, wire.parseInt_repr]
    omega
  rw [Api.listQuery, hsearch, hservice, hseverity, hstatus, hoffset, hlimit]
  rfl

theorem responses_eq {incidents : List Incident} (h : EmailsNormalised wire incidents) :
    incidents.mapM (IncidentResponse.ofIncident wire) = some incidents ∧
      (incidents.map (IncidentResponse.dump wire)).mapM (IncidentResponse.validate wire) =
        some incidents := by
  have hmap := mapM_eq_self (f := IncidentResponse.ofIncident wire) (g := id)
    fun i hi => IncidentResponse.ofIncident_eq (h i hi)
  exact ⟨by simpa using hmap, mapM_eq_self fun i hi => IncidentResponse.validate_dump (h i hi)⟩

theorem listResult_list {driver : Driver} {query : ListQuery}
    (hemails : EmailsNormalised wire db.incidents) (hmin : 1 ≤ query.limit)
    (hmax : query.limit ≤ 100) :
    let answer := Api.listIncidents wire driver db (HttpGateway.listParams query)
    (HttpGateway.listResult wire answer.1, answer.2) =
      conclude Remote.raised db
        ((driver.listing (Repository.list driver.ilike db.incidents query)).map fun is =>
          (.incidents is, db)) := by
  intro answer
  unfold answer Api.listIncidents
  rw [listQuery_listParams hmin hmax]
  dsimp only
  cases hlist : driver.listing (Repository.list driver.ilike db.incidents query) with
  | error e =>
    obtain rfl := list_eq_error hlist
    rfl
  | ok incidents =>
    have hpage : EmailsNormalised wire incidents := fun i hi => hemails i (list_eq_ok hlist i hi)
    obtain ⟨hserved, hread⟩ := responses_eq hpage
    simp [hserved, HttpGateway.listResult, HttpGateway.requireStatus,
      HttpGateway.parseIncidentList, HttpGateway.incidentListValidator, hread, bind, Except.bind,
      pure, Except.pure, conclude, Except.map]

end

/-- HTTP adds nothing and loses nothing: through the gateway an operation comes to what the
service makes of it. -/
theorem HttpGateway.perform_eq {wire : Wire} {serviceExists : Uuid → Bool} {driver : Driver}
    {db : Database} {requestId : RequestId} {draw : Draw} {operation : Operation}
    (hemails : EmailsNormalised wire db.incidents) (hadmitted : operation.Admitted wire) :
    HttpGateway.perform wire serviceExists driver db requestId draw operation =
      Remote.perform serviceExists driver db requestId draw operation := by
  cases operation with
  | list query => exact listResult_list hemails hadmitted.1 hadmitted.2
  | listForService serviceId offset limit =>
    exact listResult_list hemails hadmitted.1 hadmitted.2
  | getById incidentId =>
    unfold perform Remote.perform Remote.performed
    rw [show Api.handle wire serviceExists driver db requestId draw
      (request wire (.getById incidentId)) = Api.getIncident wire driver db incidentId by
        simp [Api.handle, request, wire.parseUuid_str]]
    unfold Api.getIncident
    cases hget : driver.reading db.incidents incidentId (getById db.incidents incidentId) with
    | error e =>
      obtain rfl | herror := reading_eq_error hget
      · simp only [hget]
        rfl
      · obtain ⟨message, hne, rfl⟩ := getById_eq_error herror
        simp only [hget, result, responseDetail_httpException hne]
        rfl
    | ok incident =>
      have hemail := hemails incident (getById_eq_ok (reading_eq_ok hget))
      simp only [hget, answered_eq hemail, result, parseIncident_dump hemail]
      rfl
  | create payload =>
    unfold perform Remote.perform Remote.performed
    rw [show Api.handle wire serviceExists driver db requestId draw
      (request wire (.create payload)) =
        Api.createIncident wire serviceExists db requestId draw payload by
        simp [Api.handle, request, IncidentCreate.validate_dump hadmitted]]
    unfold Api.createIncident
    cases hcreate : Remote.create serviceExists db payload (some requestId.text) draw with
    | error e =>
      obtain rfl | ⟨message, hne, rfl⟩ := create_eq_error hcreate
      · simp only [hcreate]
        rfl
      · simp only [hcreate, result, responseDetail_httpException hne]
        rfl
    | ok created =>
      obtain ⟨incident, db'⟩ := created
      -- the address that is stored is one that a validation has returned
      have hemail : EmailNormalised wire incident.reportedByEmail := by
        rw [(Remote.create_eq_ok hcreate).1]
        exact IncidentCreate.Admitted.emailNormalised hadmitted
      simp only [hcreate, answered_eq hemail, result, parseIncident_dump hemail]
      rfl
  | update incidentId payload =>
    unfold perform Remote.perform Remote.performed
    rw [show Api.handle wire serviceExists driver db requestId draw
      (request wire (.update incidentId payload)) =
        Api.updateIncident wire serviceExists driver db draw incidentId payload by
        simp [Api.handle, request, wire.parseUuid_str,
          IncidentUpdate.validate_dump wire hadmitted]]
    unfold Api.updateIncident
    cases hupdate : driver.reading db.incidents incidentId
        (Remote.update serviceExists db incidentId payload draw) with
    | error e =>
      have herror : e = .dataError ∨ ∃ message, message ≠ "" ∧
          (e = .incidentNotFound message ∨ e = .serviceReference message) :=
        (reading_eq_error hupdate).elim .inl update_eq_error
      obtain rfl | ⟨message, hne, rfl | rfl⟩ := herror
      · simp only [hupdate]
        rfl
      · simp only [hupdate, result, responseDetail_httpException hne]
        rfl
      · simp only [hupdate, result, responseDetail_httpException hne]
        rfl
    | ok updated =>
      obtain ⟨incident, db'⟩ := updated
      -- an update leaves the address as it was
      have hemail : EmailNormalised wire incident.reportedByEmail := by
        obtain ⟨existing, hfound, rfl, -⟩ := Remote.update_eq_ok (reading_eq_ok hupdate)
        exact hemails existing (mem_of_getById hfound).1
      simp only [hupdate, answered_eq hemail, result, parseIncident_dump hemail]
      rfl
  | delete incidentId =>
    unfold perform Remote.perform Remote.performed
    rw [show Api.handle wire serviceExists driver db requestId draw
      (request wire (.delete incidentId)) = Api.deleteIncident driver db incidentId by
        simp [Api.handle, request, wire.parseUuid_str]]
    unfold Api.deleteIncident
    cases hdelete : driver.reading db.incidents incidentId
        (Incidents.delete db.incidents incidentId) with
    | error e =>
      obtain rfl | herror := reading_eq_error hdelete
      · simp only [hdelete]
        rfl
      · obtain ⟨message, hne, rfl⟩ := delete_eq_error herror
        simp only [hdelete, result, responseDetail_httpException hne]
        rfl
    | ok rows =>
      simp only [hdelete]
      rfl

/-! ## One request is enough -/

section

open Gateway

def healthySurroundings (token : String) (statusCode : ℕ) : Surroundings :=
  ⟨none, fun _ => ⟨.issued token, .response statusCode⟩, fun _ => none⟩

theorem request_healthy (cfg : GatewayConfig) (method : String) (permit : Option CircuitPermit)
    {token : String} {statusCode : ℕ} (htoken : token ≠ "")
    (hstatus : statusCode ∉ retryableResponseStatuses) :
    Gateway.request cfg method (healthySurroundings token statusCode) (.ok permit) =
      ⟨[.send 1, .dependencyAttempt (responseOutcome statusCode)] ++
          (if 500 ≤ statusCode then recordCircuitFailure permit else recordCircuitSuccess permit),
        .returned statusCode, responseOutcome statusCode⟩ := by
  have hpos := maximumAttempts_pos cfg method permit
  obtain ⟨remaining, hmaximum⟩ : ∃ n, maximumAttempts cfg method permit = n + 1 :=
    ⟨_, (Nat.sub_add_cancel hpos).symm⟩
  have hfirst : remaining + 1 - remaining = 1 := by omega
  simp [Gateway.request, healthySurroundings, hmaximum, requestLoop, hfirst,
    createServiceAuthorization, htoken, hstatus, CallResult.after]

variable (wire : Wire) (serviceExists : Uuid → Bool) (driver : Driver) (db : Database)
  (requestId : RequestId) (draw : Draw)

theorem answered_not_retryable {statusCode : ℕ} {incident : Incident} {db' : Database}
    (h : statusCode ∉ retryableResponseStatuses) :
    (Api.answered wire statusCode db incident db').1.statusCode ∉ retryableResponseStatuses := by
  unfold Api.answered
  split
  · simp [retryableResponseStatuses]
  · exact h

/-- The service never answers with a status that the gateway would retry. -/
theorem handle_not_retryable (request : HttpRequest) :
    (Api.handle wire serviceExists driver db requestId draw request).1.statusCode ∉
      retryableResponseStatuses := by
  have hlist : (Api.listIncidents wire driver db request.params).1.statusCode ∉
      retryableResponseStatuses := by
    unfold Api.listIncidents
    split
    · simp [retryableResponseStatuses]
    · split
      · simp [retryableResponseStatuses]
      · split <;> simp [retryableResponseStatuses]
  have hget (incidentId : Uuid) : (Api.getIncident wire driver db incidentId).1.statusCode ∉
      retryableResponseStatuses := by
    unfold Api.getIncident
    split
    · simp [retryableResponseStatuses]
    · simp [retryableResponseStatuses]
    · exact answered_not_retryable wire db (by decide)
  have hcreate (payload : IncidentCreate) :
      (Api.createIncident wire serviceExists db requestId draw payload).1.statusCode ∉
        retryableResponseStatuses := by
    unfold Api.createIncident
    split
    · simp [retryableResponseStatuses]
    · simp [retryableResponseStatuses]
    · exact answered_not_retryable wire db (by decide)
  have hupdate (incidentId : Uuid) (payload : IncidentUpdate) :
      (Api.updateIncident wire serviceExists driver db draw incidentId payload).1.statusCode ∉
        retryableResponseStatuses := by
    unfold Api.updateIncident
    split
    · simp [retryableResponseStatuses]
    · simp [retryableResponseStatuses]
    · simp [retryableResponseStatuses]
    · exact answered_not_retryable wire db (by decide)
  have hdelete (incidentId : Uuid) : (Api.deleteIncident driver db incidentId).1.statusCode ∉
      retryableResponseStatuses := by
    unfold Api.deleteIncident
    split <;> simp [retryableResponseStatuses]
  unfold Api.handle
  split
  · split_ifs
    · exact hlist
    · split
      · simp [retryableResponseStatuses]
      · exact hcreate _
    · simp [retryableResponseStatuses]
  · split
    · simp [retryableResponseStatuses]
    · split_ifs
      · exact hget _
      · split
        · simp [retryableResponseStatuses]
        · exact hupdate _ _
      · exact hdelete _
      · simp [retryableResponseStatuses]
  · simp [retryableResponseStatuses]

/-- Over a healthy transport `_request` sends an operation once, whatever the retry policy and
the permit, and returns what the service answers. -/
theorem perform_sends_once (cfg : GatewayConfig) (permit : Option CircuitPermit)
    {token : String} (htoken : token ≠ "") (operation : Operation) :
    let request := HttpGateway.request wire operation
    let response := (Api.handle wire serviceExists driver db requestId draw request).1
    let call := Gateway.request cfg request.method
      (healthySurroundings token response.statusCode) (.ok permit)
    call.exit = .returned response.statusCode ∧ ∀ n, .send n ∈ call.effects → n = 1 := by
  intro request response call
  have hcall := request_healthy cfg request.method permit htoken
    (handle_not_retryable wire serviceExists driver db requestId draw request)
  refine ⟨congrArg CallResult.exit hcall, fun n hn => ?_⟩
  rw [show call.effects = _ from congrArg CallResult.effects hcall] at hn
  split_ifs at hn <;> cases permit <;> simp_all [recordCircuitFailure, recordCircuitSuccess]

end

end OpsFlow.Incidents
