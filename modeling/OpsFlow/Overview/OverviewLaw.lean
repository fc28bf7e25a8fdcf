import OpsFlow.Overview.OverviewService
import OpsFlow.Incidents.GatewayAgreement
import OpsFlow.Library.LimitedQuery

namespace OpsFlow.Overview
open OpsFlow.Incidents

variable {wire : Wire} {ilike nameLe : String → String → Bool} {store sorted : Rows}
  {catalog services : List Service} {outcome : GatewayOutcome} {summary : OverviewSummary}
  {overview : OverviewResponse}

/-! ## What the totals are to be -/

structure CountsServices (catalog : List Service) (summary : OverviewSummary) : Prop where
  total : summary.totalServices = catalog.length
  healthy : summary.healthyServices = catalog.countP fun service => service.status = .healthy
  degraded : summary.degradedServices = catalog.countP fun service => service.status = .degraded
  critical : summary.criticalServices = catalog.countP fun service => service.status = .critical

/-- The incidents of the store that are not resolved are counted, and those of them that have an
impact on customers. -/
structure CountsIncidents (store : Rows) (summary : OverviewSummary) : Prop where
  activeIncidents : summary.activeIncidents = some (store.countP active)
  customerImpacting : summary.customerImpactingIncidents =
    some (store.countP fun incident => active incident && incident.customerImpacting)

/-- The totals are those of the catalog and of the store; there are none of incidents if and only if
the gateway has failed. -/
structure TrueTotals (catalog : List Service) (store : Rows) (outcome : GatewayOutcome)
    (summary : OverviewSummary) : Prop where
  services : CountsServices catalog summary
  incidents : outcome = .answers → CountsIncidents store summary
  noActive : summary.activeIncidents = none ↔ outcome = .incidentGatewayError
  noCustomerImpacting : summary.customerImpactingIncidents = none ↔ outcome = .incidentGatewayError

/-! ## What the totals are -/

theorem list_overviewServices (ilike nameLe : String → String → Bool) (catalog : List Service) :
    ServiceRepository.list ilike nameLe catalog overviewServices =
      (catalog.mergeSort fun s t => nameLe s.name t.name).take 100 := by
  have hall : catalog.filter (ServiceRepository.found ilike overviewServices) = catalog :=
    List.filter_eq_self.mpr fun _ _ => rfl
  unfold ServiceRepository.list
  rw [hall]
  rfl

/-- Only what is on the two pages is counted. -/
theorem getOverview_summary (h : getOverview wire (ServiceRepository.list ilike nameLe catalog)
      (gatewayList ilike sorted outcome) = .ok overview) :
    (outcome = .answers ∨ outcome = .incidentGatewayError) ∧
    overview.summary = buildSummary (ServiceRepository.list ilike nameLe catalog overviewServices)
      (if outcome = .answers then some (sorted.take 100) else none) := by
  unfold getOverview at h
  cases outcome with
  | answers =>
    rw [gatewayList_overviewIncidents] at h
    dsimp only at h
    split at h
    · contradiction
    · rw [← Except.ok.inj h]
      exact ⟨.inl rfl, rfl⟩
  | incidentGatewayError =>
    rw [← Except.ok.inj h]
    exact ⟨.inr rfl, rfl⟩
  | otherException message => contradiction

/-- There is an overview unless another exception is raised. -/
theorem exists_overview (hemails : EmailsNormalised wire sorted)
    (houtcome : ∀ message, outcome ≠ .otherException message) :
    ∃ overview, getOverview wire (ServiceRepository.list ilike nameLe catalog)
      (gatewayList ilike sorted outcome) = .ok overview := by
  unfold getOverview
  cases outcome with
  | answers =>
    have hpage : ∀ i ∈ sorted.take 100, IncidentResponse.ofIncident wire i = some i := fun i hi =>
      IncidentResponse.ofIncident_eq (hemails i (List.mem_of_mem_take hi))
    have hread : (sorted.take 100).mapM (IncidentResponse.ofIncident wire) =
        some (sorted.take 100) := by
      have hmap := mapM_eq_self (g := id) hpage
      simpa using hmap
    rw [gatewayList_overviewIncidents]
    dsimp only
    rw [hread]
    exact ⟨_, rfl⟩
  | incidentGatewayError => exact ⟨_, rfl⟩
  | otherException message => exact absurd rfl (houtcome message)

/-! ## When they agree -/

theorem countsServices_iff (ilike nameLe : String → String → Bool) (catalog : List Service)
    (incidents : Option (List Incident)) :
    CountsServices catalog (buildSummary
      (ServiceRepository.list ilike nameLe catalog overviewServices) incidents) ↔
        catalog.length ≤ 100 := by
  have hperm := List.mergeSort_perm catalog fun s t => nameLe s.name t.name
  rw [list_overviewServices]
  constructor
  · intro h
    have htotal : ((catalog.mergeSort fun s t => nameLe s.name t.name).take 100).length =
      catalog.length := h.total
    rw [List.length_take, hperm.length_eq] at htotal
    omega
  · intro h
    rw [List.take_of_length_le (by rwa [hperm.length_eq])]
    exact ⟨hperm.length_eq, hperm.countP_eq _, hperm.countP_eq _, hperm.countP_eq _⟩

theorem activeIncidents_buildSummary (services : List Service) (incidents : List Incident) :
    (buildSummary services (some incidents)).activeIncidents = some (incidents.countP active) :=
  congrArg some List.countP_eq_length_filter.symm

theorem customerImpacting_buildSummary (services : List Service) (incidents : List Incident) :
    (buildSummary services (some incidents)).customerImpactingIncidents =
      some (incidents.countP fun incident => active incident && incident.customerImpacting) := by
  refine congrArg some (List.countP_filter.trans (List.countP_congr fun incident _ => ?_))
  rw [Bool.and_comm]

/-- The page counts for the whole store where nothing that was left out is active. -/
theorem countsIncidents_iff (harranged : Paging.Arranged Incident.createdAt store sorted)
    (services : List Service) :
    CountsIncidents store (buildSummary services (some (sorted.take 100))) ↔
      ∀ i ∈ sorted.drop 100, i.status = .resolved := by
  have hrest : (∀ i ∈ sorted.drop 100, ¬ active i = true) ↔
      ∀ i ∈ sorted.drop 100, i.status = .resolved := by
    simp [active]
  rw [← hrest]
  constructor
  · intro h
    have hactive := h.activeIncidents
    rw [activeIncidents_buildSummary, ← harranged.perm.countP_eq] at hactive
    exact LimitedQuery.countP_take_eq_iff.mp (Option.some.inj hactive)
  · intro h
    have hboth : ∀ i ∈ sorted.drop 100, ¬ (active i && i.customerImpacting) = true :=
      fun i hi hand => h i hi (Bool.and_eq_true_iff.mp hand).1
    constructor
    · rw [activeIncidents_buildSummary, ← harranged.perm.countP_eq,
        LimitedQuery.countP_take_eq_iff.mpr h]
    · rw [customerImpacting_buildSummary, ← harranged.perm.countP_eq,
        LimitedQuery.countP_take_eq_iff.mpr hboth]

/-- An overview is made of what the store and the catalog hold, and its totals are the true ones if
and only if the catalog has no more than 100 services and every incident after the first 100 that
the database lists is resolved. -/
theorem overview_totals_iff (wire : Wire) (ilike nameLe : String → String → Bool)
    (catalog : List Service) {store sorted : Rows}
    (harranged : Paging.Arranged Incident.createdAt store sorted) (outcome : GatewayOutcome) :
    (EmailsNormalised wire store → (∀ message, outcome ≠ .otherException message) →
      ∃ overview, getOverview wire (ServiceRepository.list ilike nameLe catalog)
        (gatewayList ilike sorted outcome) = .ok overview) ∧
    ∀ overview, getOverview wire (ServiceRepository.list ilike nameLe catalog)
        (gatewayList ilike sorted outcome) = .ok overview →
      (TrueTotals catalog store outcome overview.summary ↔ catalog.length ≤ 100 ∧
        (outcome = .answers → ∀ i ∈ sorted.drop 100, i.status = .resolved)) := by
  refine ⟨fun hemails houtcome => exists_overview (fun i hi => hemails i ?_) houtcome, ?_⟩
  · exact harranged.perm.mem_iff.mp hi
  · intro overview h
    obtain ⟨houtcome, hsummary⟩ := getOverview_summary h
    rw [hsummary]
    obtain rfl | rfl := houtcome
    · rw [if_pos rfl]
      constructor
      · intro htotals
        exact ⟨(countsServices_iff ilike nameLe catalog _).mp htotals.services,
          fun hanswers => (countsIncidents_iff harranged _).mp (htotals.incidents hanswers)⟩
      · rintro ⟨hservices, hincidents⟩
        exact
          { services := (countsServices_iff ilike nameLe catalog _).mpr hservices
            incidents := fun hanswers => (countsIncidents_iff harranged _).mpr (hincidents hanswers)
            noActive := by simp [activeIncidents_buildSummary]
            noCustomerImpacting := by simp [customerImpacting_buildSummary] }
    · rw [if_neg nofun]
      constructor
      · intro htotals
        exact ⟨(countsServices_iff ilike nameLe catalog _).mp htotals.services, nofun⟩
      · rintro ⟨hservices, -⟩
        exact
          { services := (countsServices_iff ilike nameLe catalog _).mpr hservices
            incidents := nofun
            noActive := iff_of_true rfl rfl
            noCustomerImpacting := iff_of_true rfl rfl }

/-- One incident that is open, and a catalog that is empty. -/
theorem overview_totals_iff_checkout : ∃ overview,
    getOverview plainWire (ServiceRepository.list (fun _ _ => false) (fun _ _ => true) [])
      (gatewayList (fun _ _ => false) [checkoutIncident 0] .answers) = .ok overview ∧
    TrueTotals [] [checkoutIncident 0] .answers overview.summary := by
  have harranged : Paging.Arranged Incident.createdAt [checkoutIncident 0] [checkoutIncident 0] :=
    ⟨List.Perm.refl _, List.pairwise_singleton _ _⟩
  obtain ⟨htotal, hiff⟩ := overview_totals_iff plainWire (fun _ _ => false) (fun _ _ => true) []
    harranged .answers
  obtain ⟨overview, hok⟩ := htotal (by simp [EmailsNormalised, EmailNormalised, checkoutIncident])
    nofun
  have hrest : [checkoutIncident 0].drop 100 = [] := List.drop_eq_nil_of_le (by simp)
  refine ⟨overview, hok, (hiff overview hok).mpr ⟨Nat.zero_le _, fun _ => ?_⟩⟩
  rw [hrest]
  exact fun i hi => absurd hi List.not_mem_nil

/-! ### An old incident that is still open -/

def resolvedIncident (n : ℕ) : Incident :=
  { checkoutIncident (BitVec.ofNat 128 (n + 1)) with
    status := .resolved
    resolvedAt := some 2
    createdAt := 1 }

/-- A hundred incidents have been reported and resolved since the open one. -/
def oldOpenIncident : Rows := (List.range 100).map resolvedIncident ++ [checkoutIncident 0]

theorem mem_oldOpenIncident {i : Incident} :
    i ∈ oldOpenIncident ↔ (∃ n < 100, resolvedIncident n = i) ∨ i = checkoutIncident 0 := by
  simp [oldOpenIncident]

theorem take_oldOpenIncident : oldOpenIncident.take 100 = (List.range 100).map resolvedIncident :=
  List.take_left' (by simp)

theorem active_take_oldOpenIncident : (oldOpenIncident.take 100).countP active = 0 := by
  rw [take_oldOpenIncident, List.countP_eq_zero]
  intro i hi
  obtain ⟨n, -, rfl⟩ := List.mem_map.mp hi
  simp [active, resolvedIncident]

theorem arranged_oldOpenIncident :
    Paging.Arranged Incident.createdAt oldOpenIncident oldOpenIncident where
  perm := List.Perm.refl _
  descending := by
    refine List.pairwise_append.mpr ⟨?_, List.pairwise_singleton _ _, fun i hi j hj => ?_⟩
    · exact List.pairwise_map.mpr (List.Pairwise.imp (fun _ => le_rfl) List.pairwise_lt_range)
    · obtain ⟨n, -, rfl⟩ := List.mem_map.mp hi
      rw [List.mem_singleton.mp hj]
      exact Int.zero_le_ofNat 1

theorem emailsNormalised_oldOpenIncident : EmailsNormalised plainWire oldOpenIncident := by
  intro i hi email hemail
  obtain ⟨n, -, rfl⟩ | rfl := mem_oldOpenIncident.mp hi
  · exact nomatch hemail
  · exact nomatch hemail

/-- The overview says that no incident is active. -/
theorem overview_misses_old_incident : ∃ overview,
    getOverview plainWire (ServiceRepository.list (fun _ _ => false) (fun _ _ => true) [])
      (gatewayList (fun _ _ => false) oldOpenIncident .answers) = .ok overview ∧
    Paging.Arranged Incident.createdAt oldOpenIncident oldOpenIncident ∧
    overview.summary.activeIncidents = some 0 ∧
    ¬ TrueTotals [] oldOpenIncident .answers overview.summary := by
  obtain ⟨overview, hok⟩ := @exists_overview plainWire (fun _ _ => false) (fun _ _ => true)
    oldOpenIncident [] .answers emailsNormalised_oldOpenIncident nofun
  obtain ⟨-, hsummary⟩ := getOverview_summary hok
  have hzero : overview.summary.activeIncidents = some 0 := by
    rw [hsummary, if_pos rfl, activeIncidents_buildSummary, active_take_oldOpenIncident]
  refine ⟨overview, hok, arranged_oldOpenIncident, hzero, fun htotals => ?_⟩
  have hcount := Option.some.inj (hzero.symm.trans (htotals.incidents rfl).activeIncidents)
  have hnone := List.countP_eq_zero.mp hcount.symm (checkoutIncident 0)
    (mem_oldOpenIncident.mpr (.inr rfl))
  exact hnone (by decide)

end OpsFlow.Overview
