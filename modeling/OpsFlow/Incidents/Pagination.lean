import OpsFlow.Incidents.Services
import OpsFlow.Library.Paging

namespace OpsFlow.Incidents

/-! ## What the two listings may answer -/

namespace Repository

/-- A page of `list`; rows of one `created_at` come in any order. -/
def ListAnswer (ilike : String → String → Bool) (rows : Rows) (q : ListQuery)
    (page : List Incident) : Prop :=
  Paging.Page Incident.createdAt (rows.filter (found ilike q)) q.offset q.limit page

/-- A page of `list_by_service`; rows of one `created_at` come in any order. -/
def ListByServiceAnswer (rows : Rows) (serviceId : Uuid) (offset limit : ℕ)
    (page : List Incident) : Prop :=
  Paging.Page Incident.createdAt (rows.filter fun i => i.serviceId = serviceId) offset limit page

theorem arranged_newestFirst (rows : Rows) :
    Paging.Arranged Incident.createdAt rows (newestFirst rows) :=
  Paging.arranged_mergeSort Incident.createdAt rows

theorem listAnswer_page (ilike : String → String → Bool) (rows : Rows) (q : ListQuery) :
    ListAnswer ilike rows q (page ilike rows q) :=
  ⟨_, arranged_newestFirst _, rfl⟩

theorem listByServiceAnswer_servicePage (rows : Rows) (serviceId : Uuid) (offset limit : ℕ) :
    ListByServiceAnswer rows serviceId offset limit (servicePage rows serviceId offset limit) :=
  ⟨_, arranged_newestFirst _, rfl⟩

end Repository

/-! ## A client that reads all pages -/

/-- However the pages at 0, `size`, 2 · `size` and so on are answered, those before the first empty
one list each matching incident once. -/
def ListsEachOnce (answer : ℕ → List Incident → Prop) (matching : Rows) (size : ℕ) : Prop :=
  ∀ pages : ℕ → List Incident, (∀ k, answer (k * size) (pages k)) →
    ∃ count, pages count = [] ∧ (∀ k < count, pages k ≠ []) ∧
      ((List.range count).flatMap pages).Perm matching

def NoTieAcrossPages (matching : Rows) (size : ℕ) : Prop :=
  Paging.Separated Incident.createdAt matching size

theorem nodup_of_ids {rows : Rows} (hids : (rows.map Incident.id).Nodup) (p : Incident → Bool) :
    (rows.filter p).Nodup :=
  (List.Nodup.of_map _ hids).filter _

/-- Reading all pages of `list` lists each matching incident once if and only if no page ends within
a group of matching incidents with one `created_at`; and so for `list_by_service`. -/
theorem pagination_partitions_iff (ilike : String → String → Bool) {rows : Rows}
    (hids : (rows.map Incident.id).Nodup) (q : ListQuery) (serviceId : Uuid) {size : ℕ}
    (hsize : 0 < size) :
    (ListsEachOnce (fun offset => Repository.ListAnswer ilike rows { q with offset, limit := size })
        (rows.filter (Repository.found ilike q)) size ↔
      NoTieAcrossPages (rows.filter (Repository.found ilike q)) size) ∧
    (ListsEachOnce (fun offset => Repository.ListByServiceAnswer rows serviceId offset size)
        (rows.filter fun i => i.serviceId = serviceId) size ↔
      NoTieAcrossPages (rows.filter fun i => i.serviceId = serviceId) size) := by
  have hiff {matching : Rows} (hnodup : matching.Nodup) :
      Paging.Partitioned Incident.createdAt matching size ↔ NoTieAcrossPages matching size :=
    Paging.partitioned_iff hsize hnodup
  exact ⟨hiff (nodup_of_ids hids (Repository.found ilike q)),
    hiff (nodup_of_ids hids fun i => i.serviceId = serviceId)⟩

/-! ### Two incidents that were created together -/

def checkoutIncident (id : Uuid) : Incident :=
  { id := id
    title := "Checkout is slow"
    serviceId := 7
    severity := .sev2
    status := .opened
    summary := "Payments take a minute"
    assignee := "Platform Team"
    startedAt := 0
    resolvedAt := none
    createdAt := 0
    updatedAt := 0
    source := "manual"
    customerImpacting := true
    acknowledgedAt := none
    reportedByEmail := none }

def allIncidents : ListQuery := ⟨none, none, none, none, 0, 0⟩

def togetherCreated : Rows := [checkoutIncident 1, checkoutIncident 2]

/-- On pages of two, both incidents are listed once. -/
theorem pagination_partitions_iff_together :
    ListsEachOnce (fun offset => Repository.ListAnswer (fun _ _ => false) togetherCreated
        { allIncidents with offset, limit := 2 })
      (togetherCreated.filter (Repository.found (fun _ _ => false) allIncidents)) 2 ∧
    ListsEachOnce (fun offset => Repository.ListByServiceAnswer togetherCreated 7 offset 2)
      (togetherCreated.filter fun i => i.serviceId = 7) 2 := by
  have htwo : NoTieAcrossPages togetherCreated 2 := by
    intro a ha k
    have hupTo : Paging.upTo Incident.createdAt togetherCreated a ≤ 2 := List.countP_le_length
    cases k with
    | zero => exact .inl (by omega)
    | succ k => exact .inr (by omega)
  have hids : (togetherCreated.map Incident.id).Nodup := by decide
  have hboth := pagination_partitions_iff (fun _ _ => false) hids allIncidents 7 Nat.two_pos
  exact ⟨hboth.1.mpr htwo, hboth.2.mpr htwo⟩

/-- On pages of one, either of the two may be listed twice, and the other one not at all. -/
theorem pagination_not_partitions : ¬ ListsEachOnce (fun offset =>
    Repository.ListAnswer (fun _ _ => false) togetherCreated
      { allIncidents with offset, limit := 1 })
      (togetherCreated.filter (Repository.found (fun _ _ => false) allIncidents)) 1 := by
  intro h
  have hseparated : Paging.Separated Incident.createdAt togetherCreated 1 :=
    (Paging.partitioned_iff Nat.one_pos (by decide)).mp h
  have htie := hseparated (checkoutIncident 1) (by decide) 1
  revert htie
  decide

end OpsFlow.Incidents
