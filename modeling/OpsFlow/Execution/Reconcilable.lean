import OpsFlow.Execution.Record
import OpsFlow.Library.LimitedQuery
import Mathlib.Data.List.Sort
import Mathlib.Data.String.Basic

namespace OpsFlow.Execution
open LimitedQuery

/-! ## The status index -/

/-- The index, up to date: each execution of the table once, the oldest first. -/
structure StatusIndex (table : Table) where
  items : List Item
  complete : ∀ item, item ∈ items ↔ table item.taskId = some item
  keys : (items.map Item.taskId).Nodup
  sorted : items.Pairwise fun a b => a.createdAt ≤ b.createdAt

def expired (nowEpoch : ℤ) (item : Item) : Bool :=
  match item.leaseExpiresAt with
  | none => false
  | some leaseExpiresAt => leaseExpiresAt ≤ nowEpoch

namespace StatusIndex
variable {table : Table}

def ofStatus (index : StatusIndex table) (status : IncidentTaskExecutionStatus) : List Item :=
  index.items.filter fun item => item.status = status

/-- `_query_status`; a `Limit` of zero is refused. -/
def queryStatus (index : StatusIndex table) (status : IncidentTaskExecutionStatus) (limit : ℕ) :
    Option (List Item) :=
  if limit = 0 then none else some ((index.ofStatus status).take limit)

/-- `_query_expired_processing`: `Limit` counts the items before the filter, and one page is all
that is asked for. -/
def queryExpiredProcessing (index : StatusIndex table) (nowEpoch : ℤ) (limit : ℕ) :
    Option (List Item) :=
  if limit = 0 then none
  else some (limited limit (expired nowEpoch) (index.ofStatus .incidentServiceProcessing))

/-- `list_reconcilable`; `none` is an exception. -/
def listReconcilable (index : StatusIndex table) (nowEpoch : ℤ) (limit : ℕ) :
    Option (List IncidentTaskExecution) := do
  let readyItems ← index.queryStatus .readyForIncidentService limit
  let remaining := limit - readyItems.length
  let processingItems ←
    if 0 < remaining then index.queryExpiredProcessing nowEpoch remaining else some []
  let allItems := (readyItems ++ processingItems).mergeSort fun a b =>
    decide (a.createdAt ≤ b.createdAt)
  (allItems.take limit).mapM toDomain

end StatusIndex

/-! ## What a reconciler asks for -/

section Spec
variable {table : Table}

/-- The oldest ready executions and, in the room that they leave, the oldest abandoned ones. -/
structure Selects (index : StatusIndex table) (nowEpoch : ℤ) (limit : ℕ) (chosen : List Item) :
    Prop where
  oldest : ∃ ready processing,
    Oldest Item.createdAt limit (index.ofStatus .readyForIncidentService) ready ∧
    Oldest Item.createdAt (limit - ready.length)
      ((index.ofStatus .incidentServiceProcessing).filter (expired nowEpoch)) processing ∧
    chosen.Perm (ready ++ processing)
  sorted : chosen.Pairwise fun a b => a.createdAt ≤ b.createdAt
  keys : (chosen.map Item.taskId).Nodup

def remaining (index : StatusIndex table) (limit : ℕ) : ℕ :=
  limit - (index.ofStatus .readyForIncidentService).length

/-- Either each of the first processing executions is abandoned, as many as there are places, or
none of the later ones is. -/
def NoneHidden (index : StatusIndex table) (nowEpoch : ℤ) (limit : ℕ) : Prop :=
  let processing := index.ofStatus .incidentServiceProcessing
  (∀ item ∈ processing.take (remaining index limit), expired nowEpoch item = true) ∨
    ∀ item ∈ processing.drop (remaining index limit), ¬ expired nowEpoch item = true

/-- The items that are asked for, without an order of the whole. -/
def wanted (index : StatusIndex table) (nowEpoch : ℤ) (limit : ℕ) : List Item :=
  (index.ofStatus .readyForIncidentService).take limit ++
    ((index.ofStatus .incidentServiceProcessing).filter (expired nowEpoch)).take
      (remaining index limit)

end Spec

/-! ## Items and their domain objects -/

theorem mapM_toDomain_cons {item : Item} {items : List Item}
    {executions : List IncidentTaskExecution}
    (h : (item :: items).mapM toDomain = some executions) :
    ∃ execution rest, executions = execution :: rest ∧ toDomain item = some execution ∧
      items.mapM toDomain = some rest := by
  rw [List.mapM_cons] at h
  obtain ⟨execution, hexecution, h⟩ := Option.bind_eq_some_iff.mp h
  obtain ⟨rest, hrest, h⟩ := Option.bind_eq_some_iff.mp h
  exact ⟨execution, rest, (Option.some.inj h).symm, hexecution, hrest⟩

theorem length_mapM_toDomain {items : List Item} {executions : List IncidentTaskExecution}
    (h : items.mapM toDomain = some executions) : executions.length = items.length := by
  induction items generalizing executions with
  | nil =>
    obtain rfl := Option.some.inj h
    rfl
  | cons item items ih =>
    obtain ⟨execution, rest, rfl, -, hrest⟩ := mapM_toDomain_cons h
    rw [List.length_cons, List.length_cons, ih hrest]

/-- A list is read if each of its items is. -/
theorem mapM_toDomain_iff {items : List Item} :
    (∃ executions, items.mapM toDomain = some executions) ↔
    ∀ item ∈ items, (toDomain item).isSome := by
  induction items with
  | nil => exact iff_of_true ⟨[], rfl⟩ fun _ h => by contradiction
  | cons item items ih =>
    rw [List.forall_mem_cons, ← ih]
    constructor
    · rintro ⟨executions, h⟩
      obtain ⟨execution, rest, -, hexecution, hrest⟩ := mapM_toDomain_cons h
      exact ⟨Option.isSome_iff_exists.mpr ⟨execution, hexecution⟩, rest, hrest⟩
    · rintro ⟨hsome, rest, hrest⟩
      obtain ⟨execution, hexecution⟩ := Option.isSome_iff_exists.mp hsome
      refine ⟨execution :: rest, ?_⟩
      rw [List.mapM_cons, hexecution, hrest]
      rfl

/-! ## When the reconciler finds what it asks for -/

section Finding
variable {table : Table} {index : StatusIndex table} {nowEpoch : ℤ} {limit : ℕ}

def selected (index : StatusIndex table) (nowEpoch : ℤ) (limit : ℕ) : List Item :=
  ((index.ofStatus .readyForIncidentService).take limit ++
    limited (remaining index limit) (expired nowEpoch)
      (index.ofStatus .incidentServiceProcessing)).mergeSort fun a b =>
        decide (a.createdAt ≤ b.createdAt)

theorem selected_perm : (selected index nowEpoch limit).Perm
    ((index.ofStatus .readyForIncidentService).take limit ++
      limited (remaining index limit) (expired nowEpoch)
        (index.ofStatus .incidentServiceProcessing)) := List.mergeSort_perm ..

theorem remaining_eq :
    limit - ((index.ofStatus .readyForIncidentService).take limit).length =
      remaining index limit := by
  rw [List.length_take, remaining]
  omega

theorem listReconcilable_eq (hlimit : 1 ≤ limit) :
    index.listReconcilable nowEpoch limit = (selected index nowEpoch limit).mapM toDomain := by
  have hlength : (selected index nowEpoch limit).length ≤ limit := by
    have hle : (limited (remaining index limit) (expired nowEpoch)
        (index.ofStatus .incidentServiceProcessing)).length ≤ remaining index limit :=
      length_limited_le
    rw [selected_perm.length_eq, List.length_append, List.length_take]
    unfold remaining at *
    omega
  have hready : index.queryStatus .readyForIncidentService limit =
      some ((index.ofStatus .readyForIncidentService).take limit) := if_neg (by omega)
  unfold StatusIndex.listReconcilable
  simp only [hready, Option.bind_eq_bind, Option.bind_some, remaining_eq]
  by_cases hroom : 0 < remaining index limit
  · have hprocessing : index.queryExpiredProcessing nowEpoch (remaining index limit) =
        some (limited (remaining index limit) (expired nowEpoch)
          (index.ofStatus .incidentServiceProcessing)) := if_neg (by omega)
    rw [if_pos hroom, hprocessing, Option.bind_some]
    exact congrArg (List.mapM toDomain) (List.take_of_length_le hlength)
  · -- no place is left, and a query for none would find none
    have hzero : remaining index limit = 0 := by omega
    have hnone : selected index nowEpoch limit =
        ((index.ofStatus .readyForIncidentService).take limit ++ []).mergeSort fun a b =>
          decide (a.createdAt ≤ b.createdAt) := by
      rw [selected, hzero]
      rfl
    rw [if_neg hroom, ← hnone, List.take_of_length_le hlength]

theorem sorted_ofStatus (index : StatusIndex table) (status : IncidentTaskExecutionStatus) :
    (index.ofStatus status).Pairwise fun a b => a.createdAt ≤ b.createdAt :=
  index.sorted.filter _

/-- Where nothing is hidden, the filtered page is what is asked for. -/
theorem limited_eq (h : NoneHidden index nowEpoch limit) :
    limited (remaining index limit) (expired nowEpoch)
        (index.ofStatus .incidentServiceProcessing) =
      ((index.ofStatus .incidentServiceProcessing).filter (expired nowEpoch)).take
        (remaining index limit) := limited_eq_take (length_limited_eq_iff.mpr h)

theorem mem_ofStatus {item : Item} {status : IncidentTaskExecutionStatus}
    (h : item ∈ index.ofStatus status) : item ∈ index.items ∧ item.status = status := by
  obtain ⟨hmem, hstatus⟩ := List.mem_filter.mp h
  exact ⟨hmem, of_decide_eq_true hstatus⟩

theorem mem_selected {item : Item} (h : item ∈ selected index nowEpoch limit) :
    item ∈ index.items := by
  obtain h | h := List.mem_append.mp (selected_perm.mem_iff.mp h)
  · exact (mem_ofStatus (List.mem_of_mem_take h)).1
  · exact (mem_ofStatus (List.mem_of_mem_take (List.mem_of_mem_filter h))).1

/-- No item is selected twice, for it has one status. -/
theorem nodup_selected : (selected index nowEpoch limit).Nodup := by
  have hitems : index.items.Nodup := .of_map _ index.keys
  have hstatus (status : IncidentTaskExecutionStatus) : (index.ofStatus status).Nodup :=
    hitems.filter _
  rw [selected_perm.nodup_iff, List.nodup_append]
  refine ⟨(hstatus _).sublist (List.take_sublist ..),
    ((hstatus _).sublist (List.take_sublist ..)).filter _, ?_⟩
  rintro item hready _ hprocessing rfl
  have hone := (mem_ofStatus (List.mem_of_mem_take hready)).2
  rw [(mem_ofStatus (List.mem_of_mem_take (List.mem_of_mem_filter hprocessing))).2] at hone
  contradiction

theorem selects_selected (h : NoneHidden index nowEpoch limit) :
    Selects index nowEpoch limit (selected index nowEpoch limit) where
  oldest := by
    refine ⟨_, _, oldest_take (sorted_ofStatus index .readyForIncidentService) limit,
      oldest_take ((sorted_ofStatus index .incidentServiceProcessing).filter _) _, ?_⟩
    rw [remaining_eq, ← limited_eq h]
    exact selected_perm
  sorted := by
    have htrans (a b c : Item) (hab : decide (a.createdAt ≤ b.createdAt) = true)
        (hbc : decide (b.createdAt ≤ c.createdAt) = true) :
        decide (a.createdAt ≤ c.createdAt) = true :=
      decide_eq_true ((of_decide_eq_true hab).trans (of_decide_eq_true hbc))
    have htotal (a b : Item) :
        (decide (a.createdAt ≤ b.createdAt) || decide (b.createdAt ≤ a.createdAt)) = true := by
      simpa using le_total a.createdAt b.createdAt
    exact (List.pairwise_mergeSort htrans htotal _).imp of_decide_eq_true
  keys := by
    refine nodup_selected.map_on fun a ha b hb heq => ?_
    exact List.inj_on_of_nodup_map index.keys (mem_selected ha) (mem_selected hb) heq

/-- As many are returned as there are to choose, and the limit has not cut any. -/
theorem noneHidden_of_selects (hlimit : 1 ≤ limit) {chosen : List Item}
    {executions : List IncidentTaskExecution} (h : Selects index nowEpoch limit chosen)
    (hchosen : chosen.mapM toDomain = some executions)
    (hlist : index.listReconcilable nowEpoch limit = some executions) :
    NoneHidden index nowEpoch limit := by
  rw [listReconcilable_eq hlimit] at hlist
  obtain ⟨ready, processing, ⟨-, -, hready, -⟩, ⟨-, -, hprocessing, -⟩, hperm⟩ := h.oldest
  have hlength := (length_mapM_toDomain hchosen).symm.trans (length_mapM_toDomain hlist)
  rw [hperm.length_eq, selected_perm.length_eq, List.length_append, List.length_append,
    List.length_take] at hlength
  have hroom : limit - ready.length = remaining index limit := by
    unfold remaining
    omega
  rw [hroom] at hprocessing
  exact length_limited_eq_iff.mp (by omega)

/-- The reconciler is given what it asks for if and only if no abandoned execution is hidden behind
running leases, and what it asks for can be read. -/
theorem list_reconcilable_iff (hlimit : 1 ≤ limit) :
    (∃ chosen executions, Selects index nowEpoch limit chosen ∧
      chosen.mapM toDomain = some executions ∧
      index.listReconcilable nowEpoch limit = some executions) ↔
    NoneHidden index nowEpoch limit ∧
      ∀ item ∈ wanted index nowEpoch limit, (toDomain item).isSome := by
  have hwanted (h : NoneHidden index nowEpoch limit) (item : Item) :
      item ∈ selected index nowEpoch limit ↔ item ∈ wanted index nowEpoch limit := by
    rw [selected_perm.mem_iff, limited_eq h, wanted]
  constructor
  · rintro ⟨chosen, executions, hselects, hchosen, hlist⟩
    have hnone := noneHidden_of_selects hlimit hselects hchosen hlist
    rw [listReconcilable_eq hlimit] at hlist
    refine ⟨hnone, fun item hitem => ?_⟩
    exact mapM_toDomain_iff.mp ⟨executions, hlist⟩ item ((hwanted hnone item).mpr hitem)
  · rintro ⟨hnone, hreadable⟩
    obtain ⟨executions, hexecutions⟩ := mapM_toDomain_iff.mpr fun item hitem =>
      hreadable item ((hwanted hnone item).mp hitem)
    exact ⟨_, executions, selects_selected hnone, hexecutions,
      (listReconcilable_eq hlimit).trans hexecutions⟩

end Finding

/-! ## A table of two executions -/

def tableOf (items : List Item) : Table :=
  fun taskId => items.find? fun item => item.taskId = taskId

def StatusIndex.of (items : List Item) (keys : (items.map Item.taskId).Nodup)
    (sorted : items.Pairwise fun a b => a.createdAt ≤ b.createdAt) :
    StatusIndex (tableOf items) where
  items := items
  keys := keys
  sorted := sorted
  complete item := by
    constructor
    · intro hmem
      obtain ⟨found, hfound⟩ : ∃ found, tableOf items item.taskId = some found :=
        Option.isSome_iff_exists.mp (List.find?_isSome.mpr ⟨item, hmem, decide_eq_true rfl⟩)
      have hfind : items.find? (fun other => other.taskId = item.taskId) = some found := hfound
      have hsame : found.taskId = item.taskId := by simpa using List.find?_some hfind
      rw [hfound, List.inj_on_of_nodup_map keys (List.mem_of_find?_eq_some hfound) hmem hsame]
    · exact fun h => List.mem_of_find?_eq_some h

def underLease (taskId createdAt : String) (leaseExpiresAt : ℤ) : Item :=
  { acceptedItem ⟨taskId, "incident.processing.requested", "1.0", "incident-service", taskId, "c",
      .null, createdAt, none, none⟩ (Uuid.str 7) createdAt 0 with
    status := .incidentServiceProcessing
    leaseExpiresAt := some leaseExpiresAt }

def twoUnderLease : List Item :=
  [underLease "a" "2026-01-01T00:00:00+00:00" 100, underLease "b" "2026-01-02T00:00:00+00:00" 50]

def twoIndex : StatusIndex (tableOf twoUnderLease) := .of twoUnderLease (by decide) (by decide)

/-- With room for two, the abandoned one is found. -/
theorem list_reconcilable_two : ∃ chosen executions, Selects twoIndex 60 2 chosen ∧
    chosen.mapM toDomain = some executions ∧
    twoIndex.listReconcilable 60 2 = some executions := by
  apply (list_reconcilable_iff (by decide)).mpr
  refine ⟨.inr fun item h => by contradiction, fun item h => ?_⟩
  obtain rfl : item = underLease "b" "2026-01-02T00:00:00+00:00" 50 := List.mem_singleton.mp h
  simp [toDomain, underLease, acceptedItem, parse?_str]

/-- With room for one, the abandoned one is hidden behind a lease that runs. -/
theorem list_reconcilable_hides : ¬ ∃ chosen executions, Selects twoIndex 60 1 chosen ∧
    chosen.mapM toDomain = some executions ∧
    twoIndex.listReconcilable 60 1 = some executions := by
  rintro ⟨chosen, executions, hselects, hchosen, hlist⟩
  have hnone := noneHidden_of_selects (by decide) hselects hchosen hlist
  obtain hall | hrest := hnone
  · exact absurd (hall _ (List.mem_cons_self ..)) (by decide)
  · exact hrest _ (List.mem_cons_self ..) (by decide)

end OpsFlow.Execution
