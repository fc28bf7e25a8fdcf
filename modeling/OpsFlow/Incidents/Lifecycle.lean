import OpsFlow.Incidents.Services
import OpsFlow.Library.Transition

namespace OpsFlow.Incidents
open Transition

/-! ## The incident service, one operation after the other -/

def process (rows : Rows) (incidentId : Uuid) (acknowledgedNow updatedNow : Timestamp) :
    Except ServiceError (IncidentProcessingResult × Rows) := do
  let existing ← getById rows incidentId
  if processingChanges existing acknowledgedNow then
    let updated := processedIncident existing acknowledgedNow updatedNow
    return (persistedResult updated, ← Repository.update rows existing updated)
  else return (unchangedResult existing, rows)

/-- Processing changes no text, so that the driver takes what it writes. -/
theorem process_eq {rows : Rows} {incidentId : Uuid} {existing : Incident}
    {acknowledgedNow updatedNow : Timestamp}
    (h : Repository.getById rows incidentId = some existing) :
    process rows incidentId acknowledgedNow updatedNow =
      if processingChanges existing acknowledgedNow then
        .ok (persistedResult (processedIncident existing acknowledgedNow updatedNow),
          Repository.replace rows (processedIncident existing acknowledgedNow updatedNow))
      else .ok (unchangedResult existing, rows) := by
  have hupdate : Repository.update rows existing
      (processedIncident existing acknowledgedNow updatedNow) = .ok (Repository.replace rows
        (processedIncident existing acknowledgedNow updatedNow)) :=
    Repository.update_of_textColumns rfl
  simp only [process, getById_eq_ok_iff.mpr h, bind, Except.bind, hupdate]
  rfl

inductive Change
  | create (payload : IncidentCreate) (correlationId : Option String)
  | patch (incidentId : Uuid) (payload : IncidentUpdate)
  | delete (incidentId : Uuid)
  | process (incidentId : Uuid)

def Change.perform (serviceExists : Uuid → Bool) (db : Database) (draw : Draw) :
    Change → Except ServiceError Database
  | .create payload correlationId =>
    (Remote.create serviceExists db payload correlationId draw).map fun (_, db') => db'
  | .patch incidentId payload =>
    (Remote.update serviceExists db incidentId payload draw).map fun (_, db') => db'
  | .delete incidentId =>
    (Incidents.delete db.incidents incidentId).map fun rows => { db with incidents := rows }
  | .process incidentId =>
    (Incidents.process db.incidents incidentId draw.resolvedNow draw.updatedNow).map
      fun (_, rows) => { db with incidents := rows }

def Change.drawn (draw : Draw) : Change → List Uuid
  | .create _ _ => [draw.incidentId]
  | _ => []

structure Store where
  db : Database
  drawn : List Uuid

def Store.empty : Store := ⟨⟨[], []⟩, []⟩

/-- `uuid4` draws no identifier twice; an operation that fails is rolled back. -/
inductive LifecycleStep (serviceExists : Uuid → Bool) : Store → Change → Store → Prop
  | performs {s : Store} {change : Change} {draw : Draw} {db : Database} :
      change.perform serviceExists s.db draw = .ok db →
      (∀ id ∈ change.drawn draw, id ∉ s.drawn) →
      LifecycleStep serviceExists s change ⟨db, change.drawn draw ++ s.drawn⟩
  | fails {s : Store} {change : Change} : LifecycleStep serviceExists s change s

variable {serviceExists : Uuid → Bool} {s s' : Store} {change : Change} {i i' existing : Incident}
  {rows rows' : Rows} {incidentId : Uuid}

/-! ## What one operation does to the rows -/

inductive RowsChange (change : Change) (draw : Draw) (rows : Rows) : Rows → Prop
  | created {payload : IncidentCreate} {correlationId : Option String} :
      change = .create payload correlationId →
      RowsChange change draw rows (rows ++ [createdIncident payload payload.source
        payload.customerImpacting payload.acknowledgedAt draw])
  | patched {payload : IncidentUpdate} {existing : Incident} :
      change = .patch existing.id payload → existing ∈ rows →
      RowsChange change draw rows (Repository.replace rows
        (updatedIncident existing payload draw.resolvedNow draw.updatedNow))
  | deleted {incidentId : Uuid} : change = .delete incidentId →
      RowsChange change draw rows (Repository.delete rows incidentId)
  | processed {existing : Incident} : change = .process existing.id → existing ∈ rows →
      RowsChange change draw rows (Repository.replace rows
        (processedIncident existing draw.resolvedNow draw.updatedNow))
  | unchanged : RowsChange change draw rows rows

theorem rowsChange_of_perform {db db' : Database} {draw : Draw}
    (h : change.perform serviceExists db draw = .ok db') :
    RowsChange change draw db.incidents db'.incidents := by
  cases change with
  | create payload correlationId =>
    obtain ⟨⟨incident, _⟩, hcreate, rfl⟩ := map_eq_ok.mp h
    obtain ⟨rfl, hrows⟩ := Remote.create_eq_ok hcreate
    rw [hrows]
    exact .created rfl
  | patch incidentId payload =>
    obtain ⟨⟨incident, _⟩, hupdate, rfl⟩ := map_eq_ok.mp h
    obtain ⟨existing, hfound, rfl, hrows⟩ := Remote.update_eq_ok hupdate
    obtain ⟨hmem, rfl⟩ := mem_of_getById hfound
    rw [hrows]
    exact .patched rfl hmem
  | delete incidentId =>
    cases hfound : getById db.incidents incidentId with
    | error e => simp [Change.perform, Incidents.delete, hfound, bind, Except.bind, Except.map] at h
    | ok existing =>
      simp only [Change.perform, Incidents.delete, hfound, bind, Except.bind, pure, Except.pure,
        Except.map] at h
      obtain rfl := Except.ok.inj h
      exact .deleted rfl
  | process incidentId =>
    cases hfound : getById db.incidents incidentId with
    | error e =>
      simp [Change.perform, Incidents.process, hfound, bind, Except.bind, Except.map] at h
    | ok existing =>
      have hread := getById_eq_ok_iff.mp hfound
      obtain ⟨hmem, rfl⟩ := mem_of_getById hread
      rw [Change.perform, process_eq hread] at h
      split_ifs at h
      · obtain rfl := Except.ok.inj h
        exact .processed rfl hmem
      · obtain rfl := Except.ok.inj h
        exact .unchanged

/-! ## The row of an incident -/

structure Succeeds (change : Change) (i i' : Incident) : Prop where
  id : i'.id = i.id
  createdAt : i'.createdAt = i.createdAt
  reportedByEmail : i'.reportedByEmail = i.reportedByEmail
  acknowledgedAt : i.acknowledgedAt ≠ none → i'.acknowledgedAt ≠ i.acknowledgedAt →
    ∃ payload, change = .patch i.id payload ∧ payload.acknowledgedAt ≠ none

def Incident.Settled (i : Incident) : Prop := i.resolvedAt.isSome ↔ i.status = .resolved

theorem settled_resolveTimestamp {payload : IncidentUpdate} {status : IncidentStatus}
    {now : Timestamp} :
    (resolveTimestamp existing payload status now).isSome ↔ status = .resolved := by
  unfold resolveTimestamp
  by_cases hresolved : status = .resolved
  · rw [if_neg (not_not.mpr hresolved)]
    refine iff_of_true ?_ hresolved
    split
    · rfl
    · split <;> rfl
  · rw [if_pos hresolved]
    exact iff_of_false (by simp) hresolved

theorem succeeds_rfl (change : Change) (i : Incident) : Succeeds change i i :=
  ⟨rfl, rfl, rfl, fun _ h => absurd rfl h⟩

theorem succeeds_updated {payload : IncidentUpdate} {resolvedNow updatedNow : Timestamp}
    (h : change = .patch existing.id payload) :
    Succeeds change existing (updatedIncident existing payload resolvedNow updatedNow) where
  id := rfl
  createdAt := rfl
  reportedByEmail := rfl
  acknowledgedAt := by
    intro _ hchanged
    refine ⟨payload, h, fun hleft => hchanged ?_⟩
    change payload.acknowledgedAt.getD existing.acknowledgedAt = existing.acknowledgedAt
    rw [hleft, Option.getD_none]

theorem succeeds_processed {acknowledgedNow updatedNow : Timestamp} :
    Succeeds change existing (processedIncident existing acknowledgedNow updatedNow) where
  id := rfl
  createdAt := rfl
  reportedByEmail := rfl
  acknowledgedAt := by
    intro hset hchanged
    -- only an incident that nobody has acknowledged is acknowledged
    exact absurd (if_neg fun hunset => hset hunset.2) hchanged

theorem settled_processed {acknowledgedNow updatedNow : Timestamp} (h : existing.Settled) :
    (processedIncident existing acknowledgedNow updatedNow).Settled := by
  have hstatus : targetStatus existing = .resolved ↔ existing.status = .resolved := by
    unfold targetStatus
    split_ifs with hopen
    · simp [hopen]
    · rfl
  exact h.trans hstatus.symm

/-! ## The invariant of a run -/

/-- The rows have identifiers that have been drawn, each a different one, and all are settled. -/
structure Store.Inv (s : Store) : Prop where
  nodup : (s.db.incidents.map Incident.id).Nodup
  drawn : ∀ i ∈ s.db.incidents, i.id ∈ s.drawn
  settled : ∀ i ∈ s.db.incidents, i.Settled

theorem eq_of_id (hnodup : (rows.map Incident.id).Nodup) (hi : i ∈ rows) (hi' : i' ∈ rows)
    (h : i.id = i'.id) : i = i' := List.inj_on_of_nodup_map hnodup hi hi' h

theorem ids_update {updated : Incident} :
    (Repository.replace rows updated).map Incident.id = rows.map Incident.id := by
  unfold Repository.replace
  rw [List.map_map]
  apply List.map_congr_left
  intro i _
  by_cases h : i.id = updated.id
  · simp [h]
  · simp [h]

theorem mem_update {updated : Incident} (h : i' ∈ Repository.replace rows updated) :
    i' = updated ∨ i' ∈ rows := by
  obtain ⟨i, hi, rfl⟩ := List.mem_map.mp h
  split_ifs
  · exact .inl rfl
  · exact .inr hi

/-- A row that an operation leaves is new, or it succeeds a row of the same incident. -/
theorem row_of_change {draw : Draw} (h : RowsChange change draw rows rows') (hi' : i' ∈ rows') :
    (∃ i ∈ rows, Succeeds change i i' ∧ (i.Settled → i'.Settled)) ∨
      i'.id ∈ change.drawn draw ∧ i'.Settled := by
  have hold {i : Incident} (hi : i ∈ rows) :
      ∃ j ∈ rows, Succeeds change j i ∧ (j.Settled → i.Settled) :=
    ⟨i, hi, succeeds_rfl change i, fun h => h⟩
  cases h with
  | @created payload correlationId hchange =>
    obtain hi' | hi' := List.mem_append.mp hi'
    · exact .inl (hold hi')
    · -- a row that is created as resolved gets the time of its creation
      obtain rfl := List.mem_singleton.mp hi'
      subst hchange
      refine .inr ⟨List.mem_singleton_self _, ?_⟩
      change (if payload.status = .resolved then some draw.now else none).isSome ↔
        payload.status = .resolved
      split_ifs with hresolved
      · exact iff_of_true rfl hresolved
      · exact iff_of_false (by simp) hresolved
  | @patched payload existing hchange hmem =>
    obtain rfl | hi' := mem_update hi'
    · exact .inl ⟨existing, hmem, succeeds_updated hchange, fun _ => settled_resolveTimestamp⟩
    · exact .inl (hold hi')
  | deleted hchange => exact .inl (hold (List.mem_of_mem_filter hi'))
  | @processed existing hchange hmem =>
    obtain rfl | hi' := mem_update hi'
    · exact .inl ⟨existing, hmem, succeeds_processed, settled_processed⟩
    · exact .inl (hold hi')
  | unchanged => exact .inl (hold hi')

theorem nodup_of_change {draw : Draw} (hnodup : (rows.map Incident.id).Nodup)
    (hfresh : ∀ id ∈ change.drawn draw, ∀ i ∈ rows, i.id ≠ id)
    (h : RowsChange change draw rows rows') : (rows'.map Incident.id).Nodup := by
  cases h with
  | @created payload correlationId hchange =>
    subst hchange
    rw [List.map_append, List.nodup_append]
    refine ⟨hnodup, by simp, ?_⟩
    intro id hid id' hid' heq
    obtain ⟨i, hi, rfl⟩ := List.mem_map.mp hid
    obtain rfl := List.mem_singleton.mp hid'
    exact hfresh _ (List.mem_singleton_self _) i hi heq
  | patched | processed =>
    rw [ids_update]
    exact hnodup
  | deleted => exact hnodup.sublist (List.filter_sublist.map Incident.id)
  | unchanged => exact hnodup

namespace Store.Inv

theorem step (hs : s.Inv) (h : LifecycleStep serviceExists s change s') : s'.Inv := by
  cases h with
  | fails => exact hs
  | @performs draw db hperform hfresh =>
    have hchange := rowsChange_of_perform hperform
    refine ⟨nodup_of_change hs.nodup ?_ hchange, fun i' hi' => ?_, fun i' hi' => ?_⟩
    · rintro id hid i hi rfl
      exact hfresh i.id hid (hs.drawn i hi)
    · obtain ⟨i, hi, hsucceeds, -⟩ | ⟨hnew, -⟩ := row_of_change hchange hi'
      · rw [hsucceeds.id]
        exact List.mem_append_right _ (hs.drawn i hi)
      · exact List.mem_append_left _ hnew
    · obtain ⟨i, hi, -, hsettled⟩ | ⟨-, hsettled⟩ := row_of_change hchange hi'
      · exact hsettled (hs.settled i hi)
      · exact hsettled

theorem empty : Store.empty.Inv where
  nodup := List.nodup_nil
  drawn _ h := by contradiction
  settled _ h := by contradiction

theorem run (hs : s.Inv) {changes : List Change}
    (hrun : Run (LifecycleStep serviceExists) s changes s') : s'.Inv :=
  hrun.invariant (fun _ _ _ hs h => hs.step h) hs

end Store.Inv

/-- One operation, on an incident that there was before it. -/
theorem succeeds_step (h : LifecycleStep serviceExists s change s')
    (hdrawn : i'.id ∈ s.drawn) (hi' : i' ∈ s'.db.incidents) :
    ∃ i ∈ s.db.incidents, Succeeds change i i' := by
  cases h with
  | fails => exact ⟨i', hi', succeeds_rfl change i'⟩
  | performs hperform hfresh =>
    obtain ⟨i, hi, hsucceeds, -⟩ | ⟨hnew, -⟩ :=
      row_of_change (rowsChange_of_perform hperform) hi'
    · exact ⟨i, hi, hsucceeds⟩
    · exact absurd hdrawn (hfresh _ hnew)

theorem drawn_run {changes : List Change} (hrun : Run (LifecycleStep serviceExists) s changes s')
    {id : Uuid} (h : id ∈ s.drawn) : id ∈ s'.drawn := by
  induction hrun with
  | nil => exact h
  | snoc _ hstep ih =>
    cases hstep with
    | fails => exact ih
    | performs => exact List.mem_append_right _ ih

/-- An incident through a run: what never changes, and what only a PATCH changes. -/
theorem succeeds_run (hs : s.Inv) {changes : List Change}
    (hrun : Run (LifecycleStep serviceExists) s changes s') (hi : i ∈ s.db.incidents)
    (hi' : i' ∈ s'.db.incidents) (hid : i'.id = i.id) :
    i'.createdAt = i.createdAt ∧ i'.reportedByEmail = i.reportedByEmail ∧
      (i.acknowledgedAt ≠ none →
        (∀ payload, .patch i.id payload ∈ changes → payload.acknowledgedAt = none) →
        i'.acknowledgedAt = i.acknowledgedAt) := by
  induction hrun generalizing i' with
  | nil =>
    obtain rfl := eq_of_id hs.nodup hi' hi hid
    exact ⟨rfl, rfl, fun _ _ => rfl⟩
  | @snoc s₁ s₂ changes change hrun hstep ih =>
    have hdrawn : i'.id ∈ s₁.drawn := by
      rw [hid]
      exact drawn_run hrun (hs.drawn i hi)
    obtain ⟨i₁, hi₁, hsucceeds⟩ := succeeds_step hstep hdrawn hi'
    obtain ⟨hcreated, hemail, hacknowledged⟩ := ih hi₁ (hsucceeds.id.symm.trans hid)
    refine ⟨hsucceeds.createdAt.trans hcreated, hsucceeds.reportedByEmail.trans hemail,
      fun hset hnone => ?_⟩
    have hbefore : i₁.acknowledgedAt = i.acknowledgedAt :=
      hacknowledged hset fun payload h => hnone payload (List.mem_append_left _ h)
    by_contra hchanged
    obtain ⟨payload, rfl, hnamed⟩ := hsucceeds.acknowledgedAt (hbefore ▸ hset) (hbefore ▸ hchanged)
    refine hnamed (hnone payload ?_)
    rw [← hid, hsucceeds.id]
    exact List.mem_append_right _ (List.mem_singleton_self _)

/-! ## Processing once and twice -/

/-- What is processed is open, or it is investigated and nobody has acknowledged it. -/
theorem processingChanges_iff {now : Timestamp} : processingChanges existing now = true ↔
    existing.status = .opened ∨ existing.status = .investigating ∧
      existing.acknowledgedAt = none := by
  unfold processingChanges targetStatus targetAcknowledgedAt
  cases hstatus : existing.status with
  | opened => simp
  | investigating => cases hacknowledged : existing.acknowledgedAt <;> simp
  | monitoring => simp
  | resolved => simp

theorem not_processingChanges_processed {acknowledgedNow updatedNow now : Timestamp} :
    ¬ processingChanges (processedIncident existing acknowledgedNow updatedNow) now = true := by
  rw [processingChanges_iff]
  unfold processedIncident targetStatus targetAcknowledgedAt
  cases existing.status with
  | opened | investigating => cases existing.acknowledgedAt <;> simp
  | monitoring | resolved => simp

theorem process_unchanged {c₁ c₂ : Timestamp}
    (hfound : Repository.getById rows incidentId = some existing)
    (h : ¬ processingChanges existing c₁ = true) :
    process rows incidentId c₁ c₂ = .ok (unchangedResult existing, rows) := by
  simp only [process, getById_eq_ok_iff.mpr hfound, bind, Except.bind, pure, Except.pure]
  rw [if_neg h]

theorem getById_update {updated : Incident} (hupdated : updated.id = incidentId)
    (hfound : Repository.getById rows incidentId = some existing) :
    Repository.getById (Repository.replace rows updated) incidentId = some updated := by
  subst hupdated
  unfold Repository.getById Repository.replace at *
  induction rows with
  | nil => contradiction
  | cons i rows ih =>
    by_cases hid : i.id = updated.id
    · simp [hid]
    · simp only [List.find?_cons, hid, decide_false] at hfound
      simp only [List.map_cons, hid, if_false, List.find?_cons, decide_false]
      exact ih hfound

/-- The second time finds nothing to do. -/
theorem process_twice {c₁ c₂ : Timestamp} {result : IncidentProcessingResult}
    (h : process rows incidentId c₁ c₂ = .ok (result, rows')) (c₃ c₄ : Timestamp) :
    process rows' incidentId c₃ c₄ = .ok ({ result with changed := false }, rows') := by
  cases hfound : Repository.getById rows incidentId with
  | none =>
    simp [process, getById, hfound, bind, Except.bind] at h
  | some existing =>
    by_cases hchanges : processingChanges existing c₁ = true
    · rw [process_eq hfound, if_pos hchanges] at h
      obtain ⟨rfl, rfl⟩ := Prod.mk.inj (Except.ok.inj h)
      have hid : (processedIncident existing c₁ c₂).id = incidentId := (mem_of_getById hfound).2
      exact process_unchanged (getById_update hid hfound) not_processingChanges_processed
    · rw [process_unchanged hfound hchanges] at h
      obtain ⟨rfl, rfl⟩ := Prod.mk.inj (Except.ok.inj h)
      refine process_unchanged hfound fun hlater => hchanges ?_
      rw [processingChanges_iff] at hlater ⊢
      exact hlater

/-! ## The lifecycle -/

/-- Every reachable incident is settled; what it was created with stays, only a PATCH that names
`acknowledged_at` changes it once it is set, and processing takes an incident up at most once. -/
theorem incident_lifecycle {changes : List Change}
    (hrun : Run (LifecycleStep serviceExists) .empty changes s) :
    (∀ i ∈ s.db.incidents, i.resolvedAt.isSome ↔ i.status = .resolved) ∧
    (∀ changes' s', Run (LifecycleStep serviceExists) s changes' s' →
      ∀ i ∈ s.db.incidents, ∀ i' ∈ s'.db.incidents, i'.id = i.id →
        i'.createdAt = i.createdAt ∧ i'.reportedByEmail = i.reportedByEmail ∧
        (i.acknowledgedAt ≠ none →
          (∀ payload, .patch i.id payload ∈ changes' → payload.acknowledgedAt = none) →
          i'.acknowledgedAt = i.acknowledgedAt)) ∧
    (∀ change s', LifecycleStep serviceExists s change s' → ∀ i' ∈ s'.db.incidents,
      (∃ i ∈ s.db.incidents, i.id = i'.id) ∨ i'.id ∉ s.drawn) ∧
    (∀ incidentId c₁ c₂ result rows',
      process s.db.incidents incidentId c₁ c₂ = .ok (result, rows') → ∀ c₃ c₄,
        process rows' incidentId c₃ c₄ = .ok ({ result with changed := false }, rows')) ∧
    ∀ i ∈ s.db.incidents, i.status = .monitoring ∨ i.status = .resolved → ∀ c₁ c₂,
      process s.db.incidents i.id c₁ c₂ = .ok (unchangedResult i, s.db.incidents) := by
  have hs : s.Inv := Store.Inv.empty.run hrun
  refine ⟨hs.settled, fun changes' s' hrun' i hi i' hi' => succeeds_run hs hrun' hi hi',
    fun change s' hstep i' hi' => ?_, fun incidentId c₁ c₂ result rows' => process_twice,
    fun i hi hstatus c₁ c₂ => ?_⟩
  · cases hstep with
    | fails => exact .inl ⟨i', hi', rfl⟩
    | performs hperform hfresh =>
      obtain ⟨i, hi, hsucceeds, -⟩ | ⟨hnew, -⟩ := row_of_change (rowsChange_of_perform hperform) hi'
      · exact .inl ⟨i, hi, hsucceeds.id.symm⟩
      · exact .inr (hfresh _ hnew)
  · obtain ⟨found, hfound⟩ : ∃ found, Repository.getById s.db.incidents i.id = some found :=
      Option.isSome_iff_exists.mp (List.find?_isSome.mpr ⟨i, hi, decide_eq_true rfl⟩)
    obtain ⟨hmem, hid⟩ := mem_of_getById hfound
    obtain rfl := eq_of_id hs.nodup hmem hi hid
    refine process_unchanged hfound fun hchanges => ?_
    obtain hopen | ⟨hinvestigating, -⟩ := processingChanges_iff.mp hchanges
    · simp [hopen] at hstatus
    · simp [hinvestigating] at hstatus

def outage : IncidentCreate :=
  ⟨"Outage", 1, .sev1, .opened, "Nothing answers.", "ada", none, "manual", false, none, none⟩

/-- An incident that is created, taken up and resolved. -/
theorem incident_lifecycle_resolved : ∃ s : Store,
    Run (LifecycleStep fun _ => true) .empty [.create outage none, .process 7,
      .patch 7 { IncidentUpdate.empty with status := some (some .resolved) }] s ∧
    s.db.incidents.map Incident.resolvedAt = [some 3] ∧
    ∀ i ∈ s.db.incidents, i.resolvedAt.isSome ↔ i.status = .resolved := by
  have h₁ := (Run.nil Store.empty).snoc
    (@LifecycleStep.performs (fun _ => true) .empty (.create outage none) ⟨7, 1, 0, 0, 8, 9, 10⟩ _
      rfl fun _ _ h => by contradiction)
  have h₂ := h₁.snoc
    (@LifecycleStep.performs (fun _ => true) _ (.process 7) ⟨0, 0, 2, 2, 0, 0, 0⟩ _
      rfl fun _ h => by contradiction)
  have h₃ := h₂.snoc
    (@LifecycleStep.performs (fun _ => true) _ (.patch 7
      { IncidentUpdate.empty with status := some (some .resolved) }) ⟨0, 0, 3, 3, 0, 0, 0⟩ _
      rfl fun _ h => by contradiction)
  obtain ⟨hsettled, -⟩ := incident_lifecycle h₃
  exact ⟨_, h₃, rfl, hsettled⟩

end OpsFlow.Incidents
