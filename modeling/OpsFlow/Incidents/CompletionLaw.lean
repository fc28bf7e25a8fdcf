import OpsFlow.Incidents.CompletionHistory

namespace OpsFlow.Incidents
open Transition RowStore

namespace Reconciliation

variable {τ ι : Type} {s s' : Reconciliation τ ι} {a : τ}

/-! ## The law -/

section Law
variable [DecidableEq τ] [DecidableEq ι]

/-- An attempt that has committed stays so. -/
theorem committed_step {l : ReconcileLabel τ ι} (h : ReconcileStep s l s') {job : Job}
    {effect : Effect} (hc : s.attempts a = .committed job effect) :
    s'.attempts a = .committed job effect := by
  -- a step moves an attempt that is in progress, which this one is not
  have hkeep : ∀ {a' : τ} {x y : Attempt}, s.attempts a' = y → y ≠ .committed job effect →
      Function.update s.attempts a' x a = .committed job effect := by
    intro a' x y hy hne
    have ha : a ≠ a' := by
      rintro rfl
      exact hne (hy.symm.trans hc)
    rw [Function.update_of_ne ha, hc]
  cases h with
  | begin _ hp _ => exact hkeep hp (by simp)
  | readMissing hp _ => exact hkeep hp (by simp)
  | read hp _ => exact hkeep hp (by simp)
  | selectMissing hp _ => exact hkeep hp (by simp)
  | select hp _ => exact hkeep hp (by simp)
  | skip hp _ => exact hkeep hp (by simp)
  | writeMissing hp _ _ _ => exact hkeep hp (by simp)
  | write hp _ _ _ => exact hkeep hp (by simp)
  | insert hp _ _ _ => exact hkeep hp (by simp)
  | conflict hp _ _ => exact hkeep hp (by simp)
  | loadMissing hp _ => exact hkeep hp (by simp)
  | collision hp _ _ _ => exact hkeep hp (by simp)
  | load hp _ _ _ _ => exact hkeep hp (by simp)
  | commit hp => exact hkeep hp (by simp)
  | fail hn =>
    refine hkeep rfl ?_
    intro heq
    rw [heq] at hn
    exact hn
  | _ => exact hc

/-- The only step of an attempt that changes what is committed is its commit. -/
theorem attempt_step {l : ReconcileLabel τ ι} (h : ReconcileStep s l s')
    (hl : l.attempt? = some a) :
    (s'.incidents.committed = s.incidents.committed ∧ s'.outbox.committed = s.outbox.committed) ∨
      ∃ job effect, s'.attempts a = .committed job effect := by
  cases h with
  | commit hp =>
    simp only [ReconcileLabel.attempt?, Option.some.injEq] at hl
    subst hl
    exact .inr ⟨_, _, Function.update_self ..⟩
  | put | notClaimed | claim | returned | raised | mark | crash | edit | relay => cases hl
  | _ => exact .inl ⟨rfl, rfl⟩

/-- A completion row stays, with its message. -/
theorem row_step {l : ReconcileLabel τ ι} (hi : s.Inv) (h : ReconcileStep s l s') {k : Uuid}
    {row : CompletionRow} (hrow : s.outbox.committed k = some row) :
    ∃ row', s'.outbox.committed k = some row' ∧ row'.message = row.message := by
  cases h with
  | @commit a job effect built stored hp =>
    have hk : s.outbox.holder k ≠ some a := by
      intro hk
      rw [hi.outbox.held k a hk] at hrow
      cases hrow
    refine ⟨row, ?_, rfl⟩
    show s.outbox.view a k = some row
    rw [Table.view_of_not_holder hk, hrow]
  | @relay k' old new hholder hold hmessage =>
    by_cases hk : k = k'
    · subst hk
      rw [hrow] at hold
      cases hold
      exact ⟨new, Function.update_self .., hmessage⟩
    · exact ⟨row, by simpa [Function.update_of_ne hk] using hrow, rfl⟩
  | _ => exact ⟨row, hrow, rfl⟩

/-- Effectively-once completion, in the state that a run has led to. -/
structure CompletionLaw (incidents : Uuid → Option Incident) (ls : List (ReconcileLabel τ ι))
    (s : Reconciliation τ ι) : Prop where
  succeeded : ∀ k item, s.executions k = some item → item.status = .succeeded →
    ∃ c ∈ s.log, c.job.execution.taskId = k ∧ Uuid.parse? k = some c.job.taskId ∧
      Applied c.job c.effect ∧ Happened incidents ls s c ∧ c.stored.taskId = c.job.taskId ∧
      ∃ id row, s.outbox.committed id = some row ∧ row.message = c.stored
  one : ∀ k k' row row', s.outbox.committed k = some row → s.outbox.committed k' = some row' →
    row.message.taskId = row'.message.taskId → k = k'
  first : ∀ k row, s.outbox.committed k = some row →
    ∃ c, firstFor row.message.taskId s.log = some c ∧
    BuiltFor c.job c.effect c.built ∧ row.message = c.built
  stays : ∀ ls s', Run ReconcileStep s ls s' → ∀ k row, s.outbox.committed k = some row →
    ∃ row', s'.outbox.committed k = some row' ∧ row'.message = row.message
  raises : ∀ a l s₁ ls s₂ error, l.attempt? = some a → ReconcileStep s l s₁ →
    Run ReconcileStep s₁ ls s₂ → s₂.attempts a = .raised error →
    s₁.incidents.committed = s.incidents.committed ∧ s₁.outbox.committed = s.outbox.committed
  raised : ∀ a error, s.attempts a = .raised error →
    s.incidents.HoldsNothing a ∧ s.outbox.HoldsNothing a

theorem completion_law (incidents : Uuid → Option Incident) (ls : List (ReconcileLabel τ ι))
    (s : Reconciliation τ ι) (h : Run ReconcileStep (start incidents) ls s) :
    CompletionLaw incidents ls s := by
  obtain ⟨hi, hpast⟩ := past_run h
  refine ⟨?_, ?_, ?_, ?_, ?_, ?_⟩
  · intro k item hitem hs
    obtain ⟨c, hc, htask⟩ := hi.executions k item hitem hs
    obtain ⟨-, hvalid, happlied, -⟩ := hi.log c hc
    obtain ⟨hstored, hrow⟩ := hi.outbox.logged c hc
    exact ⟨c, hc, htask, by rw [← htask]; exact hvalid, happlied, hpast.log c hc, hstored, hrow⟩
  · intro k k' row row' hrow hrow' htask
    exact hi.outbox.unique k k' row row' (.inl hrow) (.inl hrow') htask
  · intro k row hrow
    obtain ⟨c, hc, hmessage⟩ := hi.outbox.first k row hrow
    exact ⟨c, hc, (hi.log c (List.mem_of_find?_eq_some hc)).2.2.2, hmessage⟩
  · intro ls' s' hrun k row hrow
    have hstep :
        ∀ (s₁ : Reconciliation τ ι) l s₂, (s₁.Inv ∧ ∃ row', s₁.outbox.committed k = some row' ∧
        row'.message = row.message) → ReconcileStep s₁ l s₂ →
        s₂.Inv ∧ ∃ row', s₂.outbox.committed k = some row' ∧ row'.message = row.message := by
      intro s₁ l s₂ h₁ h₂
      obtain ⟨hi₁, row', hrow', hm'⟩ := h₁
      obtain ⟨row'', hrow'', hm''⟩ := row_step hi₁ h₂ hrow'
      exact ⟨inv_step hi₁ h₂, row'', hrow'', hm''.trans hm'⟩
    exact (hrun.invariant hstep ⟨hi, row, hrow, rfl⟩).2
  · intro a l s₁ ls' s₂ error hl hstep hrun hraised
    rcases attempt_step hstep hl with hsame | ⟨job, effect, hcommitted⟩
    · exact hsame
    · have hkeep : ∀ (s₃ : Reconciliation τ ι) l s₄, s₃.attempts a = .committed job effect →
          ReconcileStep s₃ l s₄ → s₄.attempts a = .committed job effect :=
        fun _ _ _ hc hs => committed_step hs hc
      have hlate := hrun.invariant hkeep hcommitted
      rw [hraised] at hlate
      cases hlate
  · intro a error hraised
    have hx := hi.attempts a
    rw [hraised] at hx
    exact hx

end Law

/-! ## A reconciler that is left alone -/

section Alone
variable [DecidableEq τ] [DecidableEq ι]

/-- It takes up an open incident, records the completion and has its result to mark. -/
theorem reconcile_run {s : Reconciliation τ ι} {i : ι} (a : τ)
    {execution : Execution.IncidentTaskExecution} {taskId : Uuid} {existing : Incident}
    (hclaimed : s.reconcilers i = .claimed execution) (hidle : s.attempts a = .idle)
    (hparse : Uuid.parse? execution.taskId = some taskId)
    (hrow : s.incidents.committed execution.incidentId = some existing)
    (hid : existing.id = execution.incidentId)
    (hfree : s.incidents.holder execution.incidentId = none) (hopen : existing.status = .opened)
    (hnew : ∀ k row, ¬ s.outbox.Version k row) (hholder : ∀ k, s.outbox.holder k = none)
    (c₁ c₂ occurredAt : Timestamp) (id eventId : Uuid) :
    ∃ s', Run ReconcileStep s [.begin i a, .read a c₁ c₂, .select a, .write a,
        .insert a id eventId occurredAt, .commit a, .return i] s' ∧
      s'.executions = s.executions ∧
      s'.incidents.committed execution.incidentId = some (processedIncident existing c₁ c₂) ∧
      s'.outbox.committed id = some (.new (completionMessage ⟨execution, taskId⟩
        (Effect.result ⟨existing, some (processedIncident existing c₁ c₂)⟩) id eventId
          occurredAt)) ∧
      s'.reconcilers i = .finished execution
        (.ok (Effect.result ⟨existing, some (processedIncident existing c₁ c₂)⟩)) := by
  let job : Job := ⟨execution, taskId⟩
  let updated := processedIncident existing c₁ c₂
  have hcompute : Pass.process.compute existing c₁ c₂ = some updated := by
    have hchanges : processingChanges existing c₁ = true := by
      simp [processingChanges, targetStatus, hopen]
    simp [Pass.compute, hchanges, updated]
  -- an open incident changes its status, so that there is something to flush
  have hsome : flushesNothing existing updated = false := by
    have hne : { updated with id := existing.id } ≠ existing := by
      intro heq
      have hs := congrArg Incident.status heq
      simp [updated, processedIncident, targetStatus, hopen] at hs
    simp [flushesNothing, hne]
  have hview : s.incidents.view a execution.incidentId = some existing := by
    rw [Table.view_of_not_holder (by simp [hfree]), hrow]
  have hview' : s.incidents.view a updated.id = some existing := by
    rw [show updated.id = execution.incidentId from hid, hview]
  let s₁ := (s.advance a (.started job)).become i (.processing execution a)
  have h₁ : ReconcileStep s (.begin i a) s₁ := .begin hclaimed hidle hparse
  let s₂ := s₁.advance a (.computed job existing updated)
  have h₂ : ReconcileStep s₁ (.read a c₁ c₂) s₂ := by
    have h : ReconcileStep s₁ (.read a c₁ c₂) _ :=
      .read (show s₁.attempts a = .started job from Function.update_self ..) hview
    rw [hcompute] at h
    exact h
  let s₃ := s₂.advance a (.selected job existing updated existing)
  have h₃ : ReconcileStep s₂ (.select a) s₃ :=
    .select (show s₂.attempts a = .computed job existing updated from Function.update_self ..)
      hview'
  let s₄ := advance { s₃ with
    incidents := s₃.incidents.write a updated.id (some (flushed existing updated existing)) } a
    (.processed job ⟨existing, some updated⟩)
  have h₄ : ReconcileStep s₃ (.write a) s₄ :=
    .write
      (show s₃.attempts a = .selected job existing updated existing from Function.update_self ..)
      hsome (.inl (show s.incidents.holder updated.id = none by
        rw [show updated.id = execution.incidentId from hid, hfree])) hview'
  let built := completionMessage job (Effect.result ⟨existing, some updated⟩) id eventId occurredAt
  let s₅ := advance { s₄ with outbox := s₄.outbox.write a id (some (.new built)) } a
    (.recorded job ⟨existing, some updated⟩ built built)
  have h₅ : ReconcileStep s₄ (.insert a id eventId occurredAt) s₅ := by
    refine .insert (show s₄.attempts a = .processed job ⟨existing, some updated⟩ from
      Function.update_self ..) ?_ (hholder id) fun k row hv => absurd hv (hnew k row)
    cases hc : s.outbox.committed id with
    | none => exact hc
    | some row => exact absurd (.inl hc) (hnew id row)
  have h₆ : ReconcileStep s₅ (.commit a) _ :=
    .commit (show s₅.attempts a = .recorded job ⟨existing, some updated⟩ built built from
      Function.update_self ..)
  have h₇ := ReconcileStep.returned
    (show (advance { s₅ with
      incidents := s₅.incidents.commit a
      outbox := s₅.outbox.commit a
      log := s₅.log ++ [⟨a, job, ⟨existing, some updated⟩, built, built⟩] } a
      (.committed job ⟨existing, some updated⟩)).reconcilers i = .processing execution a from
        Function.update_self ..) (Function.update_self ..)
  have hwritten : (s₅.incidents.commit a).committed execution.incidentId = some updated := by
    have hid' : updated.id = execution.incidentId := hid
    have hflushed : flushed existing updated existing = updated := flushed_selected rfl
    change (s.incidents.write a updated.id (some (flushed existing updated existing))).view a
      execution.incidentId = some updated
    rw [← hid', Table.view_of_holder Table.holder_write_self, Table.pending_write_self, hflushed]
  have hrecorded : (s₅.outbox.commit a).committed id = some (.new built) := by
    change (s.outbox.write a id (some (.new built))).view a id = some (.new built)
    rw [Table.view_of_holder Table.holder_write_self, Table.pending_write_self]
  exact ⟨_, .cons h₁ (.cons h₂ (.cons h₃ (.cons h₄ (.cons h₅ (.cons h₆ (.single h₇)))))), rfl,
    hwritten, hrecorded, Function.update_self ..⟩

end Alone

def anIncident : Incident :=
  ⟨1, "Outage", 2, .sev1, .opened, "Down", "Ann", 0, none, 0, 0, "manual", false, none, none⟩

def aTask : Execution.Task :=
  ⟨"00000000000000000000000000000005", "incident.process", "1.0", "api", "key", "c", .null, "2026",
    none, none⟩

def anItem : Execution.Item :=
  Execution.claimed ⟨60, 0, "2026", "a"⟩
    (Execution.acceptedItem aTask "00000000000000000000000000000001" "2026" 60)

def anExecution : Execution.IncidentTaskExecution :=
  ⟨aTask.taskId, 1, "incident.process", "c", "2026", .incidentServiceProcessing, 1, some 60,
    some "a"⟩

def oneIncident : Uuid → Option Incident := Function.update (fun _ => none) 1 (some anIncident)

def claimedState : Reconciliation Unit Unit :=
  become { start oneIncident with
    executions := Function.update (fun _ => none) aTask.taskId (some anItem) } ()
      (.claimed anExecution)

theorem claimed_run : Run ReconcileStep (start oneIncident)
    [.put aTask "00000000000000000000000000000001" "2026" 60,
      .claim () aTask.taskId ⟨60, 0, "2026", "a"⟩] claimedState := by
  have hid : Uuid.parse? "00000000000000000000000000000001" = some 1 := by decide +kernel
  have hdomain : Execution.toDomain anItem = some anExecution := by
    simp [Execution.toDomain, anItem, Execution.claimed, Execution.acceptedItem, hid, anExecution,
      aTask]
  let accepted : Execution.Table := Function.update (fun _ => none) aTask.taskId
    (some (Execution.acceptedItem aTask "00000000000000000000000000000001" "2026" 60))
  have hput : Execution.putExecution (fun _ => none) aTask "00000000000000000000000000000001"
      "2026" 60 = some accepted := ConditionalStore.putIfAbsent_eq_some.mpr ⟨rfl, rfl⟩
  have hclaim : Execution.claim accepted aTask.taskId ⟨60, 0, "2026", "a"⟩ =
      some (anItem, Function.update (fun _ => none) aTask.taskId (some anItem)) :=
    Execution.claim_eq_some.mpr ⟨_, Function.update_self .., rfl, rfl, Function.update_idem ..⟩
  have h₁ : ReconcileStep (start oneIncident : Reconciliation Unit Unit)
      (.put aTask "00000000000000000000000000000001" "2026" 60) _ := .put
  rw [show (start oneIncident : Reconciliation Unit Unit).executions = fun _ => none from rfl, hput]
    at h₁
  have h₂ : ReconcileStep { (start oneIncident : Reconciliation Unit Unit) with
      executions := accepted } (.claim () aTask.taskId ⟨60, 0, "2026", "a"⟩) _ := .claim rfl hclaim
  rw [hdomain] at h₂
  exact .cons h₁ (.single h₂)

/-- The law where the task of one open incident is accepted, claimed, processed and marked: the
incident is under investigation by then. -/
theorem completion_law_succeeded : ∃ (ls : List (ReconcileLabel Unit Unit)) (s : _),
    CompletionLaw oneIncident ls s ∧
    (∃ item, s.executions aTask.taskId = some item ∧ item.status = .succeeded) ∧
    s.incidents.committed 1 = some (processedIncident anIncident 1 1) := by
  have hparse : Uuid.parse? anExecution.taskId = some 5 := by decide +kernel
  have hrow : claimedState.incidents.committed 1 = some anIncident := by
    simp [claimedState, become, start, Table.of, oneIncident, anIncident]
  have hnew : ∀ k row, ¬ claimedState.outbox.Version k row := by
    intro k row hv
    rcases hv with hv | ⟨⟨t, ht⟩, -⟩
    · cases hv
    · cases ht
  have hclaimed : claimedState.reconcilers () = .claimed anExecution := rfl
  obtain ⟨s, hrun, hexecutions, hincident, -, hreconciler⟩ :=
    reconcile_run () hclaimed rfl hparse hrow
    rfl rfl rfl hnew (fun _ => rfl) 1 1 2 7 8
  have hmark : ReconcileStep s (.mark () "2026") _ := .mark hreconciler
  refine ⟨_, _, completion_law oneIncident _ _ ((claimed_run.append hrun).snoc hmark), ?_,
    hincident⟩
  have hitem : claimedState.executions anExecution.taskId = some anItem := by
    simp [claimedState, become, anExecution]
  have hmarked :
      ∀ result, Execution.markSucceeded claimedState.executions anExecution result "2026" =
      .ok _ := fun result => Execution.mark_eq_ok.mpr
    ⟨"a", anItem, rfl, hitem, ⟨rfl, rfl⟩, rfl⟩
  simp only [become, hexecutions, marked, hmarked, Except.toOption, Option.getD_some]
  exact ⟨_, Function.update_self .., rfl⟩

end Reconciliation
end OpsFlow.Incidents
