import OpsFlow.Incidents.Completion

namespace OpsFlow.Incidents
open Transition RowStore

variable {τ ι : Type}

/-! ## The invariant -/

def Applied (job : Job) (effect : Effect) : Prop :=
  effect.existing.id = job.execution.incidentId ∧
    ∃ c₁ c₂, effect.written = Pass.process.compute effect.existing c₁ c₂

theorem Applied.id_written {job : Job} {existing updated : Incident}
    (h : Applied job ⟨existing, some updated⟩) : updated.id = job.execution.incidentId := by
  obtain ⟨hid, c₁, c₂, hwritten⟩ := h
  rw [Pass.compute_id hwritten.symm, hid]

def Job.Valid (job : Job) : Prop := Uuid.parse? job.execution.taskId = some job.taskId

def BuiltFor (job : Job) (effect : Effect) (built : CompletionMessage) : Prop :=
  ∃ id eventId occurredAt, built = completionMessage job effect.result id eventId occurredAt

/-- The attempt holds the row of its own message, or it has found the row of its task. -/
def Recorded (outbox : Table τ Uuid CompletionRow) (a : τ) (job : Job)
    (built stored : CompletionMessage) : Prop :=
  (stored = built ∧ ∃ k, outbox.holder k = some a ∧ outbox.pending k = some (.new built) ∧
      ∀ k', outbox.holder k' = some a → k' = k) ∨
    (outbox.HoldsNothing a ∧ stored.taskId = job.taskId ∧
      ∃ k row, outbox.committed k = some row ∧ row.message = stored)

def AttemptInv (s : Reconciliation τ ι) (a : τ) : Attempt → Prop
  | .idle | .raised _ => s.incidents.HoldsNothing a ∧ s.outbox.HoldsNothing a
  | .started job => (s.incidents.HoldsNothing a ∧ s.outbox.HoldsNothing a) ∧ job.Valid
  | .computed job existing updated =>
    (s.incidents.HoldsNothing a ∧ s.outbox.HoldsNothing a) ∧ job.Valid ∧
      Applied job ⟨existing, some updated⟩
  | .selected job existing updated _ =>
    (s.incidents.HoldsNothing a ∧ s.outbox.HoldsNothing a) ∧ job.Valid ∧
      Applied job ⟨existing, some updated⟩
  | .processed job effect => s.outbox.HoldsNothing a ∧ job.Valid ∧ Applied job effect
  | .conflicted job effect built =>
    s.outbox.HoldsNothing a ∧ job.Valid ∧ Applied job effect ∧ BuiltFor job effect built
  | .recorded job effect built stored =>
    job.Valid ∧ Applied job effect ∧ BuiltFor job effect built ∧
      Recorded s.outbox a job built stored
  | .committed job effect =>
    (s.incidents.HoldsNothing a ∧ s.outbox.HoldsNothing a) ∧
      ∃ c ∈ s.log, c.attempt = a ∧ c.job = job ∧ c.effect = effect

def Attempt.job? : Attempt → Option Job
  | .idle | .raised _ => none
  | .started job | .computed job _ _ | .selected job _ _ _ | .processed job _
  | .conflicted job _ _ | .recorded job _ _ _ | .committed job _ => some job

def ReconcilerInv (s : Reconciliation τ ι) : Reconciler τ → Prop
  | .processing execution a => s.attempts a ≠ .idle ∧
      ∀ job, (s.attempts a).job? = some job → job.execution = execution
  | .finished execution (.ok _) => ∃ c ∈ s.log, c.job.execution = execution
  | _ => True

def firstFor (taskId : Uuid) (log : List (Committed τ)) : Option (Committed τ) :=
  log.find? fun c => c.job.taskId = taskId

theorem firstFor_append_of_some {taskId : Uuid} {log : List (Committed τ)} {c c' : Committed τ}
    (h : firstFor taskId log = some c) : firstFor taskId (log ++ [c']) = some c := by
  unfold firstFor at h ⊢
  rw [List.find?_append, h]
  rfl

theorem firstFor_append_of_new {taskId : Uuid} {log : List (Committed τ)} {c : Committed τ}
    (h : ∀ c' ∈ log, c'.job.taskId ≠ taskId) (hc : c.job.taskId = taskId) :
    firstFor taskId (log ++ [c]) = some c := by
  unfold firstFor
  rw [List.find?_append, List.find?_eq_none.mpr (by simpa using h)]
  simp [hc]

structure OutboxInv (outbox : Table τ Uuid CompletionRow) (log : List (Committed τ)) : Prop where
  unique : ∀ k k' row row', outbox.Version k row → outbox.Version k' row' →
    row.message.taskId = row'.message.taskId → k = k'
  held : ∀ k a, outbox.holder k = some a → outbox.committed k = none
  first : ∀ k row, outbox.committed k = some row →
    ∃ c, firstFor row.message.taskId log = some c ∧ row.message = c.built
  logged : ∀ c ∈ log, c.stored.taskId = c.job.taskId ∧
    ∃ k row, outbox.committed k = some row ∧ row.message = c.stored

structure Reconciliation.Inv (s : Reconciliation τ ι) : Prop where
  attempts : ∀ a, AttemptInv s a (s.attempts a)
  reconcilers : ∀ i, ReconcilerInv s (s.reconcilers i)
  keyed : ∀ k incident, s.incidents.Version k incident → incident.id = k
  outbox : OutboxInv s.outbox s.log
  log : ∀ c ∈ s.log, s.attempts c.attempt = .committed c.job c.effect ∧ c.job.Valid ∧
    Applied c.job c.effect ∧ BuiltFor c.job c.effect c.built
  executions : ∀ k item, s.executions k = some item → item.status = .succeeded →
    ∃ c ∈ s.log, c.job.execution.taskId = k

variable {s s' : Reconciliation τ ι} {a : τ} {x : Attempt}

/-- What an attempt holds, and the rows it may have found, are all that its invariant reads. -/
theorem AttemptInv.frame (h : AttemptInv s a x)
    (hi : Table.SameFor a s.incidents s'.incidents) (ho : Table.SameFor a s.outbox s'.outbox)
    (hc : ∀ k row, s.outbox.committed k = some row →
      ∃ row', s'.outbox.committed k = some row' ∧ row'.message = row.message)
    (hl : ∀ c ∈ s.log, c ∈ s'.log) : AttemptInv s' a x := by
  have hni := hi.holdsNothing
  have hno := ho.holdsNothing
  cases x with
  | idle => exact ⟨hni h.1, hno h.2⟩
  | raised error => exact ⟨hni h.1, hno h.2⟩
  | started job => exact ⟨⟨hni h.1.1, hno h.1.2⟩, h.2⟩
  | computed job existing updated => exact ⟨⟨hni h.1.1, hno h.1.2⟩, h.2⟩
  | selected job existing updated model => exact ⟨⟨hni h.1.1, hno h.1.2⟩, h.2⟩
  | processed job effect => exact ⟨hno h.1, h.2⟩
  | conflicted job effect built => exact ⟨hno h.1, h.2⟩
  | recorded job effect built stored =>
    obtain ⟨hv, happlied, hbuilt, ⟨hs, k, hk, hpending, honly⟩ | ⟨hn, ht, k, row, hrow, hstored⟩⟩ :=
      h
    · refine ⟨hv, happlied, hbuilt, .inl ⟨hs, k, (ho.holder k).mpr hk, ?_, ?_⟩⟩
      · rw [ho.pending k hk, hpending]
      · exact fun k' hk' => honly k' ((ho.holder k').mp hk')
    · obtain ⟨row', hrow', hmessage⟩ := hc k row hrow
      exact ⟨hv, happlied, hbuilt, .inr ⟨hno hn, ht, k, row', hrow', by rw [hmessage, hstored]⟩⟩
  | committed job effect =>
    obtain ⟨hn, c, hmem, hc'⟩ := h
    exact ⟨⟨hni hn.1, hno hn.2⟩, c, hl c hmem, hc'⟩

theorem ReconcilerInv.frame {r : Reconciler τ} (h : ReconcilerInv s r)
    (ha : s'.attempts = s.attempts) (hl : s'.log = s.log) : ReconcilerInv s' r := by
  cases r with
  | idle => trivial
  | claimed execution => trivial
  | processing execution a =>
    unfold ReconcilerInv
    rw [ha]
    exact h
  | finished execution outcome =>
    cases outcome with
    | error e => trivial
    | ok result =>
      unfold ReconcilerInv
      rw [hl]
      exact h

/-! ## The steps of an attempt -/

namespace Reconciliation

section Attempts
variable [DecidableEq τ]

/-- An attempt moves on without committing; the others notice nothing. -/
theorem inv_move (hi : s.Inv) {incidents' : Table τ Uuid Incident}
    {outbox' : Table τ Uuid CompletionRow} (hn : (s.attempts a).inProgress)
    (hx : AttemptInv { s with incidents := incidents', outbox := outbox' } a x) (hidle : x ≠ .idle)
    (hjob : ∀ job, x.job? = some job → (s.attempts a).job? = some job)
    (hincidents : Table.SameExcept a s.incidents incidents')
    (houtbox : Table.SameExcept a s.outbox outbox')
    (hkeyed : ∀ k incident, incidents'.Version k incident → incident.id = k)
    (hcommitted : outbox'.committed = s.outbox.committed) (ho : OutboxInv outbox' s.log) :
    Inv { s with
      incidents := incidents'
      outbox := outbox'
      attempts := Function.update s.attempts a x } := by
  refine ⟨fun a' => ?_, fun i => ?_, hkeyed, ho, fun c hc => ?_, hi.executions⟩
  · by_cases h : a' = a
    · subst h
      simp only [Function.update_self]
      cases x <;> exact hx
    · simp only [Function.update_of_ne h]
      refine (hi.attempts a').frame (hincidents a' h) (houtbox a' h) ?_ fun _ hc => hc
      intro k row hrow
      exact ⟨row, by simpa [hcommitted] using hrow, rfl⟩
  · have hr := hi.reconcilers i
    cases hri : s.reconcilers i with
    | processing execution a' =>
      rw [hri] at hr
      by_cases h : a' = a
      · subst h
        refine ⟨by simpa using hidle, fun job hj => ?_⟩
        simp only [Function.update_self] at hj
        exact hr.2 job (hjob job hj)
      · simpa [ReconcilerInv, Function.update_of_ne h] using hr
    | idle => trivial
    | claimed execution => trivial
    | finished execution outcome =>
      rw [hri] at hr
      cases outcome with
      | ok result => exact hr
      | error e => trivial
  · obtain ⟨hcommit, hrest⟩ := hi.log c hc
    have hne : c.attempt ≠ a := by
      rintro rfl
      rw [hcommit] at hn
      exact hn
    exact ⟨by simpa [Function.update_of_ne hne] using hcommit, hrest⟩

theorem outboxInv_rollback {outbox : Table τ Uuid CompletionRow} {log : List (Committed τ)}
    (h : OutboxInv outbox log) (a : τ) : OutboxInv (outbox.rollback a) log := by
  refine ⟨?_, ?_, h.first, h.logged⟩
  · intro k k' row row' hv hv'
    exact h.unique k k' row row' (Table.version_rollback hv) (Table.version_rollback hv')
  · intro k a' hk
    exact h.held k a' (Table.holder_rollback_eq_some.mp hk).1

theorem inv_raise (hi : s.Inv) (hn : (s.attempts a).inProgress) (error : ProcessorError) :
    (s.raise a error).Inv := by
  refine inv_move hi hn ⟨Table.holdsNothing_rollback, Table.holdsNothing_rollback⟩ (by simp)
    (by simp [Attempt.job?]) (Table.sameExcept_rollback _ _) (Table.sameExcept_rollback _ _) ?_ rfl
    (outboxInv_rollback hi.outbox a)
  intro k incident hv
  exact hi.keyed k incident (Table.version_rollback hv)

/-- A step that reads at most. -/
theorem inv_advance (hi : s.Inv) (hn : (s.attempts a).inProgress) (hx : AttemptInv s a x)
    (hidle : x ≠ .idle) (hjob : ∀ job, x.job? = some job → (s.attempts a).job? = some job) :
    (s.advance a x).Inv :=
  inv_move hi hn hx hidle hjob (Table.sameExcept_refl _ _) (Table.sameExcept_refl _ _) hi.keyed rfl
    hi.outbox

theorem inv_write (hi : s.Inv) {job : Job} {existing updated model latest : Incident}
    (hp : s.attempts a = .selected job existing updated model)
    (hfree : s.incidents.Free a updated.id)
    (hlatest : s.incidents.view a updated.id = some latest) :
    Inv (advance { s with
      incidents := s.incidents.write a updated.id (some (flushed model updated latest)) } a
      (.processed job ⟨existing, some updated⟩)) := by
  have hx := hi.attempts a
  rw [hp] at hx
  obtain ⟨⟨-, houtbox⟩, hvalid, happlied⟩ := hx
  refine inv_move hi (by rw [hp]; trivial) ⟨houtbox, hvalid, happlied⟩ (by simp)
    (by simp [hp, Attempt.job?]) (Table.sameExcept_write hfree) (Table.sameExcept_refl _ _) ?_ rfl
    hi.outbox
  intro k incident hv
  -- what is written has the identifier of the row that has been read
  rcases Table.version_write hv with hv | ⟨rfl, rfl⟩
  · exact hi.keyed k incident hv
  · exact hi.keyed _ latest (Table.version_of_view hlatest)

theorem inv_insert (hi : s.Inv) {job : Job} {effect : Effect} {id eventId : Uuid}
    {occurredAt : Timestamp} (hp : s.attempts a = .processed job effect)
    (hid : s.outbox.committed id = none) (hholder : s.outbox.holder id = none)
    (hno : ∀ k row, s.outbox.Version k row →
      row.message.taskId ≠ job.taskId ∧ row.message.eventId ≠ eventId) :
    Inv (advance { s with outbox := s.outbox.write a id (some (.new (completionMessage job
        effect.result id eventId occurredAt))) } a
      (.recorded job effect (completionMessage job effect.result id eventId occurredAt)
        (completionMessage job effect.result id eventId occurredAt))) := by
  have hx := hi.attempts a
  rw [hp] at hx
  obtain ⟨hnothing, hvalid, happlied⟩ := hx
  have honly : ∀ k', (s.outbox.write a id (some (.new (completionMessage job effect.result id
      eventId occurredAt)))).holder k' = some a → k' = id := by
    intro k' hk'
    by_contra hne
    rw [Table.holder_write_of_ne hne] at hk'
    exact hnothing k' hk'
  refine inv_move hi (by rw [hp]; trivial)
    ⟨hvalid, happlied, ⟨id, eventId, occurredAt, rfl⟩, .inl ⟨rfl, id, by simp, by simp, honly⟩⟩
    (by simp)
    (by simp [hp, Attempt.job?]) (Table.sameExcept_refl _ _) (Table.sameExcept_write (.inl hholder))
    hi.keyed rfl ⟨?_, ?_, hi.outbox.first, hi.outbox.logged⟩
  · -- the unique constraint: the new row is the only one of its task
    intro k k' row row' hv hv' htask
    rcases Table.version_write hv with hold | ⟨hk, hrow⟩
    · rcases Table.version_write hv' with hold' | ⟨hk', hrow'⟩
      · exact hi.outbox.unique k k' row row' hold hold' htask
      · exact absurd (htask.trans (by rw [hrow']; rfl)) (hno k row hold).1
    · rcases Table.version_write hv' with hold' | ⟨hk', hrow'⟩
      · exact absurd (htask.symm.trans (by rw [hrow]; rfl)) (hno k' row' hold').1
      · rw [hk, hk']
  · intro k a' hk
    by_cases hne : k = id
    · rw [hne]
      exact hid
    · rw [Table.holder_write_of_ne hne] at hk
      exact hi.outbox.held k a' hk

/-- The outbox after a commit: the own row is the first one of its task, a row that was found
stays what it was. -/
theorem outboxInv_commit {outbox : Table τ Uuid CompletionRow} {log : List (Committed τ)}
    (h : OutboxInv outbox log) {job : Job} {effect : Effect} {built stored : CompletionMessage}
    (hbuilt : BuiltFor job effect built) (hr : Recorded outbox a job built stored) :
    OutboxInv (outbox.commit a) (log ++ [⟨a, job, effect, built, stored⟩]) := by
  have htask : built.taskId = job.taskId := by
    obtain ⟨_, _, _, rfl⟩ := hbuilt
    rfl
  have hkeep : ∀ k row, outbox.committed k = some row →
      (outbox.commit a).committed k = some row := by
    intro k row hrow
    have hne : outbox.holder k ≠ some a := by
      intro hk
      rw [h.held k a hk] at hrow
      cases hrow
    rw [Table.committed_commit, Table.view_of_not_holder hne, hrow]
  refine ⟨?_, ?_, ?_, ?_⟩
  · intro k k' row row' hv hv'
    exact h.unique k k' row row' (Table.version_commit hv) (Table.version_commit hv')
  · intro k a' hk
    obtain ⟨hk, hne⟩ := Table.holder_rollback_eq_some.mp hk
    have hother : outbox.holder k ≠ some a := by
      rw [hk]
      simpa using hne
    rw [Table.committed_commit, Table.view_of_not_holder hother, h.held k a' hk]
  · intro k row hrow
    rw [Table.committed_commit] at hrow
    by_cases hk : outbox.holder k = some a
    · rcases hr with ⟨-, k₀, hk₀, hpending, honly⟩ | ⟨hn, -⟩
      · -- no attempt of the task has committed before this one
        have hkk : k = k₀ := honly k hk
        subst hkk
        rw [Table.view_of_holder hk, hpending] at hrow
        cases hrow
        have hnew : ∀ c ∈ log, c.job.taskId ≠ job.taskId := by
          intro c hc heq
          obtain ⟨htask', k', row', hrow', hstored⟩ := h.logged c hc
          have hsame : k = k' := by
            refine h.unique k k' _ row' (.inr ⟨⟨a, hk⟩, hpending⟩) (.inl hrow') ?_
            rw [hstored, htask', heq]
            exact htask
          rw [← hsame, h.held k a hk] at hrow'
          cases hrow'
        exact ⟨_, firstFor_append_of_new (by simpa [CompletionRow.new, htask] using hnew)
          htask.symm, rfl⟩
      · exact absurd hk (hn k)
    · rw [Table.view_of_not_holder hk] at hrow
      obtain ⟨c, hc, hmessage⟩ := h.first k row hrow
      exact ⟨c, firstFor_append_of_some hc, hmessage⟩
  · intro c hc
    rw [List.mem_append, List.mem_singleton] at hc
    rcases hc with hc | rfl
    · obtain ⟨htask', k, row, hrow, hstored⟩ := h.logged c hc
      exact ⟨htask', k, row, hkeep k row hrow, hstored⟩
    · rcases hr with ⟨rfl, k, hk, hpending, -⟩ | ⟨-, htask', k, row, hrow, hstored⟩
      · exact ⟨htask, k, _, by rw [Table.committed_commit, Table.view_of_holder hk, hpending], rfl⟩
      · exact ⟨htask', k, row, hkeep k row hrow, hstored⟩

theorem inv_commit (hi : s.Inv) {job : Job} {effect : Effect} {built stored : CompletionMessage}
    (hp : s.attempts a = .recorded job effect built stored) :
    Inv (advance { s with
      incidents := s.incidents.commit a
      outbox := s.outbox.commit a
      log := s.log ++ [⟨a, job, effect, built, stored⟩] } a (.committed job effect)) := by
  have hx := hi.attempts a
  rw [hp] at hx
  obtain ⟨hvalid, happlied, hbuilt, hrecorded⟩ := hx
  -- an attempt commits once
  have hne : ∀ c ∈ s.log, c.attempt ≠ a := by
    intro c hc heq
    have hcommitted := (hi.log c hc).1
    rw [heq, hp] at hcommitted
    cases hcommitted
  refine ⟨fun a' => ?_, fun i => ?_, ?_, outboxInv_commit hi.outbox hbuilt hrecorded,
    fun c hc => ?_, fun k item hitem hs => ?_⟩
  · by_cases h : a' = a
    · subst h
      simp only [advance, Function.update_self]
      exact ⟨⟨Table.holdsNothing_commit, Table.holdsNothing_commit⟩,
        ⟨a', job, effect, built, stored⟩, by simp, rfl, rfl, rfl⟩
    · simp only [advance, Function.update_of_ne h]
      refine (hi.attempts a').frame (Table.sameExcept_commit _ _ a' h)
        (Table.sameExcept_commit _ _ a' h) ?_ fun c hc => by simp [hc]
      intro k row hrow
      refine ⟨row, ?_, rfl⟩
      have hk : s.outbox.holder k ≠ some a := by
        intro hk
        rw [hi.outbox.held k a hk] at hrow
        cases hrow
      show s.outbox.view a k = some row
      rw [Table.view_of_not_holder hk, hrow]
  · have hr := hi.reconcilers i
    show ReconcilerInv _ (s.reconcilers i)
    cases hri : s.reconcilers i with
    | processing execution a' =>
      rw [hri] at hr
      by_cases h : a' = a
      · subst h
        refine ⟨by simp [advance], fun job' hj => ?_⟩
        simp only [advance, Function.update_self] at hj
        exact hr.2 job' (by simpa [hp, Attempt.job?] using hj)
      · simpa [ReconcilerInv, advance, Function.update_of_ne h] using hr
    | idle => trivial
    | claimed execution => trivial
    | finished execution outcome =>
      rw [hri] at hr
      cases outcome with
      | ok result =>
        obtain ⟨c, hc, he⟩ := hr
        exact ⟨c, by simp [advance, hc], he⟩
      | error e => trivial
  · intro k incident hv
    exact hi.keyed k incident (Table.version_commit hv)
  · simp only [advance, List.mem_append, List.mem_singleton] at hc
    rcases hc with hc | rfl
    · obtain ⟨hcommit, hrest⟩ := hi.log c hc
      exact ⟨by simpa [advance, Function.update_of_ne (hne c hc)] using hcommit, hrest⟩
    · exact ⟨by simp [advance], hvalid, happlied, hbuilt⟩
  · obtain ⟨c, hc, htask⟩ := hi.executions k item hitem hs
    exact ⟨c, by simp [advance, hc], htask⟩

end Attempts

/-! ## The steps of reconcilers and of everybody else -/

theorem inv_become [DecidableEq ι] (hi : s.Inv) {i : ι} {r : Reconciler τ}
    (hr : ReconcilerInv s r) : (s.become i r).Inv := by
  refine ⟨fun a => ?_, fun j => ?_, hi.keyed, hi.outbox, hi.log, hi.executions⟩
  · exact (hi.attempts a).frame (Table.sameFor_refl a _) (Table.sameFor_refl a _)
      (fun k row hrow => ⟨row, hrow, rfl⟩) fun c hc => hc
  · by_cases h : j = i
    · subst h
      simp only [become, Function.update_self]
      exact hr.frame rfl rfl
    · simp only [become, Function.update_of_ne h]
      exact (hi.reconcilers j).frame rfl rfl

/-- A change of the execution table that makes no task SUCCEEDED but one that has committed. -/
theorem inv_executions (hi : s.Inv) {executions' : Execution.Table}
    (h : ∀ k item, executions' k = some item → item.status = .succeeded →
      s.executions k = some item ∨ ∃ c ∈ s.log, c.job.execution.taskId = k) :
    Inv { s with executions := executions' } := by
  refine ⟨fun a => ?_, fun j => ?_, hi.keyed, hi.outbox, hi.log, fun k item hitem hs => ?_⟩
  · exact (hi.attempts a).frame (Table.sameFor_refl a _) (Table.sameFor_refl a _)
      (fun k row hrow => ⟨row, hrow, rfl⟩) fun c hc => hc
  · exact (hi.reconcilers j).frame rfl rfl
  · rcases h k item hitem hs with hold | hc
    · exact hi.executions k item hold hs
    · exact hc

theorem inv_put (hi : s.Inv) {task : Execution.Task} {incidentId acceptedAt : String}
    {expiration : ℤ} :
    Inv { s with
      executions := (Execution.putExecution s.executions task incidentId acceptedAt
        expiration).getD s.executions } := by
  refine inv_executions hi fun k item hitem hs => ?_
  cases h : Execution.putExecution s.executions task incidentId acceptedAt expiration with
  | none => exact .inl (by simpa [h] using hitem)
  | some table' =>
    rw [h, Option.getD_some] at hitem
    obtain ⟨-, rfl⟩ := ConditionalStore.putIfAbsent_eq_some.mp h
    by_cases hk : k = task.taskId
    · subst hk
      simp only [Function.update_self, Option.some.injEq] at hitem
      rw [← hitem] at hs
      cases hs
    · exact .inl (by simpa [Function.update_of_ne hk] using hitem)

theorem inv_claim (hi : s.Inv) {taskId : String} {draw : Execution.ClaimDraw}
    {item : Execution.Item} {executions' : Execution.Table}
    (h : Execution.claim s.executions taskId draw = some (item, executions')) :
    Inv { s with executions := executions' } := by
  refine inv_executions hi fun k item' hitem hs => ?_
  obtain ⟨old, -, -, rfl, rfl⟩ := Execution.claim_eq_some.mp h
  by_cases hk : k = taskId
  · subst hk
    simp only [Function.update_self, Option.some.injEq] at hitem
    rw [← hitem] at hs
    cases hs
  · exact .inl (by simpa [Function.update_of_ne hk] using hitem)

/-- A mark leaves every record alone or finishes the one of its own execution. -/
theorem mark_item {executions : Execution.Table} {execution : Execution.IncidentTaskExecution}
    {m : Execution.Mark} {now k : String} {item : Execution.Item}
    (h : (Execution.mark executions execution m now).toOption.getD executions k = some item) :
    executions k = some item ∨ (k = execution.taskId ∧ ∃ old, item = m.apply now old) := by
  cases hm : Execution.mark executions execution m now with
  | error e => exact .inl (by simpa [hm, Except.toOption] using h)
  | ok table' =>
    obtain ⟨_, old, -, -, -, rfl⟩ := Execution.mark_eq_ok.mp hm
    simp only [hm, Except.toOption, Option.getD_some] at h
    by_cases hk : k = execution.taskId
    · subst hk
      simp only [Function.update_self, Option.some.injEq] at h
      exact .inr ⟨rfl, old, h.symm⟩
    · exact .inl (by simpa [Function.update_of_ne hk] using h)

theorem inv_mark (hi : s.Inv) {execution : Execution.IncidentTaskExecution} {now : String}
    {outcome : Except ProcessorError IncidentProcessingResult}
    (hr : ReconcilerInv s (.finished execution outcome)) :
    Inv { s with executions := marked s.executions execution now outcome } := by
  refine inv_executions hi fun k item hitem hs => ?_
  cases outcome with
  | ok result =>
    rcases mark_item hitem with hold | ⟨rfl, -⟩
    · exact .inl hold
    · obtain ⟨c, hc, he⟩ := hr
      exact .inr ⟨c, hc, by rw [he]⟩
  | error e =>
    cases e with
    | other message => exact .inl hitem
    | incidentNotFound message =>
      rcases mark_item hitem with hold | ⟨-, old, rfl⟩
      · exact .inl hold
      · cases hs
    | retryable message =>
      rcases mark_item hitem with hold | ⟨-, old, rfl⟩
      · exact .inl hold
      · cases hs

theorem inv_edit (hi : s.Inv) {k : Uuid} {row : Option Incident}
    (hrow : ∀ incident ∈ row, incident.id = k) :
    Inv { s with
      incidents :=
        { s.incidents with committed := Function.update s.incidents.committed k row } } := by
  refine ⟨fun a => ?_, ?_, ?_, hi.outbox, hi.log, hi.executions⟩
  · exact (hi.attempts a).frame ⟨fun _ => Iff.rfl, fun _ _ => rfl⟩ (Table.sameFor_refl a _)
      (fun k row hrow => ⟨row, hrow, rfl⟩) fun c hc => hc
  · exact fun j => (hi.reconcilers j).frame rfl rfl
  · intro k' incident hv
    rcases hv with hv | hv
    · by_cases hk : k' = k
      · subst hk
        exact hrow incident (by simpa using hv)
      · exact hi.keyed k' incident (.inl (by simpa [Function.update_of_ne hk] using hv))
    · exact hi.keyed k' incident (.inr hv)

theorem inv_relay (hi : s.Inv) {k : Uuid} {row row' : CompletionRow}
    (hholder : s.outbox.holder k = none) (hrow : s.outbox.committed k = some row)
    (hmessage : row'.message = row.message) :
    Inv { s with
      outbox :=
        { s.outbox with committed := Function.update s.outbox.committed k (some row') } } := by
  -- every version of the new table has the message of a version of the old one
  have hversion : ∀ k₁ row₁, Table.Version
      { s.outbox with committed := Function.update s.outbox.committed k (some row') } k₁ row₁ →
      ∃ old, s.outbox.Version k₁ old ∧ row₁.message = old.message := by
    intro k₁ row₁ hv
    rcases hv with hv | hv
    · by_cases hk : k₁ = k
      · subst hk
        simp only [Function.update_self, Option.some.injEq] at hv
        exact ⟨row, .inl hrow, by rw [← hv, hmessage]⟩
      · exact ⟨row₁, .inl (by simpa [Function.update_of_ne hk] using hv), rfl⟩
    · exact ⟨row₁, .inr hv, rfl⟩
  have hkeep : ∀ k₁ old, s.outbox.committed k₁ = some old →
      ∃ new, Function.update s.outbox.committed k (some row') k₁ = some new ∧
        new.message = old.message := by
    intro k₁ old hold
    by_cases hk : k₁ = k
    · subst hk
      rw [hrow] at hold
      cases hold
      exact ⟨row', by simp, hmessage⟩
    · exact ⟨old, by simpa [Function.update_of_ne hk] using hold, rfl⟩
  refine ⟨fun a => ?_, ?_, hi.keyed, ⟨?_, ?_, ?_, ?_⟩, hi.log, hi.executions⟩
  · exact (hi.attempts a).frame (Table.sameFor_refl a _) ⟨fun _ => Iff.rfl, fun _ _ => rfl⟩ hkeep
      fun c hc => hc
  · exact fun j => (hi.reconcilers j).frame rfl rfl
  · intro k₁ k₂ row₁ row₂ hv₁ hv₂ htask
    obtain ⟨old₁, hold₁, hm₁⟩ := hversion k₁ row₁ hv₁
    obtain ⟨old₂, hold₂, hm₂⟩ := hversion k₂ row₂ hv₂
    exact hi.outbox.unique k₁ k₂ old₁ old₂ hold₁ hold₂ (by rw [← hm₁, ← hm₂, htask])
  · intro k₁ a hk₁
    have hne : k₁ ≠ k := by
      rintro rfl
      rw [hholder] at hk₁
      cases hk₁
    simpa [Function.update_of_ne hne] using hi.outbox.held k₁ a hk₁
  · intro k₁ row₁ hrow₁
    by_cases hk : k₁ = k
    · subst hk
      simp only [Function.update_self, Option.some.injEq] at hrow₁
      rw [← hrow₁, hmessage]
      exact hi.outbox.first k₁ row hrow
    · exact hi.outbox.first k₁ row₁ (by simpa [Function.update_of_ne hk] using hrow₁)
  · intro c hc
    obtain ⟨htask, k₁, old, hold, hstored⟩ := hi.outbox.logged c hc
    obtain ⟨new, hnew, hm⟩ := hkeep k₁ old hold
    exact ⟨htask, k₁, new, hnew, by rw [hm, hstored]⟩

theorem inv_begin [DecidableEq τ] [DecidableEq ι] (hi : s.Inv) {i : ι}
    {execution : Execution.IncidentTaskExecution} {taskId : Uuid} (hidle : s.attempts a = .idle)
    (hparse : Uuid.parse? execution.taskId = some taskId) :
    Inv ((s.advance a (.started ⟨execution, taskId⟩)).become i (.processing execution a)) := by
  have hx := hi.attempts a
  rw [hidle] at hx
  have hunused : ∀ c ∈ s.log, c.attempt ≠ a := by
    intro c hc heq
    have hcommitted := (hi.log c hc).1
    rw [heq, hidle] at hcommitted
    cases hcommitted
  have hstarted : Inv (s.advance a (.started ⟨execution, taskId⟩)) := by
    refine ⟨fun a' => ?_, fun j => ?_, hi.keyed, hi.outbox, fun c hc => ?_, hi.executions⟩
    · by_cases h : a' = a
      · subst h
        simp only [advance, Function.update_self]
        exact ⟨hx, hparse⟩
      · simp only [advance, Function.update_of_ne h]
        exact (hi.attempts a').frame (Table.sameFor_refl a' _) (Table.sameFor_refl a' _)
          (fun k row hrow => ⟨row, hrow, rfl⟩) fun c hc => hc
    · have hr := hi.reconcilers j
      show ReconcilerInv _ (s.reconcilers j)
      cases hrj : s.reconcilers j with
      | processing execution' a' =>
        rw [hrj] at hr
        have hne : a' ≠ a := by
          rintro rfl
          exact hr.1 hidle
        simpa [ReconcilerInv, advance, Function.update_of_ne hne] using hr
      | idle => trivial
      | claimed execution => trivial
      | finished execution outcome =>
        rw [hrj] at hr
        cases outcome <;> exact hr
    · obtain ⟨hcommit, hrest⟩ := hi.log c hc
      exact ⟨by simpa [advance, Function.update_of_ne (hunused c hc)] using hcommit, hrest⟩
  refine inv_become hstarted ⟨by simp [advance], fun job hj => ?_⟩
  simp only [advance, Function.update_self, Attempt.job?, Option.some.injEq] at hj
  rw [← hj]

theorem inv_step [DecidableEq τ] [DecidableEq ι] {l : ReconcileLabel τ ι} (hi : s.Inv)
    (h : ReconcileStep s l s') : s'.Inv := by
  cases h with
  | put => exact inv_put hi
  | notClaimed => exact hi
  | claim hidle hclaim =>
    refine inv_become (inv_claim hi hclaim) ?_
    split <;> trivial
  | begin hclaimed hidle hparse => exact inv_begin hi hidle hparse
  | beginInvalid hclaimed hidle hparse => exact inv_become hi trivial
  | readMissing hp hview => exact inv_raise hi (by rw [hp]; trivial) _
  | @read a job existing c₁ c₂ hp hview =>
    have hx := hi.attempts a
    rw [hp] at hx
    obtain ⟨hnothing, hvalid⟩ := hx
    have hid : existing.id = job.execution.incidentId :=
      hi.keyed _ existing (Table.version_of_view hview)
    cases hc : Pass.process.compute existing c₁ c₂ with
    | none =>
      exact inv_advance hi (by rw [hp]; trivial) ⟨hnothing.2, hvalid, hid, c₁, c₂, hc.symm⟩
        (by simp) (by simp [hp, Attempt.job?])
    | some updated =>
      exact inv_advance hi (by rw [hp]; trivial) ⟨hnothing, hvalid, hid, c₁, c₂, hc.symm⟩
        (by simp) (by simp [hp, Attempt.job?])
  | selectMissing hp hview => exact inv_raise hi (by rw [hp]; trivial) _
  | @select a job existing updated model hp hview =>
    have hx := hi.attempts a
    rw [hp] at hx
    exact inv_advance hi (by rw [hp]; trivial) hx (by simp) (by simp [hp, Attempt.job?])
  | @skip a job existing updated model hp hnothing =>
    have hx := hi.attempts a
    rw [hp] at hx
    exact inv_advance hi (by rw [hp]; trivial) ⟨hx.1.2, hx.2⟩ (by simp) (by simp [hp, Attempt.job?])
  | writeMissing hp => exact inv_raise hi (by rw [hp]; trivial) _
  | write hp hsome hfree hlatest => exact inv_write hi hp hfree hlatest
  | insert hp hid hholder hno => exact inv_insert hi hp hid hholder hno
  | @conflict a job effect id eventId k occurredAt row hp hrow htask =>
    have hx := hi.attempts a
    rw [hp] at hx
    obtain ⟨hnothing, hvalid, happlied⟩ := hx
    exact inv_advance hi (by rw [hp]; trivial)
      ⟨hnothing, hvalid, happlied, id, eventId, occurredAt, rfl⟩ (by simp)
      (by simp [hp, Attempt.job?])
  | loadMissing hp => exact inv_raise hi (by rw [hp]; trivial) _
  | collision hp => exact inv_raise hi (by rw [hp]; trivial) _
  | @load a job effect k built row hp hview htask =>
    have hx := hi.attempts a
    rw [hp] at hx
    obtain ⟨hnothing, hvalid, happlied, hbuilt⟩ := hx
    -- the row that was in the way is committed, as the attempt holds none
    have htask' : row.message.taskId = job.taskId := by
      obtain ⟨_, _, _, rfl⟩ := hbuilt
      exact htask
    rw [Table.view_of_not_holder (hnothing k)] at hview
    exact inv_advance hi (by rw [hp]; trivial)
      ⟨hvalid, happlied, hbuilt, .inr ⟨hnothing, htask', k, row, hview, rfl⟩⟩ (by simp)
      (by simp [hp, Attempt.job?])
  | commit hp => exact inv_commit hi hp
  | fail hn => exact inv_raise hi hn _
  | @returned i a execution job effect hr hp =>
    -- the result that the reconciler gets is that of a committed attempt at its own execution
    have hri := hi.reconcilers i
    have hx := hi.attempts a
    rw [hr, ReconcilerInv, hp] at hri
    rw [hp] at hx
    obtain ⟨-, c, hc, -, hjob, -⟩ := hx
    exact inv_become hi ⟨c, hc, by rw [hjob, hri.2 job rfl]⟩
  | raised hr hp => exact inv_become hi trivial
  | @mark i execution now outcome hr =>
    have hri := hi.reconcilers i
    rw [hr] at hri
    exact inv_become (inv_mark hi hri) trivial
  | crash => exact inv_become hi trivial
  | edit hholder hrow => exact inv_edit hi hrow
  | relay hholder hrow hmessage => exact inv_relay hi hholder hrow hmessage

theorem inv_start (incidents : Uuid → Option Incident) :
    (start incidents : Reconciliation τ ι).Inv := by
  refine ⟨fun a => ⟨fun k => ?_, fun k => ?_⟩, fun i => trivial, fun k incident hv => ?_,
    ⟨?_, ?_, ?_, ?_⟩, ?_, ?_⟩
  · simp [start, Table.of]
  · simp [start, Table.of]
  · rcases hv with hv | ⟨⟨t, ht⟩, -⟩
    · obtain ⟨_, -, rfl⟩ := Option.map_eq_some_iff.mp hv
      rfl
    · cases ht
  · intro k k' row row' hv
    rcases hv with hv | ⟨⟨t, ht⟩, -⟩
    · cases hv
    · cases ht
  · intro k a hk
    cases hk
  · intro k row hrow
    cases hrow
  all_goals simp [start]

end Reconciliation

end OpsFlow.Incidents
