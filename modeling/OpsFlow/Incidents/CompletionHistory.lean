import OpsFlow.Incidents.CompletionInv

namespace OpsFlow.Incidents
open Transition RowStore

/-! ## What an UPDATE makes of a row -/

inductive IncidentColumn
  | serviceId
  | title
  | severity
  | status
  | summary
  | assignee
  | source
  | customerImpacting
  | acknowledgedAt
  | reportedByEmail
  | startedAt
  | resolvedAt
  | createdAt
  | updatedAt

abbrev IncidentColumn.Value : IncidentColumn → Type
  | .title | .summary | .assignee | .source => String
  | .serviceId => Uuid
  | .severity => IncidentSeverity
  | .status => IncidentStatus
  | .customerImpacting => Bool
  | .reportedByEmail => Option String
  | .startedAt | .createdAt | .updatedAt => Timestamp
  | .acknowledgedAt | .resolvedAt => Option Timestamp

def Incident.column (i : Incident) : (c : IncidentColumn) → c.Value
  | .serviceId => i.serviceId
  | .title => i.title
  | .severity => i.severity
  | .status => i.status
  | .summary => i.summary
  | .assignee => i.assignee
  | .source => i.source
  | .customerImpacting => i.customerImpacting
  | .acknowledgedAt => i.acknowledgedAt
  | .reportedByEmail => i.reportedByEmail
  | .startedAt => i.startedAt
  | .resolvedAt => i.resolvedAt
  | .createdAt => i.createdAt
  | .updatedAt => i.updatedAt

/-- The columns in which `updated` differs from the row that was selected get its values, and the
others keep theirs; where there is no such column, any row stays as it is. -/
inductive Updated (selected updated : Incident) : Option Incident → Option Incident → Prop
  | nothing (row : Option Incident) :
      (∀ c, updated.column c = selected.column c) → Updated selected updated row row
  | columns {before after : Incident} :
      after.id = before.id →
      (∀ c, updated.column c ≠ selected.column c → after.column c = updated.column c) →
      (∀ c, updated.column c = selected.column c → after.column c = before.column c) →
      Updated selected updated (some before) (some after)

theorem column_flushed {selected updated latest : Incident} (c : IncidentColumn) :
    (updated.column c ≠ selected.column c →
      (flushed selected updated latest).column c = updated.column c) ∧
    (updated.column c = selected.column c →
      (flushed selected updated latest).column c = latest.column c) := by
  cases c
  all_goals exact ⟨fun h => if_neg h, fun h => if_pos h⟩

theorem updated_flushed (selected updated latest : Incident) :
    Updated selected updated (some latest) (some (flushed selected updated latest)) :=
  .columns rfl (fun c => (column_flushed c).1) fun c => (column_flushed c).2

theorem updated_of_flushesNothing {selected updated : Incident}
    (h : flushesNothing selected updated = true) (row : Option Incident) :
    Updated selected updated row row := by
  refine .nothing row fun c => ?_
  rw [← of_decide_eq_true h]
  cases c
  all_goals rfl

/-! ## Where a committed attempt comes from -/

namespace Reconciliation

section History
variable {τ ι : Type} [DecidableEq τ] [DecidableEq ι] {incidents : Uuid → Option Incident}
  {ls : List (ReconcileLabel τ ι)} {l : ReconcileLabel τ ι} {s s' : Reconciliation τ ι} {a : τ}
  {x : Attempt} {effect : Effect} {id : Uuid} {before after : Option Incident}

def Reads (a : τ) (id : Uuid) (existing : Incident) (s : Reconciliation τ ι)
    (l : ReconcileLabel τ ι) (_ : Reconciliation τ ι) : Prop :=
  (∃ c₁ c₂, l = .read a c₁ c₂) ∧ s.incidents.committed id = some existing

def Selects (a : τ) (id : Uuid) (model : Incident) (s : Reconciliation τ ι)
    (l : ReconcileLabel τ ι) (_ : Reconciliation τ ι) : Prop :=
  l = .select a ∧ s.incidents.committed id = some model

/-- What the attempt makes of the row of its incident: nothing where processing changes nothing, or
else what an UPDATE makes of it after the attempt has selected the row. -/
def Changes (incidents : Uuid → Option Incident) (ls : List (ReconcileLabel τ ι))
    (s : Reconciliation τ ι) (a : τ) (effect : Effect) (before after : Option Incident) : Prop :=
  match effect.written with
  | none => after = before
  | some updated => ∃ model, Updated model updated before after ∧
      Passed ReconcileStep (Selects a updated.id model) (start incidents) ls s

/-- The step commits the attempt: its completion row is there, `change` has befallen the row of its
incident, and no other one has changed. -/
structure Commits (c : Committed τ) (change : Option Incident → Option Incident → Prop)
    (s : Reconciliation τ ι) (l : ReconcileLabel τ ι) (s' : Reconciliation τ ι) : Prop where
  label : l = .commit c.attempt
  completion : ∃ k row, s'.outbox.committed k = some row ∧ row.message = c.stored
  incident : change (s.incidents.committed c.job.execution.incidentId)
    (s'.incidents.committed c.job.execution.incidentId)
  others : ∀ k, k ≠ c.job.execution.incidentId →
    s'.incidents.committed k = s.incidents.committed k

/-- The run has a step in which the attempt read the committed row that processing has started from,
and one in which it committed what processing has made of it. -/
structure Happened (incidents : Uuid → Option Incident) (ls : List (ReconcileLabel τ ι))
    (s : Reconciliation τ ι) (c : Committed τ) : Prop where
  read : Passed ReconcileStep (Reads c.attempt c.job.execution.incidentId c.effect.existing)
    (start incidents) ls s
  commit : Passed ReconcileStep (Commits c (Changes incidents ls s c.attempt c.effect))
    (start incidents) ls s

/-- The attempt holds no row, and no row need change, or it holds the changed row of
its incident. -/
def Pending (s : Reconciliation τ ι) (a : τ) (id : Uuid)
    (change : Option Incident → Option Incident → Prop) : Prop :=
  (s.incidents.HoldsNothing a ∧ ∀ row, change row row) ∨
    (s.incidents.HoldsOnly a id ∧ change (s.incidents.committed id) (s.incidents.pending id))

def AttemptPast (incidents : Uuid → Option Incident) (ls : List (ReconcileLabel τ ι))
    (s : Reconciliation τ ι) (a : τ) : Attempt → Prop
  | .computed job existing _ =>
    Passed ReconcileStep (Reads a job.execution.incidentId existing) (start incidents) ls s
  | .selected job existing updated model =>
    Passed ReconcileStep (Reads a job.execution.incidentId existing) (start incidents) ls s ∧
      Passed ReconcileStep (Selects a updated.id model) (start incidents) ls s
  | .processed job effect | .conflicted job effect _ | .recorded job effect _ _ =>
    Passed ReconcileStep (Reads a job.execution.incidentId effect.existing) (start incidents) ls s ∧
      Pending s a job.execution.incidentId (Changes incidents ls s a effect)
  | _ => True

structure Past (incidents : Uuid → Option Incident) (ls : List (ReconcileLabel τ ι))
    (s : Reconciliation τ ι) : Prop where
  attempts : ∀ a, AttemptPast incidents ls s a (s.attempts a)
  log : ∀ c ∈ s.log, Happened incidents ls s c

theorem Changes.snoc (h : Changes incidents ls s a effect before after)
    (hl : ReconcileStep s l s') :
    Changes incidents (ls ++ [l]) s' a effect before after := by
  unfold Changes at h ⊢
  split
  · next hnone =>
    rw [hnone] at h
    exact h
  · next updated hsome =>
    rw [hsome] at h
    obtain ⟨model, hupdated, hselected⟩ := h
    exact ⟨model, hupdated, hselected.snoc hl⟩

theorem Happened.snoc {c : Committed τ} (h : Happened incidents ls s c)
    (hl : ReconcileStep s l s') :
    Happened incidents (ls ++ [l]) s' c := by
  refine ⟨h.read.snoc hl, (h.commit.snoc hl).imp fun t b t' hcommits => ?_⟩
  exact ⟨hcommits.label, hcommits.completion, hcommits.incident.snoc hl, hcommits.others⟩

theorem Pending.frame (h : Pending s a id (Changes incidents ls s a effect))
    (hl : ReconcileStep s l s') (hu : Table.Undisturbed a s.incidents s'.incidents) :
    Pending s' a id (Changes incidents (ls ++ [l]) s' a effect) := by
  obtain ⟨hnothing, hchange⟩ | ⟨honly, hchange⟩ := h
  · exact .inl ⟨hu.holdsNothing hnothing, fun row => (hchange row).snoc hl⟩
  · refine .inr ⟨hu.holdsOnly honly, ?_⟩
    rw [hu.committed id honly.holder, hu.pending id honly.holder]
    exact hchange.snoc hl

/-- What the others do is not to be seen in the past of an attempt. -/
theorem AttemptPast.frame (h : AttemptPast incidents ls s a x) (hl : ReconcileStep s l s')
    (hu : Table.Undisturbed a s.incidents s'.incidents) :
    AttemptPast incidents (ls ++ [l]) s' a x := by
  cases x with
  | computed job existing updated => exact h.snoc hl
  | selected job existing updated model => exact ⟨h.1.snoc hl, h.2.snoc hl⟩
  | processed job effect => exact ⟨h.1.snoc hl, h.2.frame hl hu⟩
  | conflicted job effect built => exact ⟨h.1.snoc hl, h.2.frame hl hu⟩
  | recorded job effect built stored => exact ⟨h.1.snoc hl, h.2.frame hl hu⟩
  | _ => trivial

/-- No attempt moves. -/
theorem Past.keep (h : Past incidents ls s) (hl : ReconcileStep s l s')
    (hattempts : s'.attempts = s.attempts) (hlog : s'.log = s.log)
    (hu : ∀ a, Table.Undisturbed a s.incidents s'.incidents) : Past incidents (ls ++ [l]) s' := by
  refine ⟨fun a => ?_, fun c hc => ?_⟩
  · rw [hattempts]
    exact (h.attempts a).frame hl (hu a)
  · rw [hlog] at hc
    exact (h.log c hc).snoc hl

/-- One attempt moves. -/
theorem Past.move (h : Past incidents ls s) (hl : ReconcileStep s l s')
    (hattempts : s'.attempts = Function.update s.attempts a x) (hlog : s'.log = s.log)
    (hu : ∀ a', a' ≠ a → Table.Undisturbed a' s.incidents s'.incidents)
    (hx : AttemptPast incidents (ls ++ [l]) s' a x) : Past incidents (ls ++ [l]) s' := by
  refine ⟨fun a' => ?_, fun c hc => ?_⟩
  · rw [hattempts]
    by_cases ha : a' = a
    · subst ha
      rw [Function.update_self]
      exact hx
    · rw [Function.update_of_ne ha]
      exact (h.attempts a').frame hl (hu a' ha)
  · rw [hlog] at hc
    exact (h.log c hc).snoc hl

/-- One attempt moves, and has a past that it had before. -/
theorem Past.carry (h : Past incidents ls s) (hl : ReconcileStep s l s')
    (hattempts : s'.attempts = Function.update s.attempts a x) (hlog : s'.log = s.log)
    (hincidents : s'.incidents = s.incidents) (hx : AttemptPast incidents ls s a x) :
    Past incidents (ls ++ [l]) s' := by
  have hsame : ∀ a, Table.Undisturbed a s.incidents s'.incidents := by
    rw [hincidents]
    exact fun a => Table.undisturbed_refl a s.incidents
  exact h.move hl hattempts hlog (fun a _ => hsame a) (hx.frame hl (hsame a))

theorem Past.raise (h : Past incidents ls s) {error : ProcessorError}
    (hl : ReconcileStep s l (s.raise a error)) : Past incidents (ls ++ [l]) (s.raise a error) :=
  h.move hl rfl rfl (fun _ ha => Table.undisturbed_rollback ha) trivial

omit [DecidableEq ι] in
/-- The row that an attempt reads or selects is the committed one. -/
theorem committed_of_view (hnothing : s.incidents.HoldsNothing a) {row : Incident}
    (hview : s.incidents.view a id = some row) : s.incidents.committed id = some row := by
  rw [← hview, hnothing.view]

theorem Past.read (hrun : Run ReconcileStep (start incidents) ls s) (hi : s.Inv)
    (h : Past incidents ls s) {job : Job} {existing : Incident} {c₁ c₂ : Timestamp}
    (hp : s.attempts a = .started job)
    (hview : s.incidents.view a job.execution.incidentId = some existing) :
    Past incidents (ls ++ [.read a c₁ c₂]) (s.advance a
      (match Pass.process.compute existing c₁ c₂ with
        | some updated => .computed job existing updated
        | none => .processed job ⟨existing, none⟩)) := by
  have hl : ReconcileStep s (.read a c₁ c₂) _ := .read hp hview
  have hx := hi.attempts a
  rw [hp] at hx
  have hreads : Reads a job.execution.incidentId existing s (.read a c₁ c₂)
      (s.advance a (match Pass.process.compute existing c₁ c₂ with
        | some updated => .computed job existing updated
        | none => .processed job ⟨existing, none⟩)) :=
    ⟨⟨c₁, c₂, rfl⟩, committed_of_view hx.1.1 hview⟩
  have hpassed := Passed.last hrun hl hreads
  refine h.move hl rfl rfl (fun a' _ => Table.undisturbed_refl a' _) ?_
  cases hc : Pass.process.compute existing c₁ c₂ with
  | none =>
    rw [hc] at hpassed
    exact ⟨hpassed, .inl ⟨hx.1.1, fun row => rfl⟩⟩
  | some updated =>
    rw [hc] at hpassed
    exact hpassed

omit [DecidableEq ι] in
theorem committed_commit_of_pending {change : Option Incident → Option Incident → Prop}
    (h : Pending s a id change) :
    change (s.incidents.committed id) ((s.incidents.commit a).committed id) ∧
      ∀ k, k ≠ id → (s.incidents.commit a).committed k = s.incidents.committed k := by
  obtain ⟨hnothing, hchange⟩ | ⟨honly, hchange⟩ := h
  · rw [hnothing.clean.committed_commit]
    exact ⟨hchange _, fun _ _ => rfl⟩
  · rw [honly.committed_commit, Function.update_self]
    exact ⟨hchange, fun k hk => Function.update_of_ne hk ..⟩

theorem Past.select (hrun : Run ReconcileStep (start incidents) ls s) (hi : s.Inv)
    (h : Past incidents ls s) {job : Job} {existing updated model : Incident}
    (hp : s.attempts a = .computed job existing updated)
    (hview : s.incidents.view a updated.id = some model) :
    Past incidents (ls ++ [.select a]) (s.advance a (.selected job existing updated model)) := by
  have hl : ReconcileStep s (.select a) _ := .select hp hview
  have hx := hi.attempts a
  rw [hp] at hx
  have hread := h.attempts a
  rw [hp] at hread
  have hselects : Selects a updated.id model s (.select a)
      (s.advance a (.selected job existing updated model)) :=
    ⟨rfl, committed_of_view hx.1.1 hview⟩
  exact h.move hl rfl rfl (fun a' _ => Table.undisturbed_refl a' _)
    ⟨hread.snoc hl, .last hrun hl hselects⟩

theorem Past.skip (hi : s.Inv) (h : Past incidents ls s) {job : Job}
    {existing updated model : Incident} (hp : s.attempts a = .selected job existing updated model)
    (hnothing : flushesNothing model updated = true) :
    Past incidents (ls ++ [.write a]) (s.advance a (.processed job ⟨existing, some updated⟩)) := by
  have hl : ReconcileStep s (.write a) _ := .skip hp hnothing
  have hx := hi.attempts a
  rw [hp] at hx
  have hpast := h.attempts a
  rw [hp] at hpast
  refine h.move hl rfl rfl (fun a' _ => Table.undisturbed_refl a' _)
    ⟨hpast.1.snoc hl, .inl ⟨hx.1.1, ?_⟩⟩
  exact fun row => ⟨model, updated_of_flushesNothing hnothing row, hpast.2.snoc hl⟩

/-- The attempt holds the row that it has written, and no other one. -/
theorem Past.write (hi : s.Inv) (h : Past incidents ls s) {job : Job}
    {existing updated model latest : Incident}
    (hp : s.attempts a = .selected job existing updated model)
    (hsome : flushesNothing model updated = false) (hfree : s.incidents.Free a updated.id)
    (hlatest : s.incidents.view a updated.id = some latest) :
    Past incidents (ls ++ [.write a]) (Reconciliation.advance { s with
      incidents := s.incidents.write a updated.id (some (flushed model updated latest)) } a
      (.processed job ⟨existing, some updated⟩)) := by
  have hl : ReconcileStep s (.write a) _ := .write hp hsome hfree hlatest
  have hx := hi.attempts a
  rw [hp] at hx
  obtain ⟨⟨hnothing, -⟩, -, happlied⟩ := hx
  have hpast := h.attempts a
  rw [hp] at hpast
  refine h.move hl rfl rfl (fun a' ha => Table.undisturbed_write hfree ha)
    ⟨hpast.1.snoc hl, .inr ?_⟩
  rw [← happlied.id_written]
  refine ⟨hnothing.write, model, ?_, hpast.2.snoc hl⟩
  simp only [advance, Table.committed_write, Table.pending_write_self,
    committed_of_view hnothing hlatest]
  exact updated_flushed model updated latest

theorem Past.commit (hrun : Run ReconcileStep (start incidents) ls s) (hi : s.Inv)
    (h : Past incidents ls s) {job : Job} {built stored : CompletionMessage}
    (hp : s.attempts a = .recorded job effect built stored) :
    Past incidents (ls ++ [.commit a]) (Reconciliation.advance { s with
      incidents := s.incidents.commit a
      outbox := s.outbox.commit a
      log := s.log ++ [⟨a, job, effect, built, stored⟩] } a (.committed job effect)) := by
  have hl : ReconcileStep s (.commit a) _ := .commit hp
  have hpast := h.attempts a
  rw [hp] at hpast
  obtain ⟨hread, hpending⟩ := hpast
  obtain ⟨hchange, hothers⟩ := committed_commit_of_pending hpending
  obtain ⟨-, hcompletion⟩ := (inv_step hi hl).outbox.logged ⟨a, job, effect, built, stored⟩
    (List.mem_append_right _ (List.mem_singleton_self _))
  have hcommits : Commits ⟨a, job, effect, built, stored⟩
      (Changes incidents (ls ++ [.commit a]) _ a effect) s (.commit a) _ :=
    ⟨rfl, hcompletion, hchange.snoc hl, hothers⟩
  refine ⟨fun a' => ?_, fun c hc => ?_⟩
  · by_cases ha : a' = a
    · subst ha
      simp only [advance, Function.update_self]
      trivial
    · simp only [advance, Function.update_of_ne ha]
      exact (h.attempts a').frame hl (Table.undisturbed_commit ha)
  · obtain hc | hc := List.mem_append.mp hc
    · exact (h.log c hc).snoc hl
    · obtain rfl := List.mem_singleton.mp hc
      exact ⟨hread.snoc hl, .last hrun hl hcommits⟩

theorem past_start (incidents : Uuid → Option Incident) :
    Past incidents [] (start incidents : Reconciliation τ ι) :=
  ⟨fun _ => trivial, fun c hc => by cases hc⟩

theorem past_step (hrun : Run ReconcileStep (start incidents) ls s) (hi : s.Inv)
    (h : Past incidents ls s) (hl : ReconcileStep s l s') : Past incidents (ls ++ [l]) s' := by
  have hsame : ∀ a, Table.Undisturbed a s.incidents s.incidents :=
    fun a => Table.undisturbed_refl a s.incidents
  have hpast {a : τ} {x : Attempt} (hp : s.attempts a = x) : AttemptPast incidents ls s a x :=
    hp ▸ h.attempts a
  cases hl with
  | begin hclaimed hidle hparse =>
    exact h.move (.begin hclaimed hidle hparse) rfl rfl (fun a _ => hsame a) trivial
  | readMissing hp hview => exact h.raise (.readMissing hp hview)
  | read hp hview => exact h.read hrun hi hp hview
  | selectMissing hp hview => exact h.raise (.selectMissing hp hview)
  | select hp hview => exact h.select hrun hi hp hview
  | skip hp hnothing => exact h.skip hi hp hnothing
  | writeMissing hp hsome hfree hview => exact h.raise (.writeMissing hp hsome hfree hview)
  | write hp hsome hfree hlatest => exact h.write hi hp hsome hfree hlatest
  | insert hp hid hholder hno =>
    have hx := hpast hp
    exact h.carry (.insert hp hid hholder hno) rfl rfl rfl hx
  | conflict hp hrow htask =>
    have hx := hpast hp
    exact h.carry (.conflict hp hrow htask) rfl rfl rfl hx
  | loadMissing hp hno => exact h.raise (.loadMissing hp hno)
  | collision hp hview htask hother => exact h.raise (.collision hp hview htask hother)
  | load hp hview htask hincident hcorrelation =>
    have hx := hpast hp
    exact h.carry (.load hp hview htask hincident hcorrelation) rfl rfl rfl hx
  | commit hp => exact h.commit hrun hi hp
  | fail hn => exact h.raise (.fail hn)
  | @edit k row hholder hrow =>
    refine h.keep (.edit hholder hrow) rfl rfl fun a => ⟨⟨fun _ => Iff.rfl, fun _ _ => rfl⟩, ?_⟩
    -- a row that somebody holds is not edited
    intro k' hk'
    refine Function.update_of_ne ?_ ..
    rintro rfl
    rw [hholder] at hk'
    contradiction
  | put => exact h.keep .put rfl rfl hsame
  | notClaimed hidle hnone => exact h.keep (.notClaimed hidle hnone) rfl rfl hsame
  | claim hidle hclaim => exact h.keep (.claim hidle hclaim) rfl rfl hsame
  | beginInvalid hclaimed hidle hparse =>
    exact h.keep (.beginInvalid hclaimed hidle hparse) rfl rfl hsame
  | returned hr hp => exact h.keep (.returned hr hp) rfl rfl hsame
  | raised hr hp => exact h.keep (.raised hr hp) rfl rfl hsame
  | mark hr => exact h.keep (.mark hr) rfl rfl hsame
  | crash => exact h.keep .crash rfl rfl hsame
  | relay hholder hrow hmessage => exact h.keep (.relay hholder hrow hmessage) rfl rfl hsame

theorem past_run (h : Run ReconcileStep (start incidents) ls s) : s.Inv ∧ Past incidents ls s := by
  induction h with
  | nil => exact ⟨inv_start incidents, past_start incidents⟩
  | snoc hrun hl ih =>
    obtain ⟨hi, hpast⟩ := ih
    exact ⟨inv_step hi hl, past_step hrun hi hpast hl⟩

end History

end Reconciliation

end OpsFlow.Incidents
