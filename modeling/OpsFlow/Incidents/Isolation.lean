import OpsFlow.Library.Transition
import OpsFlow.Library.RowStore
import OpsFlow.Incidents.Domain

namespace OpsFlow.Incidents
open Transition RowStore

/-! ## Transactions on one incident -/

inductive Pass
  | patch (payload : IncidentUpdate)
  | process

/-- What the pass writes back after it has read `existing`, if it writes at all; `c₁` and `c₂` are
its clock readings. -/
def Pass.compute (existing : Incident) (c₁ c₂ : Timestamp) : Pass → Option Incident
  | .patch payload => some (updatedIncident existing payload c₁ c₂)
  | .process =>
    if processingChanges existing c₁ then some (processedIncident existing c₁ c₂) else none

inductive Progress
  | idle
  | computed (pass : Pass) (existing updated : Incident)
  | unchanged (pass : Pass) (existing : Incident)
  | selected (pass : Pass) (existing updated model : Incident)
  | written (pass : Pass) (existing updated : Incident)
  | ended

structure Commit where
  pass : Pass
  before : Incident
  after : Incident

structure State (τ : Type) where
  incidents : Table τ Uuid Incident
  progress : τ → Progress
  history : List Commit

inductive Label (τ : Type)
  | read (t : τ) (pass : Pass) (c₁ c₂ : Timestamp)
  | select (t : τ)
  | write (t : τ)
  | commit (t : τ)
  | abort (t : τ)

variable {τ : Type} [DecidableEq τ]

def State.advance (s : State τ) (t : τ) (p : Progress) : State τ :=
  { s with progress := Function.update s.progress t p }

def Progress.finished (pass : Pass) : Progress → Prop
  | .unchanged p _ => p = pass
  | .written p _ _ => p = pass
  | _ => False

/-- One statement, commit or abort of one transaction on row `id`. -/
inductive Step (id : Uuid) : State τ → Label τ → State τ → Prop
  | read {s : State τ} {t : τ} {pass : Pass} {c₁ c₂ : Timestamp} {existing : Incident} :
      s.progress t = .idle → s.incidents.view t id = some existing →
      Step id s (.read t pass c₁ c₂) (s.advance t <|
        match pass.compute existing c₁ c₂ with
        | some updated => .computed pass existing updated
        | none => .unchanged pass existing)
  | select {s : State τ} {t : τ} {pass : Pass} {existing updated model : Incident} :
      s.progress t = .computed pass existing updated → s.incidents.view t id = some model →
      Step id s (.select t) (s.advance t (.selected pass existing updated model))
  | skip {s : State τ} {t : τ} {pass : Pass} {existing updated model : Incident} :
      s.progress t = .selected pass existing updated model → flushesNothing model updated = true →
      Step id s (.write t) (s.advance t (.written pass existing updated))
  | write {s : State τ} {t : τ} {pass : Pass} {existing updated model latest : Incident} :
      s.progress t = .selected pass existing updated model → flushesNothing model updated = false →
      s.incidents.Free t id → s.incidents.view t id = some latest →
      Step id s (.write t) (State.advance
        { s with incidents := s.incidents.write t id (some (flushed model updated latest)) } t
        (.written pass existing updated))
  | commit {s : State τ} {t : τ} {pass : Pass} {before after : Incident} :
      (s.progress t).finished pass → s.incidents.committed id = some before →
      s.incidents.view t id = some after →
      Step id s (.commit t) (State.advance
        { s with
          incidents := s.incidents.commit t
          history := s.history ++ [⟨pass, before, after⟩] } t .ended)
  | abort {s : State τ} {t : τ} :
      Step id s (.abort t) (State.advance { s with incidents := s.incidents.rollback t } t .ended)

def State.start (incident : Incident) : State τ :=
  ⟨.of (Function.update (fun _ => none) incident.id (some incident)), fun _ => .idle, []⟩

/-! ## What the commits are meant to satisfy -/

inductive PatchField
  | title
  | serviceId
  | severity
  | status
  | summary
  | assignee
  | source
  | customerImpacting
  | acknowledgedAt
  | startedAt
  | resolvedAt
  deriving DecidableEq

abbrev PatchField.Value : PatchField → Type
  | .title | .summary | .assignee | .source => String
  | .serviceId => Uuid
  | .severity => IncidentSeverity
  | .status => IncidentStatus
  | .customerImpacting => Bool
  | .startedAt => Timestamp
  | .acknowledgedAt | .resolvedAt => Option Timestamp

def Incident.get (i : Incident) : (f : PatchField) → f.Value
  | .title => i.title
  | .serviceId => i.serviceId
  | .severity => i.severity
  | .status => i.status
  | .summary => i.summary
  | .assignee => i.assignee
  | .source => i.source
  | .customerImpacting => i.customerImpacting
  | .acknowledgedAt => i.acknowledgedAt
  | .startedAt => i.startedAt
  | .resolvedAt => i.resolvedAt

/-- The value to which a PATCH sets the field explicitly; null counts where the column admits it
and the service does not take it for a field left out. -/
def IncidentUpdate.explicit (p : IncidentUpdate) : (f : PatchField) → Option f.Value
  | .title => p.title.join
  | .serviceId => p.serviceId.join
  | .severity => p.severity.join
  | .status => p.status.join
  | .summary => p.summary.join
  | .assignee => p.assignee.join
  | .source => p.source.join
  | .customerImpacting => p.customerImpacting.join
  | .acknowledgedAt => p.acknowledgedAt
  | .startedAt => p.startedAt.join
  | .resolvedAt => p.resolvedAt.join.map some

def Pass.explicit (f : PatchField) : Pass → Option f.Value
  | .patch payload => payload.explicit f
  | .process => none

def Pass.setsStatus (statuses : List IncidentStatus) (pass : Pass) : Prop :=
  ∃ status ∈ statuses, pass.explicit .status = some status

/-- Once a PATCH to MONITORING or RESOLVED has committed, no processing pass moves the incident
to INVESTIGATING, unless a PATCH in between has reopened it. -/
def NoRegression (history : List Commit) : Prop :=
  ∀ h₁ c₁ h₂ c₂ h₃, history = h₁ ++ c₁ :: (h₂ ++ c₂ :: h₃) →
    c₁.pass.setsStatus [.monitoring, .resolved] → c₂.pass = .process →
    (∀ c ∈ h₂, ¬ c.pass.setsStatus [.opened, .investigating]) →
    ¬ (c₂.before.status ≠ .investigating ∧ c₂.after.status = .investigating)

/-- A field that a committed PATCH sets keeps its value until a later one sets it. -/
def KeepsFields (history : List Commit) (row : Incident) : Prop :=
  ∀ h₁ c₁ h₂, history = h₁ ++ c₁ :: h₂ → ∀ f v, c₁.pass.explicit f = some v →
    (∀ c ∈ h₂, c.pass.explicit f = none) → row.get f = v

/-! ## One pass after the other -/

def Pass.Effect (pass : Pass) (before after : Incident) : Prop :=
  ∃ c₁ c₂, after = (pass.compute before c₁ c₂).getD before

/-- The abstract system: each commit applies its pass to the row that the last one has left. -/
def SerialStep (before : Incident) (c : Commit) (after : Incident) : Prop :=
  c.before = before ∧ c.after = after ∧ c.pass.Effect before after

theorem Pass.compute_id {pass : Pass} {existing updated : Incident} {c₁ c₂ : Timestamp}
    (h : pass.compute existing c₁ c₂ = some updated) : updated.id = existing.id := by
  cases pass with
  | patch payload =>
    cases h
    rfl
  | process =>
    simp only [Pass.compute] at h
    split_ifs at h
    cases h
    rfl

theorem Pass.effect_of_compute {pass : Pass} {existing updated : Incident} {c₁ c₂ : Timestamp}
    (h : pass.compute existing c₁ c₂ = some updated) : pass.Effect existing updated :=
  ⟨c₁, c₂, by rw [h, Option.getD_some]⟩

theorem Pass.Effect.id_eq {pass : Pass} {before after : Incident} (h : pass.Effect before after) :
    after.id = before.id := by
  obtain ⟨c₁, c₂, rfl⟩ := h
  cases hc : pass.compute before c₁ c₂ with
  | none => rfl
  | some updated => exact Pass.compute_id hc

/-! ## Runs in which no transaction is overtaken -/

def Progress.existing? : Progress → Option Incident
  | .computed _ existing _ => some existing
  | .unchanged _ existing => some existing
  | .selected _ existing _ _ => some existing
  | .written _ existing _ => some existing
  | _ => none

/-- When a transaction selects the row again, writes it or commits, the committed row is still
the one that it has read. -/
def NotOvertaken (id : Uuid) (s : State τ) : Label τ → Prop
  | .select t | .write t | .commit t =>
    ∀ existing, (s.progress t).existing? = some existing →
      s.incidents.committed id = some existing
  | _ => True

def TxInv (T : Table τ Uuid Incident) (id : Uuid) (t : τ) : Progress → Prop
  | .idle | .ended => T.holder id ≠ some t
  | .computed pass existing updated =>
    T.holder id ≠ some t ∧ existing.id = id ∧ updated.id = id ∧ pass.Effect existing updated
  | .unchanged pass existing => T.holder id ≠ some t ∧ pass.Effect existing existing
  | .selected pass existing updated model =>
    T.holder id ≠ some t ∧ existing.id = id ∧ updated.id = id ∧ pass.Effect existing updated ∧
      model = existing
  | .written pass existing updated =>
    pass.Effect existing updated ∧ ((T.holder id = some t ∧ T.pending id = some updated) ∨
      (T.holder id ≠ some t ∧ updated = existing))

structure SerialInv (id : Uuid) (start : Incident) (s : State τ) : Prop where
  serial : ∃ row, s.incidents.committed id = some row ∧ row.id = id ∧
    Run SerialStep start s.history row
  tx : ∀ t, TxInv s.incidents id t (s.progress t)

omit [DecidableEq τ] in
/-- What `t` holds of the row is all that its own invariant depends on. -/
theorem TxInv.frame {T T' : Table τ Uuid Incident} {id : Uuid} {t : τ} {p : Progress}
    (h : TxInv T id t p) (hh : T'.holder id = some t ↔ T.holder id = some t)
    (hp : T.holder id = some t → T'.pending id = T.pending id) : TxInv T' id t p := by
  have hn : T.holder id ≠ some t → T'.holder id ≠ some t := fun hn hc => hn (hh.mp hc)
  cases p with
  | idle => exact hn h
  | ended => exact hn h
  | computed pass existing updated => exact ⟨hn h.1, h.2⟩
  | unchanged pass existing => exact ⟨hn h.1, h.2⟩
  | selected pass existing updated model => exact ⟨hn h.1, h.2⟩
  | written pass existing updated =>
    obtain ⟨he, ⟨hhold, hpend⟩ | ⟨hhold, heq⟩⟩ := h
    · exact ⟨he, .inl ⟨hh.mpr hhold, by rw [hp hhold, hpend]⟩⟩
    · exact ⟨he, .inr ⟨hn hhold, heq⟩⟩

variable {id : Uuid} {start : Incident} {s s' : State τ} {t : τ}

/-- Only transaction `t` moves, and the others hold what they held. -/
theorem SerialInv.of_step {T' : Table τ Uuid Incident} {p : Progress} {history : List Commit}
    (hi : SerialInv id start s)
    (hserial : ∃ row, T'.committed id = some row ∧ row.id = id ∧ Run SerialStep start history row)
    (ht : TxInv T' id t p)
    (hother : Table.SameExcept t s.incidents T') :
    SerialInv id start ⟨T', Function.update s.progress t p, history⟩ := by
  refine ⟨hserial, fun t' => ?_⟩
  by_cases h : t' = t
  · subst h
    simpa using ht
  · simp only [Function.update_of_ne h]
    exact (hi.tx t').frame ((hother t' h).holder id) ((hother t' h).pending id)

theorem TxInv.not_holder_of_finished {T : Table τ Uuid Incident} {pass : Pass} {p : Progress}
    (h : TxInv T id t p) (hf : p.finished pass) :
    ∃ existing updated, p.existing? = some existing ∧ pass.Effect existing updated ∧
      (T.committed id = some existing → T.view t id = some updated) := by
  cases p with
  | unchanged pass' existing =>
    cases hf
    exact ⟨existing, existing, rfl, h.2, fun hc => by rw [Table.view_of_not_holder h.1, hc]⟩
  | written pass' existing updated =>
    cases hf
    refine ⟨existing, updated, rfl, h.1, fun hc => ?_⟩
    obtain ⟨-, ⟨hhold, hpend⟩ | ⟨hhold, heq⟩⟩ := h
    · rw [Table.view_of_holder hhold, hpend]
    · rw [Table.view_of_not_holder hhold, hc, heq]
  | _ => cases hf

theorem serialInv_step {l : Label τ} (hi : SerialInv id start s) (h : Step id s l s')
    (hn : NotOvertaken id s l) : SerialInv id start s' := by
  cases h with
  | @read t pass c₁ c₂ existing hidle hview =>
    have htx := hi.tx t
    rw [hidle] at htx
    -- an idle transaction sees what is committed
    have hcommitted : s.incidents.committed id = some existing := by
      rw [← hview, Table.view_of_not_holder htx]
    obtain ⟨row, hrow, hid, -⟩ := hi.serial
    rw [hcommitted] at hrow
    cases hrow
    refine hi.of_step hi.serial ?_ (Table.sameExcept_refl _ _)
    cases hc : pass.compute existing c₁ c₂ with
    | none => exact ⟨htx, c₁, c₂, by rw [hc]; rfl⟩
    | some updated =>
      exact ⟨htx, hid, by rw [Pass.compute_id hc, hid], Pass.effect_of_compute hc⟩
  | @select t pass existing updated model hp hview =>
    have htx := hi.tx t
    rw [hp] at htx
    -- nobody has overtaken it, so that the second SELECT shows the same row
    have hmodel : model = existing := by
      rw [Table.view_of_not_holder htx.1, hn existing (by rw [hp]; rfl)] at hview
      exact (Option.some.inj hview).symm
    refine hi.of_step hi.serial ?_ (Table.sameExcept_refl _ _)
    exact ⟨htx.1, htx.2.1, htx.2.2.1, htx.2.2.2, hmodel⟩
  | @skip t pass existing updated model hp hnothing =>
    have htx := hi.tx t
    rw [hp] at htx
    obtain ⟨hhold, hid, hid', heffect, rfl⟩ := htx
    refine hi.of_step hi.serial ⟨heffect, .inr ⟨hhold, ?_⟩⟩ (Table.sameExcept_refl _ _)
    simp only [flushesNothing, decide_eq_true_eq, hid, ← hid'] at hnothing
    exact hnothing
  | @write t pass existing updated model latest hp hsome hfree hview =>
    have htx := hi.tx t
    rw [hp] at htx
    obtain ⟨hhold, hid, hid', heffect, rfl⟩ := htx
    have hlatest : latest = model := by
      rw [Table.view_of_not_holder hhold, hn model (by rw [hp]; rfl)] at hview
      exact (Option.some.inj hview).symm
    subst hlatest
    rw [flushed_selected (hid'.trans hid.symm)]
    exact hi.of_step hi.serial ⟨heffect, .inl ⟨by simp, by simp⟩⟩ (Table.sameExcept_write hfree)
  | @commit t pass before after hf hbefore hafter =>
    -- the commit is one step of the serial run: its effect is on the row that is committed now
    obtain ⟨existing, updated, he, heffect, hview⟩ := (hi.tx t).not_holder_of_finished hf
    have hcommitted := hn existing he
    rw [hview hcommitted] at hafter
    rw [hcommitted] at hbefore
    cases hafter
    cases hbefore
    obtain ⟨row, hrow, hid, hrun⟩ := hi.serial
    rw [hcommitted] at hrow
    cases hrow
    refine hi.of_step
      ⟨after, hview hcommitted, heffect.id_eq.trans hid, hrun.snoc ⟨rfl, rfl, heffect⟩⟩ ?_
      (Table.sameExcept_commit _ _)
    exact Table.holdsNothing_commit id
  | @abort t =>
    exact hi.of_step hi.serial (Table.holdsNothing_rollback id) (Table.sameExcept_rollback _ _)

/-- Refinement: where no transaction is overtaken, the commits are those of a serial run. -/
theorem serial_of_notOvertaken {ls : List (Label τ)} {incident : Incident}
    (h : Run (fun s l s' => Step incident.id s l s' ∧ NotOvertaken incident.id s l)
      (State.start incident) ls s) :
    ∃ row, s.incidents.committed incident.id = some row ∧
      Run SerialStep incident s.history row := by
  have hi : SerialInv incident.id incident s := by
    refine h.invariant ?_ ?_
    · intro s l s' hi hs
      exact serialInv_step hi hs.1 hs.2
    refine ⟨⟨incident, by simp [State.start, Table.of], rfl, .nil _⟩, fun t => ?_⟩
    show Option.none ≠ some t
    simp
  obtain ⟨row, hrow, -, hrun⟩ := hi.serial
  exact ⟨row, hrow, hrun⟩

end OpsFlow.Incidents
