import OpsFlow.Incidents.Isolation

namespace OpsFlow.Incidents
open Transition RowStore

/-! ## What one commit does to the fields -/

variable {before after row : Incident} {c : Commit}

/-- A value that a PATCH sets is the one it commits. -/
theorem SerialStep.sets (h : SerialStep before c after) {f : PatchField} {v : f.Value}
    (hv : c.pass.explicit f = some v) (hf : f ≠ .resolvedAt) : after.get f = v := by
  obtain ⟨pass, _, _⟩ := c
  obtain ⟨-, -, c₁, c₂, rfl⟩ := h
  cases pass with
  | process => cases hv
  | patch payload =>
    cases f with
    | resolvedAt => exact absurd rfl hf
    | acknowledgedAt =>
      have hv' : payload.acknowledgedAt = some v := hv
      simp [Pass.compute, updatedIncident, Incident.get, hv']
    | _ =>
      simp only [Pass.explicit, IncidentUpdate.explicit] at hv
      simp [Pass.compute, updatedIncident, Incident.get, hv]

theorem SerialStep.sets_resolvedAt (h : SerialStep before c after) {v : Option Timestamp}
    (hv : c.pass.explicit .resolvedAt = some v) (hs : after.status = .resolved) :
    after.resolvedAt = v := by
  obtain ⟨pass, _, _⟩ := c
  obtain ⟨-, -, c₁, c₂, rfl⟩ := h
  cases pass with
  | process => cases hv
  | patch payload =>
    simp only [Pass.explicit, IncidentUpdate.explicit, Option.map_eq_some_iff] at hv
    obtain ⟨at', hat, rfl⟩ := hv
    simp only [Pass.compute, Option.getD_some, updatedIncident] at hs ⊢
    simp [resolveTimestamp, hs, hat]

/-- The fields that no rule of the services touches stay as they are. -/
theorem SerialStep.keeps (h : SerialStep before c after) {f : PatchField}
    (hv : c.pass.explicit f = none)
    (hf : f ≠ .status ∧ f ≠ .acknowledgedAt ∧ f ≠ .resolvedAt) : after.get f = before.get f := by
  obtain ⟨pass, _, _⟩ := c
  obtain ⟨-, -, c₁, c₂, rfl⟩ := h
  cases pass with
  | process =>
    simp only [Pass.compute]
    split_ifs
    · cases f <;> simp_all [processedIncident, Incident.get]
    · rfl
  | patch payload =>
    cases f with
    | status => exact absurd rfl hf.1
    | acknowledgedAt => exact absurd rfl hf.2.1
    | resolvedAt => exact absurd rfl hf.2.2
    | _ =>
      simp only [Pass.explicit, IncidentUpdate.explicit] at hv
      simp [Pass.compute, updatedIncident, Incident.get, hv]

theorem SerialStep.keeps_status (h : SerialStep before c after)
    (hv : c.pass.explicit .status = none) : after.status = before.status ∨
      (c.pass = .process ∧ before.status = .opened ∧ after.status = .investigating) := by
  obtain ⟨pass, _, _⟩ := c
  obtain ⟨-, -, c₁, c₂, rfl⟩ := h
  cases pass with
  | process =>
    simp only [Pass.compute]
    split_ifs
    · by_cases hs : before.status = .opened
      · exact .inr ⟨trivial, hs, by simp [processedIncident, targetStatus, hs]⟩
      · exact .inl (by simp [processedIncident, targetStatus, hs])
    · exact .inl rfl
  | patch payload =>
    simp only [Pass.explicit, IncidentUpdate.explicit] at hv
    exact .inl (by simp [Pass.compute, updatedIncident, hv])

theorem SerialStep.keeps_acknowledgedAt (h : SerialStep before c after)
    (hv : c.pass.explicit .acknowledgedAt = none) :
    after.acknowledgedAt = before.acknowledgedAt ∨
      (c.pass = .process ∧ before.acknowledgedAt = none) := by
  obtain ⟨pass, _, _⟩ := c
  obtain ⟨-, -, c₁, c₂, rfl⟩ := h
  cases pass with
  | process =>
    simp only [Pass.compute]
    split_ifs
    · cases ha : before.acknowledgedAt with
      | none => exact .inr ⟨trivial, rfl⟩
      | some a => exact .inl (by simp [processedIncident, targetAcknowledgedAt, ha])
    · exact .inl rfl
  | patch payload =>
    have hv' : payload.acknowledgedAt = none := hv
    exact .inl (by simp [Pass.compute, updatedIncident, hv'])

/-- The time of resolution of a resolved incident stays unless it is set again. -/
theorem SerialStep.keeps_resolvedAt (h : SerialStep before c after) {at' : Timestamp}
    (hv : c.pass.explicit .resolvedAt = none) (hs : c.pass.explicit .status = none)
    (hbefore : before.status = .resolved ∧ before.resolvedAt = some at') :
    after.status = .resolved ∧ after.resolvedAt = some at' := by
  obtain ⟨pass, _, _⟩ := c
  obtain ⟨-, -, c₁, c₂, rfl⟩ := h
  cases pass with
  | process =>
    simp only [Pass.compute]
    split_ifs
    · simpa [processedIncident, targetStatus, hbefore.1] using hbefore.2
    · exact hbefore
  | patch payload =>
    simp only [Pass.explicit, IncidentUpdate.explicit, Option.map_eq_none_iff] at hv hs
    simp [Pass.compute, updatedIncident, resolveTimestamp, hv, hs, hbefore]

/-! ## What a serial run does to them -/

/-- What is left of a value that `c` has set after the commits `later`, none of which sets the
field again: processing takes an open incident up and fills an empty acknowledgement, and the time
of resolution belongs to the status. -/
def Kept (c : Commit) (later : List Commit) (row : Incident) : (f : PatchField) → f.Value → Prop
  | .status, v => row.status = v ∨
      (v = IncidentStatus.opened ∧ row.status = .investigating ∧ ∃ c' ∈ later, c'.pass = .process)
  | .acknowledgedAt, v => row.acknowledgedAt = v ∨ (v = none ∧ ∃ c' ∈ later, c'.pass = .process)
  | .resolvedAt, v => c.after.status = .resolved →
      (∀ c' ∈ later, c'.pass.explicit .status = none) → row.resolvedAt = v
  | f, v => row.get f = v

theorem keeps_run {later : List Commit} (h : Run SerialStep before later row) {f : PatchField}
    (hv : ∀ c ∈ later, c.pass.explicit f = none)
    (hf : f ≠ .status ∧ f ≠ .acknowledgedAt ∧ f ≠ .resolvedAt) : row.get f = before.get f := by
  induction h with
  | nil => rfl
  | snoc _ hstep ih =>
    rw [hstep.keeps (hv _ (by simp)) hf]
    exact ih fun c hc => hv c (by simp [hc])

theorem keeps_status_run {later : List Commit} (h : Run SerialStep before later row)
    (hv : ∀ c ∈ later, c.pass.explicit .status = none) : row.status = before.status ∨
      (before.status = .opened ∧ row.status = .investigating ∧ ∃ c ∈ later, c.pass = .process) := by
  induction h with
  | nil => exact .inl rfl
  | @snoc mid row' cs c' hrun hstep ih =>
    have hmid := ih fun c hc => hv c (by simp [hc])
    rcases hstep.keeps_status (hv _ (by simp)) with hsame | ⟨hprocess, hopen, hinvestigating⟩
    · rw [hsame]
      rcases hmid with hmid | ⟨ho, hi, c, hc, hp⟩
      · exact .inl hmid
      · exact .inr ⟨ho, hi, c, by simp [hc], hp⟩
    · rcases hmid with hmid | ⟨-, hi, -⟩
      · exact .inr ⟨by rw [← hmid, hopen], hinvestigating, c', by simp, hprocess⟩
      · rw [hi] at hopen
        cases hopen

theorem keeps_acknowledgedAt_run {later : List Commit} (h : Run SerialStep before later row)
    (hv : ∀ c ∈ later, c.pass.explicit .acknowledgedAt = none) :
    row.acknowledgedAt = before.acknowledgedAt ∨
      (before.acknowledgedAt = none ∧ ∃ c ∈ later, c.pass = .process) := by
  induction h with
  | nil => exact .inl rfl
  | @snoc mid row' cs c' hrun hstep ih =>
    have hmid := ih fun c hc => hv c (by simp [hc])
    rcases hstep.keeps_acknowledgedAt (hv _ (by simp)) with hsame | ⟨hprocess, hnone⟩
    · rw [hsame]
      rcases hmid with hmid | ⟨hn, c, hc, hp⟩
      · exact .inl hmid
      · exact .inr ⟨hn, c, by simp [hc], hp⟩
    · rcases hmid with hmid | ⟨hn, c, hc, hp⟩
      · exact .inr ⟨by rw [← hmid, hnone], c', by simp, hprocess⟩
      · exact .inr ⟨hn, c, by simp [hc], hp⟩

theorem keeps_resolvedAt_run {later : List Commit} {at' : Timestamp}
    (h : Run SerialStep before later row) (hv : ∀ c ∈ later, c.pass.explicit .resolvedAt = none)
    (hs : ∀ c ∈ later, c.pass.explicit .status = none)
    (hbefore : before.status = .resolved ∧ before.resolvedAt = some at') :
    row.status = .resolved ∧ row.resolvedAt = some at' := by
  induction h with
  | nil => exact hbefore
  | snoc _ hstep ih =>
    exact hstep.keeps_resolvedAt (hv _ (by simp)) (hs _ (by simp))
      (ih (fun c hc => hv c (by simp [hc])) fun c hc => hs c (by simp [hc]))

/-- A status beyond INVESTIGATING is left only by a PATCH that reopens the incident. -/
theorem keeps_beyond_run {later : List Commit} (h : Run SerialStep before later row)
    (hv : ∀ c ∈ later, ¬ c.pass.setsStatus [.opened, .investigating])
    (hbefore : before.status ≠ .opened ∧ before.status ≠ .investigating) :
    row.status ≠ .opened ∧ row.status ≠ .investigating := by
  induction h with
  | nil => exact hbefore
  | @snoc mid row' cs c' hrun hstep ih =>
    have hmid := ih fun c hc => hv c (by simp [hc])
    cases hset : c'.pass.explicit .status with
    | none =>
      rcases hstep.keeps_status hset with hsame | ⟨-, hopen, -⟩
      · rwa [hsame]
      · exact absurd hopen hmid.1
    | some v =>
      have hrow : row'.status = v := hstep.sets hset (by simp)
      have hnot := hv c' (by simp)
      rw [hrow]
      constructor
      · intro hc
        exact hnot ⟨.opened, by simp, by rw [hset, hc]⟩
      · intro hc
        exact hnot ⟨.investigating, by simp, by rw [hset, hc]⟩

theorem noRegression_of_serial {history : List Commit} (h : Run SerialStep before history row) :
    NoRegression history := by
  intro h₁ c₁ h₂ c₂ h₃ hsplit hset hprocess hnot hmoves
  obtain ⟨row₁, -, hrun⟩ := h.of_append hsplit
  obtain ⟨row₂, hfirst, hrun⟩ := hrun.of_cons rfl
  obtain ⟨row₃, hbetween, hrun⟩ := hrun.of_append rfl
  obtain ⟨row₄, hlast, -⟩ := hrun.of_cons rfl
  obtain ⟨v, hv, hset⟩ := hset
  have hrow₂ : row₂.status = v := hfirst.sets hset (by simp)
  have hbeyond : row₂.status ≠ .opened ∧ row₂.status ≠ .investigating := by
    rw [hrow₂]
    simp only [List.mem_cons, List.not_mem_nil, or_false] at hv
    rcases hv with rfl | rfl <;> decide
  have hrow₃ := keeps_beyond_run hbetween hnot hbeyond
  have hexplicit : c₂.pass.explicit .status = none := by rw [hprocess]; rfl
  rw [hlast.1, hlast.2.1] at hmoves
  rcases hlast.keeps_status hexplicit with hsame | ⟨-, hopen, -⟩
  · exact hrow₃.2 (by rw [← hsame, hmoves.2])
  · exact hrow₃.1 hopen

theorem kept_of_serial {history : List Commit} (h : Run SerialStep before history row)
    {h₁ h₂ : List Commit} (hsplit : history = h₁ ++ c :: h₂) {f : PatchField} {v : f.Value}
    (hset : c.pass.explicit f = some v) (hlater : ∀ c' ∈ h₂, c'.pass.explicit f = none) :
    Kept c h₂ row f v := by
  obtain ⟨row₁, -, hrun⟩ := h.of_append hsplit
  obtain ⟨row₂, hfirst, hrun⟩ := hrun.of_cons rfl
  cases f with
  | status =>
    have hrow₂ : row₂.status = v := hfirst.sets hset (by simp)
    rw [← hrow₂]
    exact keeps_status_run hrun hlater
  | acknowledgedAt =>
    have hrow₂ : row₂.acknowledgedAt = v := hfirst.sets hset (by simp)
    rw [← hrow₂]
    exact keeps_acknowledgedAt_run hrun hlater
  | resolvedAt =>
    intro hs hstatus
    rw [hfirst.2.1] at hs
    have hrow₂ := hfirst.sets_resolvedAt hset hs
    cases v with
    | none =>
      -- null is taken for a field left out
      cases hp : c.pass with
      | process => rw [hp] at hset; cases hset
      | patch payload =>
        rw [hp] at hset
        simp [Pass.explicit, IncidentUpdate.explicit] at hset
    | some at' => exact (keeps_resolvedAt_run hrun hlater hstatus ⟨hs, hrow₂⟩).2
  | _ =>
    show row.get _ = v
    rw [keeps_run hrun hlater (by simp)]
    exact hfirst.sets hset (by simp)

/-- The law of user updates and processing passes that do not overtake each other. -/
theorem update_law {τ : Type} [DecidableEq τ] (incident : Incident) (ls : List (Label τ))
    (s : State τ)
    (h : Run (fun s l s' => Step incident.id s l s' ∧ NotOvertaken incident.id s l)
      (State.start incident) ls s) :
    ∃ row, s.incidents.committed incident.id = some row ∧ NoRegression s.history ∧
      ∀ h₁ c h₂, s.history = h₁ ++ c :: h₂ → ∀ f v, c.pass.explicit f = some v →
        (∀ c' ∈ h₂, c'.pass.explicit f = none) → Kept c h₂ row f v := by
  obtain ⟨row, hrow, hrun⟩ := serial_of_notOvertaken h
  exact ⟨row, hrow, noRegression_of_serial hrun, fun h₁ c h₂ hsplit f v hset hlater =>
    kept_of_serial hrun hsplit hset hlater⟩

/-! ## A transaction that is left alone -/

section
variable {τ : Type} [DecidableEq τ] {id : Uuid} {s : State τ} {t : τ} {pass : Pass}
  {existing updated model : Incident}

def State.rests (s : State τ) (id : Uuid) (row : Incident) : Prop :=
  s.incidents.committed id = some row ∧ s.incidents.holder id = none

/-- Whatever the row has become since it was read, the transaction replaces it by what it has
computed, and commits. -/
theorem finish_run (hp : s.progress t = .computed pass existing updated) (hrow : s.rests id model)
    (hid : updated.id = model.id) (hsome : flushesNothing model updated = false) :
    ∃ s', Run (fun s l s' => Step id s l s' ∧ (model = existing → NotOvertaken id s l)) s
        [.select t, .write t, .commit t] s' ∧
      s'.rests id updated ∧ s'.history = s.history ++ [⟨pass, model, updated⟩] ∧
      ∀ t', t' ≠ t → s'.progress t' = s.progress t' := by
  obtain ⟨hcommitted, hholder⟩ := hrow
  have hview : s.incidents.view t id = some model := by
    rw [Table.view_of_not_holder (by simp [hholder]), hcommitted]
  -- nothing is committed until the last step: a row that was not overtaken before is not now
  have hover : ∀ {s₁ : State τ} {l : Label τ}, s₁.incidents.committed id = some model →
      (s₁.progress t).existing? = some existing → (l = .select t ∨ l = .write t ∨ l = .commit t) →
      model = existing → NotOvertaken id s₁ l := by
    intro s₁ l h₁ h₂ hl heq
    rcases hl with rfl | rfl | rfl <;>
    · intro e he
      rw [h₂] at he
      cases he
      rw [h₁, heq]
  let s₁ := s.advance t (.selected pass existing updated model)
  have hselect : Step id s (.select t) s₁ := .select hp hview
  let s₂ := State.advance
    { s₁ with incidents := s₁.incidents.write t id (some (flushed model updated model)) } t
    (.written pass existing updated)
  have hprogress₁ : s₁.progress t = .selected pass existing updated model := Function.update_self ..
  have hwrite : Step id s₁ (.write t) s₂ := .write hprogress₁ hsome (.inl hholder) hview
  have hprogress₂ : s₂.progress t = .written pass existing updated := Function.update_self ..
  have hview₂ : s₂.incidents.view t id = some updated := by
    show (s₁.incidents.write t id (some (flushed model updated model))).view t id = _
    rw [Table.view_write_self, flushed_selected hid]
  have hfinished : (s₂.progress t).finished pass := by
    rw [hprogress₂]
    rfl
  have hcommit : Step id s₂ (.commit t) _ := .commit hfinished hcommitted hview₂
  refine ⟨_, .cons ⟨hselect, ?_⟩ (.cons ⟨hwrite, ?_⟩ (.single ⟨hcommit, ?_⟩)), ?_, rfl, ?_⟩
  · exact hover hcommitted (by rw [hp]; rfl) (.inl rfl)
  · exact hover hcommitted (by rw [hprogress₁]; rfl) (.inr (.inl rfl))
  · exact hover hcommitted (by rw [hprogress₂]; rfl) (.inr (.inr rfl))
  · refine ⟨hview₂, ?_⟩
    show (s₂.incidents.commit t).holder id = none
    simp [Table.rollback, s₂, State.advance]
  · intro t' ht'
    show Function.update (Function.update (Function.update s.progress t _) t _) t _ t' = _
    simp [Function.update_of_ne ht']

/-- The same from the beginning: read, compute, select, write and commit. -/
theorem pass_run (t : τ) (pass : Pass) (c₁ c₂ : Timestamp) (hidle : s.progress t = .idle)
    (hrow : s.rests id existing) (hcompute : pass.compute existing c₁ c₂ = some updated)
    (hsome : flushesNothing existing updated = false) :
    ∃ s', Run (fun s l s' => Step id s l s' ∧ NotOvertaken id s l) s
        [.read t pass c₁ c₂, .select t, .write t, .commit t] s' ∧
      s'.rests id updated ∧ s'.history = s.history ++ [⟨pass, existing, updated⟩] ∧
      ∀ t', t' ≠ t → s'.progress t' = s.progress t' := by
  have hview : s.incidents.view t id = some existing := by
    rw [Table.view_of_not_holder (by simp [hrow.2]), hrow.1]
  have hread : Step id s (.read t pass c₁ c₂) _ := .read hidle hview
  rw [hcompute] at hread
  have hp : (s.advance t (.computed pass existing updated)).progress t =
      .computed pass existing updated := Function.update_self ..
  have hrests : (s.advance t (.computed pass existing updated)).rests id existing := hrow
  obtain ⟨s', hrun, hrests, hhistory, hother⟩ :=
    finish_run hp hrests (Pass.compute_id hcompute) hsome
  refine ⟨s', .cons ⟨hread, trivial⟩ ?_, hrests, hhistory, ?_⟩
  · exact hrun.mono fun s l s' h => ⟨h.1, h.2 rfl⟩
  · intro t' ht'
    rw [hother t' ht']
    exact Function.update_of_ne ht' ..

end

/-! ## What overtaking and processing do to a PATCH -/

def openIncident : Incident :=
  ⟨1, "Outage", 2, .sev1, .opened, "Down", "Ann", 0, none, 0, 0, "manual", false, some 0, none⟩

def setStatus (status : IncidentStatus) : Pass :=
  .patch { IncidentUpdate.empty with status := some (some status) }

def reopened : List (Label ℕ) :=
  [.read 0 (setStatus .opened) 1 1, .select 0, .write 0, .commit 0] ++
    [.read 1 .process 2 2, .select 1, .write 1, .commit 1]

/-- A processing pass reads the open incident, a PATCH resolves it and commits, and the pass
goes on. -/
def overtaken : List (Label ℕ) :=
  .read 0 .process 1 1 :: ([.read 1 (setStatus .resolved) 2 2, .select 1, .write 1, .commit 1] ++
    [.select 0, .write 0, .commit 0])

theorem start_rests (incident : Incident) :
    (State.start incident : State ℕ).rests incident.id incident :=
  ⟨by simp [State.start, Table.of], rfl⟩

/-- The two passes of `reopened` do not overtake each other. -/
theorem reopened_run : ∃ (s : State ℕ) (row : Incident),
    Run (fun s l s' => Step openIncident.id s l s' ∧ NotOvertaken openIncident.id s l)
      (State.start openIncident) reopened s ∧
    s.rests openIncident.id row ∧ row.status = .investigating ∧
    ∃ c₁ c₂, s.history = [c₁, c₂] ∧ c₁.pass = setStatus .opened ∧ c₂.pass = .process := by
  obtain ⟨s₁, hrun₁, hrests₁, hhistory₁, hother₁⟩ :=
    pass_run 0 (setStatus .opened) 1 1 rfl (start_rests openIncident) rfl (by decide)
  obtain ⟨s₂, hrun₂, hrests₂, hhistory₂, -⟩ :=
    pass_run 1 .process 2 2 (hother₁ 1 (by decide)) hrests₁ rfl (by decide)
  exact ⟨s₂, _, hrun₁.append hrun₂, hrests₂, by decide, _, _, by rw [hhistory₂, hhistory₁]; rfl,
    rfl, rfl⟩

theorem overtaken_run : ∃ (s : State ℕ) (row : Incident),
    Run (Step openIncident.id) (State.start openIncident) overtaken s ∧
    s.rests openIncident.id row ∧ row.status = .investigating ∧
    ∃ c₁ c₂, s.history = [c₁, c₂] ∧ c₁.pass = setStatus .resolved ∧ c₂.pass = .process ∧
      c₂.before.status = .resolved ∧ c₂.after.status = .investigating := by
  have hview : (State.start openIncident : State ℕ).incidents.view 0 openIncident.id =
      some openIncident := by
    simp [Table.view, State.start, Table.of]
  have hread : Step openIncident.id (State.start openIncident : State ℕ) (.read 0 .process 1 1) _ :=
    .read rfl hview
  have hrests : State.rests ((State.start openIncident : State ℕ).advance 0
      (.computed .process openIncident (processedIncident openIncident 1 1)))
      openIncident.id openIncident := start_rests openIncident
  obtain ⟨s₁, hrun₁, hrests₁, hhistory₁, hother₁⟩ :=
    pass_run 1 (setStatus .resolved) 2 2 rfl hrests rfl (by decide)
  obtain ⟨s₂, hrun₂, hrests₂, hhistory₂, -⟩ :=
    finish_run (hother₁ 0 (by decide)) hrests₁ rfl (by decide)
  have hrun : Run (Step openIncident.id) (State.start openIncident) overtaken s₂ :=
    .cons hread (.append (hrun₁.mono fun _ _ _ h => h.1) (hrun₂.mono fun _ _ _ h => h.1))
  exact ⟨s₂, _, hrun, hrests₂, by decide, _, _, by rw [hhistory₂, hhistory₁]; rfl, rfl, rfl,
    by decide, by decide⟩

theorem update_law_fails :
    (∃ (s : State ℕ) (row : Incident),
      Run (Step openIncident.id) (State.start openIncident) reopened s ∧
      s.incidents.committed openIncident.id = some row ∧ ¬ KeepsFields s.history row) ∧
    ∃ (s : State ℕ) (row : Incident),
      Run (Step openIncident.id) (State.start openIncident) overtaken s ∧
      s.incidents.committed openIncident.id = some row ∧ ¬ NoRegression s.history ∧
        ¬ KeepsFields s.history row := by
  constructor
  · obtain ⟨s, row, hrun, hrests, hstatus, c₁, c₂, hhistory, hc₁, hc₂⟩ := reopened_run
    refine ⟨s, row, hrun.mono fun _ _ _ h => h.1, hrests.1, fun hkeeps => ?_⟩
    have hrow := hkeeps [] c₁ [c₂] hhistory .status .opened (by rw [hc₁]; rfl)
      (by simp [hc₂, Pass.explicit])
    rw [show row.status = .opened from hrow] at hstatus
    cases hstatus
  · obtain ⟨s, row, hrun, hrests, hstatus, c₁, c₂, hhistory, hc₁, hc₂, hbefore, hafter⟩ :=
      overtaken_run
    refine ⟨s, row, hrun, hrests.1, fun hno => ?_, fun hkeeps => ?_⟩
    · refine hno [] c₁ [] c₂ [] hhistory ⟨.resolved, by simp, by rw [hc₁]; rfl⟩ hc₂ (by simp) ?_
      rw [hbefore, hafter]
      decide
    · have hrow := hkeeps [] c₁ [c₂] hhistory .status .resolved (by rw [hc₁]; rfl)
        (by simp [hc₂, Pass.explicit])
      rw [show row.status = .resolved from hrow] at hstatus
      cases hstatus

/-- The law at the two passes of `reopened`, the second of which takes the incident up again. -/
theorem update_law_reopened : ∃ (s : State ℕ) (row : Incident),
    s.incidents.committed openIncident.id = some row ∧ NoRegression s.history ∧
      ∃ c later, s.history = c :: later ∧ Kept c later row .status .opened := by
  obtain ⟨s, row, hrun, -, -, c₁, c₂, hhistory, hc₁, hc₂⟩ := reopened_run
  obtain ⟨row', hrow, hno, hkept⟩ := update_law openIncident reopened s hrun
  exact ⟨s, row', hrow, hno, c₁, [c₂], hhistory,
    hkept [] c₁ [c₂] hhistory .status .opened (by rw [hc₁]; rfl) (by simp [hc₂, Pass.explicit])⟩

end OpsFlow.Incidents
