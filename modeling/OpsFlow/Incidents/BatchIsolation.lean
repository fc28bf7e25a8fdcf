import OpsFlow.Incidents.ReconcileOnce

namespace OpsFlow.Incidents
open OpsFlow.Execution (IncidentTaskExecution ClaimDraw)

/-! ## What isolates the candidates of a batch -/

def Unowned (table : Execution.Table) (taskId token : String) : Prop :=
  ∀ item, table taskId = some item → ¬ item.ownedBy token

def Batch.tokens (batch : Batch) : List String :=
  batch.filterMap fun entry => entry.2.claim.map ClaimDraw.reconciliationToken

/-- The tokens of the batch are drawn afresh: no two claims draw the same one, and nobody else draws
any of them. -/
structure Batch.Fresh (batch : Batch) : Prop where
  nodup : batch.tokens.Nodup
  others : ∀ entry ∈ batch, ∀ other ∈ entry.2.beforeClaim ++ entry.2.beforeMark,
    ∀ token ∈ batch.tokens, other.drawn ≠ some token

/-- Every candidate is tried, the summary adds up, and nothing that was claimed is still being
processed under its token, unless the call that marks it has failed. -/
structure BatchRun.Isolated (run : BatchRun) (batch : Batch) : Prop where
  attempted : run.attempted = batch.map Prod.fst
  summary : ∃ summary, run.summary = .ok summary ∧ summary.discovered = batch.length ∧
    summary.discovered = summary.claimed + summary.skipped ∧
    summary.claimed =
      summary.succeeded + summary.retryableFailures + summary.permanentFailures
  released : ∀ c ∈ run.claimed, c.markFailed = false → Unowned run.table c.taskId c.token

/-- The call of `claim` is answered, and what it claims is an execution whose call of the processor
ends in no unmapped exception. -/
def Turn.Mapped (turn : Turn) (table : Execution.Table) (candidate : IncidentTaskExecution) :
    Prop :=
  ∃ draw, turn.claim = some draw ∧
    ∀ item table', Execution.claim (performAll table turn.beforeClaim) candidate.taskId draw =
        some (item, table') →
      ∃ execution, Execution.toDomain item = some execution ∧
        ¬ turn.answers.Unmapped turn.draw execution

def Batch.Mapped : Execution.Table → Batch → Prop
  | _, [] => True
  | table, (candidate, turn) :: batch =>
    turn.Mapped table candidate ∧ Batch.Mapped (takeTurn table candidate turn).2.2 batch

/-- DynamoDB keeps every record under its `task_id`. -/
def Keyed (table : Execution.Table) : Prop :=
  ∀ taskId item, table taskId = some item → item.taskId = taskId

section Frame

variable {table table' : Execution.Table} {taskId k token now : String} {free : String → Prop}
  {draw : ClaimDraw} {execution : IncidentTaskExecution} {m : Execution.Mark}

theorem Unowned.update {item : Execution.Item} (h : Unowned table k token)
    (hitem : ¬ item.ownedBy token) :
    Unowned (Function.update table taskId (some item)) k token := by
  intro item' hitem'
  obtain ⟨-, rfl⟩ | ⟨-, hold⟩ := ConditionalStore.update_eq_some.mp hitem'
  · exact hitem
  · exact h item' hold

theorem Keyed.update {item : Execution.Item} (h : Keyed table) (hitem : item.taskId = taskId) :
    Keyed (Function.update table taskId (some item)) := by
  intro k item' hitem'
  obtain ⟨rfl, rfl⟩ | ⟨-, hold⟩ := ConditionalStore.update_eq_some.mp hitem'
  · exact hitem
  · exact h k item' hold

/-- The records stay under their keys, and none comes into the hands of a token that is free. -/
structure Spares (free : String → Prop) (table table' : Execution.Table) : Prop where
  keyed : Keyed table → Keyed table'
  unowned : ∀ token, free token → ∀ k, Unowned table k token → Unowned table' k token

theorem Spares.refl : Spares free table table := ⟨id, fun _ _ _ => id⟩

theorem Spares.trans {table'' : Execution.Table} (h : Spares free table table')
    (h' : Spares free table' table'') : Spares free table table'' :=
  ⟨fun hkeyed => h'.keyed (h.keyed hkeyed),
    fun token hfree k hk => h'.unowned token hfree k (h.unowned token hfree k hk)⟩

theorem spares_put {task : Execution.Task} {incidentId acceptedAt : String} {expiration : ℤ}
    (h : Execution.putExecution table task incidentId acceptedAt expiration = some table') :
    Spares free table table' := by
  obtain ⟨-, rfl⟩ := ConditionalStore.putIfAbsent_eq_some.mp h
  refine ⟨fun hkeyed => hkeyed.update rfl, fun _ _ k hk => hk.update fun howned => ?_⟩
  cases howned.1

theorem spares_claim {item : Execution.Item} (hdraw : ¬ free draw.reconciliationToken)
    (h : Execution.claim table taskId draw = some (item, table')) : Spares free table table' := by
  obtain ⟨old, hold, -, rfl, rfl⟩ := Execution.claim_eq_some.mp h
  refine ⟨fun hkeyed => hkeyed.update (hkeyed taskId old hold),
    fun token hfree k hk => hk.update fun howned => hdraw ?_⟩
  rw [Option.some.inj howned.2]
  exact hfree

theorem Mark.apply_taskId (item : Execution.Item) : (m.apply now item).taskId = item.taskId := by
  cases m <;> rfl

theorem not_ownedBy_apply (item : Execution.Item) : ¬ (m.apply now item).ownedBy token :=
  fun howned => m.apply_status now item howned.1

theorem spares_mark (h : Execution.mark table execution m now = .ok table') :
    Spares free table table' := by
  obtain ⟨own, item, -, hitem, -, rfl⟩ := Execution.mark_eq_ok.mp h
  refine ⟨fun hkeyed => hkeyed.update ?_, fun _ _ k hk => hk.update (not_ownedBy_apply item)⟩
  rw [Mark.apply_taskId]
  exact hkeyed _ item hitem

theorem spares_markedOr : Spares free table
    ((Execution.mark table execution m now).toOption.getD table) := by
  cases h : Execution.mark table execution m now with
  | error e => exact .refl
  | ok table' => exact spares_mark h

theorem spares_marked (outcome : Except ProcessorError IncidentProcessingResult) :
    Spares free table (marked table execution now outcome) := by
  match outcome with
  | .ok _ => exact spares_markedOr
  | .error (.incidentNotFound _) => exact spares_markedOr
  | .error (.retryable _) => exact spares_markedOr
  | .error (.other _) => exact .refl

theorem Other.spares {other : Other} (h : ∀ token, free token → other.drawn ≠ some token) :
    Spares free table (other.perform table) := by
  cases other with
  | expire taskId =>
    have hold : ∀ k item, Function.update table taskId none k = some item →
        table k = some item := by
      intro k item hitem
      obtain rfl | hne := eq_or_ne k taskId
      · rw [Function.update_self] at hitem
        cases hitem
      · rwa [Function.update_of_ne hne] at hitem
    exact ⟨fun hkeyed k item hitem => hkeyed k item (hold k item hitem),
      fun _ _ k hk item hitem => hk item (hold k item hitem)⟩
  | call c =>
    cases c with
    | put task incidentId acceptedAt expiration =>
      change Spares free table
        (Execution.Call.perform table (.put task incidentId acceptedAt expiration)).1
      unfold Execution.Call.perform
      dsimp only
      split
      · rename_i hput
        exact spares_put hput
      · exact .refl
    | load task incidentId => exact .refl
    | claim taskId draw =>
      -- the record that is claimed gets a token that is not free
      change Spares free table (Execution.Call.perform table (.claim taskId draw)).1
      unfold Execution.Call.perform
      dsimp only
      split
      · rename_i hclaim
        exact spares_claim (fun hfree => h _ hfree rfl) hclaim
      · exact .refl
    | mark execution m now =>
      change Spares free table (Execution.Call.perform table (.mark execution m now)).1
      unfold Execution.Call.perform
      dsimp only
      split
      · rename_i hmark
        exact spares_mark hmark
      · exact .refl

theorem spares_performAll {others : List Other}
    (h : ∀ other ∈ others, ∀ token, free token → other.drawn ≠ some token) :
    Spares free table (performAll table others) := by
  induction others generalizing table with
  | nil => exact .refl
  | cons other others ih =>
    exact (Other.spares (h other List.mem_cons_self)).trans
      (ih fun other hother => h other (List.mem_cons_of_mem _ hother))

/-- After a mark, whether it has written or not, its token owns the record no longer. -/
theorem unowned_markedOr (htoken : execution.reconciliationToken = some token) :
    Unowned ((Execution.mark table execution m now).toOption.getD table) execution.taskId
      token := by
  intro item hitem howned
  cases h : Execution.mark table execution m now with
  | error e =>
    rw [h] at hitem
    have hok : Execution.mark table execution m now = .ok _ :=
      Execution.mark_eq_ok.mpr ⟨token, item, htoken, hitem, howned, rfl⟩
    cases h.symm.trans hok
  | ok table' =>
    rw [h] at hitem
    obtain ⟨own, old, -, -, -, rfl⟩ := Execution.mark_eq_ok.mp h
    obtain ⟨-, rfl⟩ | ⟨hne, -⟩ := ConditionalStore.update_eq_some.mp hitem
    · exact not_ownedBy_apply old howned
    · exact hne rfl

theorem unowned_marked {outcome : Except ProcessorError IncidentProcessingResult}
    (htoken : execution.reconciliationToken = some token)
    (hmapped : ∀ message, outcome ≠ .error (.other message)) :
    Unowned (marked table execution now outcome) execution.taskId token := by
  match outcome with
  | .ok _ => exact unowned_markedOr htoken
  | .error (.incidentNotFound _) => exact unowned_markedOr htoken
  | .error (.retryable _) => exact unowned_markedOr htoken
  | .error (.other message) => exact absurd rfl (hmapped message)

end Frame

/-! ## One turn -/

section OneTurn

variable {table : Execution.Table} {candidate : IncidentTaskExecution} {turn : Turn}
    {token : String}

def Turn.Draws (turn : Turn) (token : String) : Prop :=
  (∃ draw, turn.claim = some draw ∧ draw.reconciliationToken = token) ∨
    ∃ other ∈ turn.beforeClaim ++ turn.beforeMark, other.drawn = some token

theorem reconcileClaimed_raised {execution : IncidentTaskExecution} :
    (∃ message, (reconcileClaimed table execution turn).1 = .raised message) ↔
      turn.answers.Unmapped turn.draw execution := by
  rw [← PostgresAnswers.processIncident_other_iff]
  unfold reconcileClaimed
  dsimp only
  constructor
  · rintro ⟨message, h⟩
    split at h
    · rename_i text hother
      exact ⟨text, hother⟩
    · cases h
    · cases h
    · split at h <;> cases h
  · rintro ⟨text, hother⟩
    rw [hother]
    exact ⟨text, rfl⟩

theorem takeTurn_raised : (∃ message, (takeTurn table candidate turn).1 = .raised message) ↔
    ¬ turn.Mapped table candidate := by
  unfold takeTurn Turn.Mapped
  dsimp only
  cases hclaim : turn.claim with
  | none => simp
  | some draw =>
    dsimp only
    cases hclaimed : Execution.claim (performAll table turn.beforeClaim) candidate.taskId draw with
    | none => simp [hclaimed]
    | some claimed =>
      obtain ⟨item, table'⟩ := claimed
      dsimp only
      cases hdomain : Execution.toDomain item with
      | none => simp [hclaimed, hdomain]
      | some execution =>
        have hraised := @reconcileClaimed_raised table' turn execution
        simp [hclaimed, hdomain, hraised]

theorem reconcileClaimed_table {execution : IncidentTaskExecution}
    (hmapped : ¬ turn.answers.Unmapped turn.draw execution) :
    (reconcileClaimed table execution turn).2 =
      turn.mark.elim (performAll table turn.beforeMark) fun now =>
        marked (performAll table turn.beforeMark) execution now
          (turn.answers.processIncident turn.draw execution) := by
  rw [← PostgresAnswers.processIncident_other_iff] at hmapped
  unfold reconcileClaimed
  dsimp only
  split
  · rename_i message hother
    exact absurd ⟨message, hother⟩ hmapped
  · rename_i hmissing
    rw [hmissing]
  · rename_i hretryable
    rw [hretryable]
  · rename_i hok
    rw [hok]
    split <;> rfl

theorem spares_reconcileClaimed {execution : IncidentTaskExecution} {free : String → Prop}
    (hothers : ∀ other ∈ turn.beforeMark, ∀ token, free token → other.drawn ≠ some token) :
    Spares free table (reconcileClaimed table execution turn).2 := by
  by_cases hmapped : turn.answers.Unmapped turn.draw execution
  · rw [← PostgresAnswers.processIncident_other_iff] at hmapped
    obtain ⟨message, hother⟩ := hmapped
    unfold reconcileClaimed
    rw [hother]
    exact .refl
  · rw [reconcileClaimed_table hmapped]
    refine (spares_performAll hothers).trans ?_
    cases turn.mark with
    | none => exact .refl
    | some now =>
      rw [Option.elim_some]
      exact spares_marked _

/-- A turn spares every token that is not drawn while it lasts. -/
theorem spares_takeTurn :
    Spares (fun token => ¬ turn.Draws token) table (takeTurn table candidate turn).2.2 := by
  have hothers : ∀ other ∈ turn.beforeClaim ++ turn.beforeMark, ∀ token,
      ¬ turn.Draws token → other.drawn ≠ some token :=
    fun other hother token hfree heq => hfree (.inr ⟨other, hother, heq⟩)
  have hbefore :
      Spares (fun token => ¬ turn.Draws token) table (performAll table turn.beforeClaim) :=
    spares_performAll fun other hother => hothers other (List.mem_append_left _ hother)
  refine hbefore.trans ?_
  unfold takeTurn
  dsimp only
  cases hclaim : turn.claim with
  | none => exact .refl
  | some draw =>
    -- the claim of the turn itself draws a token, and the others during it draw theirs
    have hdraw : ¬ ¬ turn.Draws draw.reconciliationToken := not_not.mpr (.inl ⟨draw, hclaim, rfl⟩)
    dsimp only
    cases hclaimed : Execution.claim (performAll table turn.beforeClaim) candidate.taskId draw with
    | none => exact .refl
    | some claimed =>
      obtain ⟨item, table'⟩ := claimed
      refine (spares_claim hdraw hclaimed).trans ?_
      dsimp only
      cases Execution.toDomain item with
      | none => exact .refl
      | some execution =>
        dsimp only
        exact spares_reconcileClaimed fun other hother =>
          hothers other (List.mem_append_right _ hother)

/-- A candidate that has been claimed is in nobody's hands under the token of its claim when its
turn is over, if the call that marks it has been answered. -/
theorem takeTurn_released (hkeyed : Keyed table) (hmapped : turn.Mapped table candidate)
    {c : Claimed} (hc : (takeTurn table candidate turn).2.1 = some c) :
    (∃ draw, turn.claim = some draw ∧ draw.reconciliationToken = c.token) ∧
      (c.markFailed = false → Unowned (takeTurn table candidate turn).2.2 c.taskId c.token) := by
  obtain ⟨draw, hclaim, hexecution⟩ := hmapped
  have hspares : Spares (fun _ => False) table (performAll table turn.beforeClaim) :=
    spares_performAll fun _ _ _ => False.elim
  have hkeyed' := hspares.keyed hkeyed
  unfold takeTurn at hc ⊢
  rw [hclaim] at hc ⊢
  dsimp only at hc ⊢
  cases hclaimed : Execution.claim (performAll table turn.beforeClaim) candidate.taskId draw with
  | none =>
    rw [hclaimed] at hc
    cases hc
  | some claimed =>
    obtain ⟨item, table'⟩ := claimed
    obtain ⟨execution, hdomain, hcalm⟩ := hexecution item table' hclaimed
    rw [hclaimed] at hc
    dsimp only at hc ⊢
    rw [hdomain] at hc ⊢
    cases hc
    refine ⟨⟨draw, rfl, rfl⟩, fun hmark => ?_⟩
    -- the call that marks is answered, so that the mark takes the token away
    obtain ⟨now, hnow⟩ := Option.ne_none_iff_exists'.mp (Option.isNone_eq_false_iff.mp hmark |>
      Option.isSome_iff_ne_none.mp)
    obtain ⟨old, hold, -, rfl, -⟩ := Execution.claim_eq_some.mp hclaimed
    obtain ⟨incidentId, -, rfl⟩ := Option.map_eq_some_iff.mp hdomain
    dsimp only
    rw [reconcileClaimed_table hcalm, hnow, Option.elim_some]
    rw [← PostgresAnswers.processIncident_other_iff] at hcalm
    have htaskId : candidate.taskId = old.taskId := (hkeyed' _ old hold).symm
    rw [htaskId]
    exact unowned_marked rfl fun message hother => hcalm ⟨message, hother⟩

end OneTurn

/-! ## A whole batch -/

variable {table : Execution.Table} {summary : ReconciliationSummary}
  {attempted : List IncidentTaskExecution} {claimed : List Claimed} {batch : Batch}
  {candidate : IncidentTaskExecution} {turn : Turn}

def ReconciliationSummary.Balanced (summary : ReconciliationSummary) : Prop :=
  summary.claimed = summary.succeeded + summary.retryableFailures + summary.permanentFailures

theorem ReconciliationSummary.count_spec {ending : TurnEnd} (hbalanced : summary.Balanced)
    (hending : ∀ message, ending ≠ .raised message) :
    (summary.count ending).Balanced ∧ (summary.count ending).discovered = summary.discovered ∧
      (summary.count ending).claimed + (summary.count ending).skipped =
        summary.claimed + summary.skipped + 1 := by
  unfold Balanced at hbalanced ⊢
  match ending with
  | .raised message => exact absurd rfl (hending message)
  | .skipped => exact ⟨hbalanced, rfl, rfl⟩
  | .reconciled outcome =>
    refine ⟨?_, ?_, ?_⟩
    · cases outcome <;> simp only [count] <;> omega
    · cases outcome <;> rfl
    · cases outcome <;> simp only [count] <;> omega

theorem reconcileFrom_of_mapped (h : turn.Mapped table candidate) :
    (∀ message, (takeTurn table candidate turn).1 ≠ .raised message) ∧
      reconcileFrom table summary attempted claimed ((candidate, turn) :: batch) =
        reconcileFrom (takeTurn table candidate turn).2.2
          (summary.count (takeTurn table candidate turn).1) (attempted ++ [candidate])
          (claimed ++ (takeTurn table candidate turn).2.1.toList) batch := by
  have hnot : ∀ message, (takeTurn table candidate turn).1 ≠ .raised message :=
    fun message hraised => takeTurn_raised.mp ⟨message, hraised⟩ h
  refine ⟨hnot, ?_⟩
  conv_lhs => unfold reconcileFrom
  dsimp only
  split
  · rename_i message hraised
    exact absurd hraised (hnot message)
  · rfl

theorem reconcileFrom_raised (h : ¬ Batch.Mapped table batch) :
    ∃ message, (reconcileFrom table summary attempted claimed batch).summary = .error message := by
  induction batch generalizing table summary attempted claimed with
  | nil => exact absurd trivial h
  | cons entry batch ih =>
    obtain ⟨candidate, turn⟩ := entry
    by_cases hturn : turn.Mapped table candidate
    · rw [(reconcileFrom_of_mapped hturn).2]
      exact ih fun hrest => h ⟨hturn, hrest⟩
    · obtain ⟨message, hraised⟩ := takeTurn_raised.mpr hturn
      refine ⟨message, ?_⟩
      unfold reconcileFrom
      dsimp only
      rw [hraised]

theorem Batch.Fresh.tail (h : Batch.Fresh ((candidate, turn) :: batch)) : Batch.Fresh batch := by
  have hsub : ∀ token ∈ Batch.tokens batch, token ∈ Batch.tokens ((candidate, turn) :: batch) := by
    intro token htoken
    obtain ⟨entry, hentry, hdraws⟩ := List.mem_filterMap.mp htoken
    exact List.mem_filterMap.mpr ⟨entry, List.mem_cons_of_mem _ hentry, hdraws⟩
  refine ⟨?_, fun entry hentry other hother token htoken =>
    h.others entry (List.mem_cons_of_mem _ hentry) other hother token (hsub token htoken)⟩
  exact h.nodup.sublist ((List.sublist_cons_self _ _).filterMap _)

/-- The token of a claim is drawn in no later turn. -/
theorem Batch.Fresh.not_draws (h : Batch.Fresh ((candidate, turn) :: batch)) {draw : ClaimDraw}
    (hclaim : turn.claim = some draw) :
    ∀ entry ∈ batch, ¬ entry.2.Draws draw.reconciliationToken := by
  have htokens : Batch.tokens ((candidate, turn) :: batch) =
      draw.reconciliationToken :: Batch.tokens batch := by
    simp [Batch.tokens, hclaim]
  intro entry hentry hdraws
  obtain ⟨draw', hclaim', heq⟩ | ⟨other, hother, hdrawn⟩ := hdraws
  · have hnodup := h.nodup
    rw [htokens, List.nodup_cons] at hnodup
    exact hnodup.1 (List.mem_filterMap.mpr ⟨entry, hentry, by simp [hclaim', heq]⟩)
  · refine h.others entry (List.mem_cons_of_mem _ hentry) other hother _ ?_ hdrawn
    rw [htokens]
    exact List.mem_cons_self

theorem reconcileFrom_mapped (hkeyed : Keyed table) (hfresh : batch.Fresh)
    (hmapped : Batch.Mapped table batch) (hbalanced : summary.Balanced)
    (hreleased : ∀ c ∈ claimed, c.markFailed = false → Unowned table c.taskId c.token)
    (hspared : ∀ c ∈ claimed, ∀ entry ∈ batch, ¬ entry.2.Draws c.token) :
    (reconcileFrom table summary attempted claimed batch).attempted =
        attempted ++ batch.map Prod.fst ∧
    (∃ total, (reconcileFrom table summary attempted claimed batch).summary = .ok total ∧
      total.Balanced ∧ total.discovered = summary.discovered ∧
      total.claimed + total.skipped = summary.claimed + summary.skipped + batch.length) ∧
    ∀ c ∈ (reconcileFrom table summary attempted claimed batch).claimed, c.markFailed = false →
      Unowned (reconcileFrom table summary attempted claimed batch).table c.taskId c.token := by
  induction batch generalizing table summary attempted claimed with
  | nil => exact ⟨(List.append_nil _).symm, ⟨summary, rfl, hbalanced, rfl, rfl⟩, hreleased⟩
  | cons entry batch ih =>
    obtain ⟨candidate, turn⟩ := entry
    obtain ⟨hturn, hrest⟩ := hmapped
    obtain ⟨hnot, hstep⟩ := @reconcileFrom_of_mapped table summary attempted claimed batch _ _ hturn
    obtain ⟨hbalanced', hdiscovered, hsum⟩ := ReconciliationSummary.count_spec hbalanced hnot
    have hspares := @spares_takeTurn table candidate turn
    -- the turn spares the tokens of the earlier claims, and its own claim is released by its end
    have hreleased' : ∀ c ∈ claimed ++ (takeTurn table candidate turn).2.1.toList,
        c.markFailed = false → Unowned (takeTurn table candidate turn).2.2 c.taskId c.token := by
      intro c hc hmark
      obtain hc | hc := List.mem_append.mp hc
      · exact hspares.unowned c.token (hspared c hc _ List.mem_cons_self) _ (hreleased c hc hmark)
      · exact (takeTurn_released hkeyed hturn (Option.mem_toList.mp hc)).2 hmark
    have hspared' : ∀ c ∈ claimed ++ (takeTurn table candidate turn).2.1.toList,
        ∀ entry ∈ batch, ¬ entry.2.Draws c.token := by
      intro c hc entry hentry
      obtain hc | hc := List.mem_append.mp hc
      · exact hspared c hc entry (List.mem_cons_of_mem _ hentry)
      · obtain ⟨⟨draw, hclaim, htoken⟩, -⟩ :=
          takeTurn_released hkeyed hturn (Option.mem_toList.mp hc)
        rw [← htoken]
        exact hfresh.not_draws hclaim entry hentry
    rw [hstep]
    obtain ⟨hattempted, ⟨total, htotal, htotalBalanced, htotalDiscovered, htotalSum⟩, hend⟩ :=
      @ih (takeTurn table candidate turn).2.2 (summary.count (takeTurn table candidate turn).1)
        (attempted ++ [candidate]) (claimed ++ (takeTurn table candidate turn).2.1.toList)
        (hspares.keyed hkeyed) hfresh.tail hrest hbalanced' hreleased' hspared'
    refine ⟨by simp [hattempted], ⟨total, htotal, htotalBalanced,
      htotalDiscovered.trans hdiscovered, ?_⟩, hend⟩
    rw [htotalSum, hsum, List.length_cons, Nat.add_assoc, Nat.add_comm 1]

/-- A batch is isolated if and only if no candidate of it meets an error of a claim call or an
exception that is not mapped. -/
theorem batch_isolated_iff (hkeyed : Keyed table) (hfresh : batch.Fresh) :
    (reconcileOnce table batch).Isolated batch ↔ Batch.Mapped table batch := by
  constructor
  · intro hisolated
    by_contra hmapped
    obtain ⟨summary, hok, -⟩ := hisolated.summary
    obtain ⟨message, herror⟩ :=
      @reconcileFrom_raised table ⟨batch.length, 0, 0, 0, 0, 0⟩ [] [] batch
      hmapped
    cases hok.symm.trans herror
  · intro hmapped
    obtain ⟨hattempted, ⟨total, htotal, hbalanced, hdiscovered, hsum⟩, hreleased⟩ :=
      @reconcileFrom_mapped table ⟨batch.length, 0, 0, 0, 0, 0⟩ [] [] batch hkeyed hfresh
        hmapped rfl
        nofun nofun
    refine ⟨hattempted, ⟨total, htotal, hdiscovered, ?_, hbalanced⟩, hreleased⟩
    rw [hdiscovered, hsum]
    exact (Nat.zero_add _).symm

def waitingItem (u : Uuid) : Execution.Item :=
  Execution.acceptedItem
    { taskId := u.str
      taskType := "incident.processing.requested"
      schemaVersion := "1.0"
      producer := "opsflow-backend"
      idempotencyKey := "incident:" ++ u.str
      correlationId := "request-1"
      payload := .object [("incident_id", .string u.str)]
      createdAt := "2026-01-01T00:00:00+00:00"
      causationId := none
      taskMetadata := none } u.str "2026-01-01T00:00:01+00:00" 1767830400

def waitingExecution (u : Uuid) : IncidentTaskExecution where
  taskId := u.str
  incidentId := u
  taskType := "incident.processing.requested"
  correlationId := "request-1"
  createdAt := "2026-01-01T00:00:00+00:00"
  status := .readyForIncidentService
  reconciliationAttempts := 0
  leaseExpiresAt := none
  reconciliationToken := none

def waitingTable : Execution.Table := fun taskId =>
  if taskId = Uuid.str 1 then some (waitingItem 1)
  else if taskId = Uuid.str 2 then some (waitingItem 2) else none

theorem waitingTable_first : waitingTable (Uuid.str 1) = some (waitingItem 1) := if_pos rfl

theorem waitingTable_keyed : Keyed waitingTable := by
  intro taskId item hitem
  unfold waitingTable at hitem
  split_ifs at hitem with hfirst hsecond
  · cases hitem
    exact hfirst.symm
  · cases hitem
    exact hsecond.symm

def waitingTurn (token : String) (answers : PostgresAnswers) (beforeClaim : List Other) : Turn where
  beforeClaim := beforeClaim
  claim := some ⟨60, 1767225602, "2026-01-01T00:00:02+00:00", token⟩
  answers := answers
  draw := ⟨0, 0, 0, 1, 2⟩
  beforeMark := []
  mark := some "2026-01-01T00:00:03+00:00"

/-- What is claimed of the waiting tasks before anything else is a task whose incident has its
number. -/
theorem waitingTable_claimed (u : Uuid) {draw : ClaimDraw} {item : Execution.Item}
    {table' : Execution.Table} (hitem : waitingTable u.str = some (waitingItem u))
    (h : Execution.claim waitingTable u.str draw = some (item, table')) :
    ∃ execution, Execution.toDomain item = some execution ∧ execution.taskId = u.str := by
  obtain ⟨old, hold, -, rfl, -⟩ := Execution.claim_eq_some.mp h
  obtain rfl := Option.some.inj (hitem.symm.trans hold)
  unfold Execution.toDomain
  rw [show (Execution.claimed draw (waitingItem u)).incidentId = u.str from rfl, parse?_str]
  exact ⟨_, rfl, rfl⟩

theorem performAll_expired (table : Execution.Table) (taskId : String) :
    performAll table [.expire taskId] taskId = none := by
  simp [performAll, Other.perform]

/-- The first incident is missing; the second task has been deleted before its claim. -/
def calmBatch : Batch :=
  [(waitingExecution 1, waitingTurn "first" ⟨some none, none, none, none, none, none, some ()⟩ []),
    (waitingExecution 2, waitingTurn "second" ⟨none, none, none, none, none, none, some ()⟩
      [.expire (Uuid.str 2)])]

theorem calmBatch_fresh : calmBatch.Fresh := by
  refine ⟨by decide, fun entry hentry other hother token _ => ?_⟩
  simp only [calmBatch, List.mem_cons, List.not_mem_nil, or_false] at hentry
  obtain rfl | rfl := hentry
  · cases hother
  · obtain rfl := List.mem_singleton.mp hother
    exact nofun

theorem calmBatch_isolated : (reconcileOnce waitingTable calmBatch).Isolated calmBatch := by
  refine (batch_isolated_iff waitingTable_keyed calmBatch_fresh).mpr ⟨?_, ?_, trivial⟩
  · refine ⟨_, rfl, fun item table' hclaimed => ?_⟩
    obtain ⟨execution, hdomain, htaskId⟩ := waitingTable_claimed 1 waitingTable_first hclaimed
    refine ⟨execution, hdomain, ?_⟩
    rintro (hparse | ⟨existing, hread, -⟩ | ⟨existing, ⟨hread, -⟩, -⟩ | ⟨hrollback, -⟩)
    · rw [htaskId, parse?_str] at hparse
      cases hparse
    · cases hread
    · cases hread
    · cases hrollback
  · refine ⟨_, rfl, fun item table' hclaimed => ?_⟩
    obtain ⟨old, hold, -⟩ := Execution.claim_eq_some.mp hclaimed
    change performAll _ [.expire (Uuid.str 2)] (Uuid.str 2) = some old at hold
    rw [performAll_expired] at hold
    cases hold

def deletedIncident : Incident where
  id := 1
  title := "Checkout is down"
  serviceId := 0
  severity := .sev1
  status := .opened
  summary := "Payments fail"
  assignee := "on-call"
  startedAt := 0
  resolvedAt := none
  createdAt := 0
  updatedAt := 0
  source := "manual"
  customerImpacting := true
  acknowledgedAt := none
  reportedByEmail := none

/-- The first incident is deleted after it has been read; the second task waits behind it. -/
def deletedBatch : Batch :=
  [(waitingExecution 1, waitingTurn "first"
      ⟨some (some deletedIncident), some none, none, none, none, none, some ()⟩ []),
    (waitingExecution 2,
      waitingTurn "second" ⟨some none, none, none, none, none, none, some ()⟩ [])]

theorem deletedBatch_not_isolated :
    ¬ (reconcileOnce waitingTable deletedBatch).Isolated deletedBatch := by
  intro hisolated
  obtain ⟨summary, hok, -⟩ := hisolated.summary
  have hunmapped : ¬ Batch.Mapped waitingTable deletedBatch := by
    rintro ⟨⟨draw, hclaim, hmapped⟩, -⟩
    obtain rfl := Option.some.inj hclaim
    obtain ⟨execution, -, hcalm⟩ := hmapped _ _ (Execution.claim_eq_some.mpr
      ⟨waitingItem 1, waitingTable_first, rfl, rfl, rfl⟩)
    exact hcalm (.inr (.inl ⟨deletedIncident, rfl, by decide, rfl⟩))
  obtain ⟨message, herror⟩ :=
    @reconcileFrom_raised waitingTable ⟨2, 0, 0, 0, 0, 0⟩ [] [] deletedBatch
    hunmapped
  cases hok.symm.trans herror

end OpsFlow.Incidents
