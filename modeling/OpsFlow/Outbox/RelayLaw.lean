import OpsFlow.Outbox.RelayInv

namespace OpsFlow.Outbox
open RowStore Transition ConditionalStore
open OpsFlow.Incidents (CompletionMessage)

variable {M ι : Type} {outbox : Kind M} {retrySeconds : ι → ℕ} {rows : Table ι Uuid (Row M)}
  {sent : List SqsMessage} {s s' : State M ι} {i : ι} {k : Uuid} {row : Row M} {x : Relay M}
  {label : Label M ι} {labels : List (Label M ι)}

/-! ## Rows, attempts and locks -/

def Relay.row? (outbox : Kind M) : Relay M → Option Uuid
  | .idle | .scanning _ _ => none
  | .selected record | .delivered record | .accepted record | .refused record _ =>
    some (outbox.id record.message)
  | .marked p => some p.key

theorem Relay.Holds.holder (h : x.Holds outbox rows sent i) (hk : x.row? outbox = some k) :
    rows.holder k = some i := by
  cases x with
  | idle => contradiction
  | scanning now candidates => contradiction
  | selected record =>
    obtain rfl := Option.some.inj hk
    exact Table.HoldsOnly.holder (Selected.only h)
  | refused record error =>
    obtain rfl := Option.some.inj hk
    exact Table.HoldsOnly.holder (Selected.only h)
  | delivered record =>
    obtain rfl := Option.some.inj hk
    exact Table.HoldsOnly.holder h.1.only
  | accepted record =>
    obtain rfl := Option.some.inj hk
    exact Table.HoldsOnly.holder h.1.only
  | marked p =>
    obtain rfl := Option.some.inj hk
    exact Table.HoldsOnly.holder h.1

theorem State.Inv.publishAttempts (hi : s.Inv outbox) (hrow : s.rows.committed k = some row) :
    row.publishAttempts = (s.attemptsOn k).length := by
  have h := congrArg Row.publishAttempts (hi.replayed k row hrow)
  rw [Row.replay_attempts] at h
  exact h.trans (Nat.zero_add _)

theorem State.Inv.updatedAt {p : Publication} (hi : s.Inv outbox)
    (hrow : s.rows.committed k = some row) (hp : (s.attemptsOn k).getLast? = some p) :
    row.updatedAt = p.markedAt :=
  (congrArg Row.updatedAt (hi.replayed k row hrow)).trans (Row.replay_updatedAt hp)

/-- Nobody is at work on a published row. -/
theorem State.Inv.free_of_published (hi : s.Inv outbox) (hrow : s.rows.committed k = some row)
    (hstatus : row.publicationStatus = .published) : s.rows.holder k = none := by
  cases hholder : s.rows.holder k with
  | none => rfl
  | some i =>
    obtain ⟨row', hrow', hpending⟩ := (hi.relays i).pending hholder
    rw [hrow] at hrow'
    obtain rfl := Option.some.inj hrow'
    rw [hstatus] at hpending
    contradiction

/-! ## What a step leaves alone -/

variable [DecidableEq ι]

/-- No step takes a row away, or changes its message. -/
theorem Step.keeps (hi : s.Inv outbox) (h : Step outbox retrySeconds s label s')
    (hrow : s.rows.committed k = some row) :
    ∃ row', s'.rows.committed k = some row' ∧ row'.message = row.message ∧
      row'.createdAt = row.createdAt := by
  cases h.move hi with
  | creates message habsent hfree =>
    refine ⟨row, update_eq_some.mpr (.inr ⟨?_, hrow⟩), rfl, rfl⟩
    rintro rfl
    rw [habsent] at hrow
    contradiction
  | commits i p hp =>
    have hholds := hi.relays i
    rw [hp] at hholds
    obtain ⟨honly, row', hcommitted, -, hpending, -⟩ := hholds
    change ∃ row'', (s.rows.commit i).committed k = some row'' ∧ _
    rw [honly.committed_commit, hpending]
    by_cases hk : k = p.key
    · subst hk
      obtain rfl := Option.some.inj (hrow.symm.trans hcommitted)
      exact ⟨row.mark p, update_eq_some.mpr (.inl ⟨rfl, rfl⟩), row.mark_message p,
        row.mark_createdAt p⟩
    · exact ⟨row, update_eq_some.mpr (.inr ⟨hk, hrow⟩), rfl, rfl⟩
  | goesOn i x _ _ hcommitted _ _ _ =>
    rw [hcommitted]
    exact ⟨row, hrow, rfl, rfl⟩

/-- Only a creation brings a row in. -/
theorem Step.old (hi : s.Inv outbox) (h : Step outbox retrySeconds s label s')
    (hlabel : ∀ message, label ≠ .create message) (hrow : s'.rows.committed k = some row) :
    ∃ old, s.rows.committed k = some old ∧ old.message = row.message := by
  cases h.move hi with
  | creates message habsent hfree => exact absurd rfl (hlabel message)
  | commits i p hp =>
    have hholds := hi.relays i
    rw [hp] at hholds
    obtain ⟨honly, old, hcommitted, -, hpending, -⟩ := hholds
    change (s.rows.commit i).committed k = some row at hrow
    rw [honly.committed_commit, hpending] at hrow
    obtain ⟨rfl, rfl⟩ | ⟨-, hrow⟩ := update_eq_some.mp hrow
    · exact ⟨old, hcommitted, (old.mark_message p).symm⟩
    · exact ⟨row, hrow, rfl⟩
  | goesOn i x _ _ hcommitted _ _ _ =>
    rw [hcommitted] at hrow
    exact ⟨row, hrow, rfl⟩

/-- What is sent is the publication of a committed row. -/
theorem Step.sent_of_row (hi : s.Inv outbox) (h : Step outbox retrySeconds s label s')
    {message : SqsMessage} (hm : message ∈ s'.sent) : message ∈ s.sent ∨
      ∃ k row, s.rows.committed k = some row ∧ message = outbox.publication row.message := by
  cases h with
  | @deliver i record hp =>
    have hholds := hi.relays i
    rw [hp] at hholds
    obtain ⟨-, row, hcommitted, -, hmessage, -, -⟩ := hholds
    obtain hm | hm := List.mem_append.mp hm
    · exact .inl hm
    · obtain rfl := List.mem_singleton.mp hm
      exact .inr ⟨_, row, hcommitted, by rw [hmessage]⟩
  | _ => exact .inl hm

/-- A published row stays as it is, and it is not selected. -/
theorem Step.published (hi : s.Inv outbox) (h : Step outbox retrySeconds s label s')
    (hrow : s.rows.committed k = some row) (hstatus : row.publicationStatus = .published) :
    s'.rows.committed k = some row ∧ ∀ i, label ≠ .lock i k := by
  refine ⟨?_, ?_⟩
  · cases h.move hi with
    | creates message habsent hfree =>
      refine update_eq_some.mpr (.inr ⟨?_, hrow⟩)
      rintro rfl
      rw [habsent] at hrow
      contradiction
    | commits i p hp =>
      have hfree := hi.free_of_published hrow hstatus
      change s.rows.view i k = some row
      rw [Table.view_of_not_holder (by simp [hfree]), hrow]
    | goesOn i x _ _ hcommitted _ _ _ => rw [hcommitted, hrow]
  · rintro i rfl
    cases h with
    | @lock _ now _ candidates row' hp hfree hrow' hpublishable =>
      obtain rfl := Option.some.inj (hrow.symm.trans hrow')
      have hpending := (of_decide_eq_true hpublishable).1
      rw [hstatus] at hpending
      contradiction

theorem published_run (hi : s.Inv outbox) (hrun : Run (Step outbox retrySeconds) s labels s')
    (hrow : s.rows.committed k = some row) (hstatus : row.publicationStatus = .published) :
    s'.rows.committed k = some row ∧ ∀ i, .lock i k ∉ labels := by
  induction hrun with
  | nil => exact ⟨hrow, fun _ h => by contradiction⟩
  | snoc hrun hstep ih =>
    obtain ⟨hkept, hnever⟩ := ih
    obtain ⟨hkept', hlabel⟩ := hstep.published (hi.run hrun) hkept hstatus
    refine ⟨hkept', fun i hmem => ?_⟩
    obtain hmem | hmem := List.mem_append.mp hmem
    · exact hnever i hmem
    · exact hlabel i (List.mem_singleton.mp hmem).symm

/-- A row is selected only while it is pending, and not before the last attempt on it is
`retrySeconds` ago by the clock of the relay that selects it. -/
theorem Step.lock_waits (hi : s.Inv outbox) (h : Step outbox retrySeconds s (.lock i k) s') :
    ∃ now candidates row, s.relays i = .scanning now (k :: candidates) ∧
      s.rows.committed k = some row ∧ row.publicationStatus = .pending ∧
      ∀ p, (s.attemptsOn k).getLast? = some p →
        row.updatedAt = p.markedAt ∧ row.updatedAt + (retrySeconds i : ℤ) * 1000000 ≤ now := by
  cases h with
  | @lock _ now _ candidates row hp hfree hrow hpublishable =>
    obtain ⟨hstatus, hwhen⟩ := of_decide_eq_true hpublishable
    refine ⟨now, candidates, row, hp, hrow, hstatus, fun p hlast => ?_⟩
    refine ⟨hi.updatedAt hrow hlast, ?_⟩
    obtain hnever | hlong := hwhen
    · -- an attempt was made, so the counter is not zero
      rw [hi.publishAttempts hrow] at hnever
      rw [List.eq_nil_of_length_eq_zero hnever] at hlast
      contradiction
    · exact Int.add_le_of_le_sub_right hlong

/-- The scan of an outbox of a single row. -/
theorem Step.scan_single (i : ι) (k : Uuid) (now : Timestamp) (row : Row M)
    (hp : s.relays i = .idle)
    (hrow : s.rows.committed k = some row)
    (hpublishable : row.publishable (retryBefore (retrySeconds i) now) = true)
    (honly : ∀ k', k' ≠ k → s.rows.committed k' = none) :
    Step outbox retrySeconds s (.scan i now) (s.advance i (.scanning now [k])) := by
  refine .scan hp (fun k' => ?_) (List.pairwise_singleton _ _)
  by_cases hk : k' = k
  · subst hk
    exact iff_of_true List.mem_cons_self ⟨row, hrow, hpublishable⟩
  · refine iff_of_false (by simpa using hk) ?_
    rintro ⟨row', hrow', -⟩
    rw [honly k' hk] at hrow'
    contradiction

/-! ## The two outboxes -/

inductive Subject
  | task
  | completion

abbrev Subject.Message : Subject → Type
  | .task => IncidentTaskOutboxMessage
  | .completion => CompletionMessage

def Subject.kind : (o : Subject) → Kind o.Message
  | .task => taskOutbox
  | .completion => completionOutbox

/-- The message of the queue carries identity and payload of the row. -/
def Subject.Carries : (o : Subject) → o.Message → SqsMessage → Prop
  | .task => IncidentTaskOutboxMessage.CarriedBy
  | .completion => CompletionCarriedBy

theorem Subject.publication_carries (o : Subject) (message : o.Message) :
    o.Carries message (o.kind.publication message) := by
  cases o with
  | task => exact taskPublication_carries message
  | completion => exact completionPublication_carries message

/-- Whatever the relays of an outbox do, and wherever they fail. -/
theorem relay_safe (o : Subject) (retrySeconds : ι → ℕ) {labels : List (Label o.Message ι)}
    {s : State o.Message ι} (hrun : Run (Step o.kind retrySeconds) .start labels s) :
    (∀ k row, s.rows.committed k = some row → row.publicationStatus = .published →
      o.kind.id row.message = k ∧ o.kind.publication row.message ∈ s.sent ∧
      o.Carries row.message (o.kind.publication row.message) ∧
      ∀ labels' s', Run (Step o.kind retrySeconds) s labels' s' →
        s'.rows.committed k = some row ∧ ∀ i, .lock i k ∉ labels') ∧
    (∀ i j k, (s.relays i).row? o.kind = some k → (s.relays j).row? o.kind = some k → i = j) ∧
    (∀ k row, s.rows.committed k = some row →
      row.publishAttempts = s.log.countP fun p => p.key = k) ∧
    (∀ i k s', Step o.kind retrySeconds s (.lock i k) s' →
      ∃ now candidates row, s.relays i = .scanning now (k :: candidates) ∧
        s.rows.committed k = some row ∧ row.publicationStatus = .pending ∧
        ∀ p, (s.attemptsOn k).getLast? = some p →
          row.updatedAt = p.markedAt ∧
            row.updatedAt + (retrySeconds i : ℤ) * 1000000 ≤ now) ∧
    (∀ i s', Step o.kind retrySeconds s (.abort i) s' →
      s'.rows.committed = s.rows.committed ∧ s'.rows.HoldsNothing i ∧ s'.log = s.log) ∧
    ∀ label s', Step o.kind retrySeconds s label s' →
      ∀ k row, s.rows.committed k = some row →
        ∃ row', s'.rows.committed k = some row' ∧ row'.message = row.message ∧
          row'.createdAt = row.createdAt := by
  have hi : s.Inv o.kind := State.Inv.run .start hrun
  refine ⟨fun k row hrow hstatus => ?_, fun i j k hik hjk => ?_, fun k row hrow => ?_,
    fun i k s' hstep => hstep.lock_waits hi, fun i s' hstep => ?_,
    fun label s' hstep k row hrow => hstep.keeps hi hrow⟩
  · exact ⟨hi.keyed k row hrow, hi.published k row hrow hstatus, o.publication_carries row.message,
      fun labels' s' hrun' => published_run hi hrun' hrow hstatus⟩
  · have hholder := (hi.relays i).holder hik
    rw [(hi.relays j).holder hjk] at hholder
    exact (Option.some.inj hholder).symm
  · rw [hi.publishAttempts hrow, List.countP_eq_length_filter]
    rfl
  · cases hstep with
    | abort => exact ⟨rfl, Table.holdsNothing_rollback, rfl⟩

/-- A completion event whose first send fails; the second one, sixteen seconds later, succeeds. -/
theorem relay_safe_retried : ∃ (message : CompletionMessage) (s : State CompletionMessage ℕ),
    Run (Step completionOutbox fun _ => 15) .start [.create message, .scan 0 0, .lock 0 1,
      .refuse 0 "Amazon SQS completion-event publication failed.", .mark 0 5, .commit 0,
      .scan 1 16000000, .lock 1 1, .deliver 1, .acknowledge 1, .mark 1 16000009, .commit 1] s ∧
    (∃ row, s.rows.committed 1 = some row ∧ row.publicationStatus = .published ∧
      row.publishAttempts = 2) ∧
    (∃ sent ∈ s.sent, CompletionCarriedBy message sent) ∧
    ∀ labels s', Run (Step completionOutbox fun _ => 15) s labels s' → ∀ i, .lock i 1 ∉ labels := by
  let message : CompletionMessage :=
    ⟨1, 2, 3, 4, "c", "1.0", "incident.task.completed", .investigating, none, 0⟩
  have h₁ := (Run.nil (State.start : State CompletionMessage ℕ)).snoc
    (@Step.create _ ℕ _ completionOutbox (fun _ => 15) _ message rfl rfl)
  have h₂ := h₁.snoc (Step.scan_single 0 1 0 (.new completionOutbox message) rfl rfl rfl
    fun k hk => Function.update_of_ne hk _ _)
  have h₃ := h₂.snoc (@Step.lock _ ℕ _ completionOutbox (fun _ => 15) _ 0 0 1 []
    (.new completionOutbox message) rfl rfl rfl rfl)
  have h₄ := h₃.snoc (@Step.refuse _ ℕ _ completionOutbox (fun _ => 15) _ 0 ⟨message, 0⟩
    "Amazon SQS completion-event publication failed." (.inl rfl))
  have h₅ := h₄.snoc (@Step.markPublishFailed _ ℕ _ completionOutbox (fun _ => 15) _ 0 ⟨message, 0⟩
    "Amazon SQS completion-event publication failed." (.new completionOutbox message) 5 rfl rfl)
  have h₆ := h₅.snoc (@Step.commit _ ℕ _ completionOutbox (fun _ => 15) _ 0 _ rfl)
  have h₇ := h₆.snoc (Step.scan_single 1 1 16000000
    ((Row.new completionOutbox message).markPublishFailed 5
      "Amazon SQS completion-event publication failed.") rfl rfl rfl fun k hk =>
        (Table.view_write_of_ne hk).trans ((Table.view_write_of_ne hk).trans
          (Function.update_of_ne hk _ _)))
  have h₈ := h₇.snoc (@Step.lock _ ℕ _ completionOutbox (fun _ => 15) _ 1 16000000 1 [] _
    rfl rfl rfl rfl)
  have h₉ := h₈.snoc (@Step.deliver _ ℕ _ completionOutbox (fun _ => 15) _ 1 _ rfl)
  have h₁₀ := h₉.snoc (@Step.acknowledge _ ℕ _ completionOutbox (fun _ => 15) _ 1 _ rfl)
  have h₁₁ := h₁₀.snoc (@Step.markPublished _ ℕ _ completionOutbox (fun _ => 15) _ 1 _ _ 16000009
    rfl rfl)
  have h₁₂ := h₁₁.snoc (@Step.commit _ ℕ _ completionOutbox (fun _ => 15) _ 1 _ rfl)
  obtain ⟨-, hsent, hcarries, hlater⟩ := (relay_safe .completion _ h₁₂).1 1 _ rfl rfl
  exact ⟨message, _, h₁₂, ⟨_, rfl, rfl, rfl⟩, ⟨_, hsent, hcarries⟩,
    fun labels s' hrun => (hlater labels s' hrun).2⟩

end OpsFlow.Outbox
