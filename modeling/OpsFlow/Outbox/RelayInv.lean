import OpsFlow.Outbox.Relay

namespace OpsFlow.Outbox
open RowStore Transition ConditionalStore

variable {M ι : Type}

/-! ## What a relay holds -/

/-- The relay holds the row of its record, has not changed it, and nobody has published it. -/
structure Selected (outbox : Kind M) (rows : Table ι Uuid (Row M)) (i : ι) (record : Record M) :
    Prop where
  only : rows.HoldsOnly i (outbox.id record.message)
  row : ∃ row, rows.committed (outbox.id record.message) = some row ∧
    rows.pending (outbox.id record.message) = some row ∧ row.message = record.message ∧
    row.publishAttempts = record.publishAttempts ∧ row.publicationStatus = .pending

def Relay.Holds (outbox : Kind M) (rows : Table ι Uuid (Row M)) (sent : List SqsMessage) (i : ι) :
    Relay M → Prop
  | .idle | .scanning _ _ => rows.HoldsNothing i
  | .selected record | .refused record _ => Selected outbox rows i record
  | .delivered record | .accepted record =>
    Selected outbox rows i record ∧ outbox.publication record.message ∈ sent
  | .marked p => rows.HoldsOnly i p.key ∧ ∃ row, rows.committed p.key = some row ∧
      row.publicationStatus = .pending ∧ rows.pending p.key = some (row.mark p) ∧
      (p.outcome = .published → outbox.publication row.message ∈ sent)

def State.attemptsOn (s : State M ι) (k : Uuid) : List Publication :=
  s.log.filter fun p => p.key = k

structure State.Inv (outbox : Kind M) (s : State M ι) : Prop where
  relays : ∀ i, (s.relays i).Holds outbox s.rows s.sent i
  keyed : ∀ k row, s.rows.committed k = some row → outbox.id row.message = k
  replayed : ∀ k row, s.rows.committed k = some row →
    row = (Row.new outbox row.message).replay (s.attemptsOn k)
  published : ∀ k row, s.rows.committed k = some row → row.publicationStatus = .published →
    outbox.publication row.message ∈ s.sent
  logged : ∀ p ∈ s.log, ∃ row, s.rows.committed p.key = some row

variable {outbox : Kind M} {rows rows' : Table ι Uuid (Row M)} {sent sent' : List SqsMessage}
  {retrySeconds : ι → ℕ} {s s' : State M ι} {i j : ι} {k : Uuid} {record : Record M}
  {x : Relay M} {label : Label M ι}

theorem Selected.frame (h : Selected outbox rows i record)
    (hrows : Table.Undisturbed i rows rows') : Selected outbox rows' i record := by
  obtain ⟨honly, row, hcommitted, hpending, hrest⟩ := h
  refine ⟨hrows.holdsOnly honly, row, ?_, ?_, hrest⟩
  · rw [hrows.committed _ honly.holder, hcommitted]
  · rw [hrows.pending _ honly.holder, hpending]

/-- A relay is concerned only with the row that it holds. -/
theorem Relay.Holds.frame (h : x.Holds outbox rows sent i)
    (hrows : Table.Undisturbed i rows rows') (hsent : sent ⊆ sent') :
    x.Holds outbox rows' sent' i := by
  cases x with
  | idle => exact hrows.holdsNothing h
  | scanning now candidates => exact hrows.holdsNothing h
  | selected record => exact Selected.frame h hrows
  | refused record error => exact Selected.frame h hrows
  | delivered record => exact ⟨h.1.frame hrows, hsent h.2⟩
  | accepted record => exact ⟨h.1.frame hrows, hsent h.2⟩
  | marked p =>
    obtain ⟨honly, row, hcommitted, hstatus, hpending, haccepted⟩ := h
    refine ⟨hrows.holdsOnly honly, row, ?_, hstatus, ?_, fun hp => hsent (haccepted hp)⟩
    · rw [hrows.committed _ honly.holder, hcommitted]
    · rw [hrows.pending _ honly.holder, hpending]

/-- A row that a relay holds is committed, and it is not published. -/
theorem Relay.Holds.pending (h : x.Holds outbox rows sent i) (hk : rows.holder k = some i) :
    ∃ row, rows.committed k = some row ∧ row.publicationStatus = .pending := by
  have hselected {record : Record M} (hs : Selected outbox rows i record) :
      ∃ row, rows.committed k = some row ∧ row.publicationStatus = .pending := by
    obtain ⟨honly, row, hcommitted, -, -, -, hstatus⟩ := hs
    obtain rfl := (honly k).mp hk
    exact ⟨row, hcommitted, hstatus⟩
  cases x with
  | idle => exact absurd hk (h k)
  | scanning now candidates => exact absurd hk (h k)
  | selected record => exact hselected h
  | refused record error => exact hselected h
  | delivered record => exact hselected h.1
  | accepted record => exact hselected h.1
  | marked p =>
    obtain ⟨honly, row, hcommitted, hstatus, -⟩ := h
    obtain rfl := (honly k).mp hk
    exact ⟨row, hcommitted, hstatus⟩

/-! ## What a step does -/

/-- To commit a new row disturbs nobody. -/
theorem undisturbed_create {row : Option (Row M)} (hk : rows.holder k = none) :
    Table.Undisturbed i rows { rows with committed := Function.update rows.committed k row } := by
  refine ⟨⟨fun _ => Iff.rfl, fun _ _ => rfl⟩, fun k' hk' => ?_⟩
  have hne : k' ≠ k := by
    rintro rfl
    rw [hk] at hk'
    contradiction
  exact Function.update_of_ne hne _ _

variable [DecidableEq ι]

/-- A step creates a message, or it commits the mark of a relay, or the relay goes on to `x` and
no committed row changes. -/
inductive Move (outbox : Kind M) (s : State M ι) : Label M ι → State M ι → Prop
  | creates (message : M) : s.rows.committed (outbox.id message) = none →
      s.rows.holder (outbox.id message) = none →
      Move outbox s (.create message)
        { s with
          rows := { s.rows with
            committed := Function.update s.rows.committed (outbox.id message)
              (some (.new outbox message)) } }
  | commits (i : ι) (p : Publication) : s.relays i = .marked p →
      Move outbox s (.commit i)
        { s.advance i .idle with rows := s.rows.commit i, log := s.log ++ [p] }
  | goesOn {label : Label M ι} {s' : State M ι} (i : ι) (x : Relay M) :
      s'.relays = Function.update s.relays i x → x.Holds outbox s'.rows s'.sent i →
      s'.rows.committed = s.rows.committed →
      (∀ j, j ≠ i → Table.Undisturbed j s.rows s'.rows) → s.sent ⊆ s'.sent → s'.log = s.log →
      Move outbox s label s'

/-- To the relay that advances, `advance` is all that happens. -/
theorem Move.advance (hx : x.Holds outbox s.rows s.sent i) :
    Move outbox s label (s.advance i x) :=
  .goesOn i x rfl hx rfl (fun j _ => Table.undisturbed_refl j s.rows) (List.Subset.refl _) rfl

/-- The mark changes the row that the relay holds, and no other. -/
theorem Move.mark {row : Row M} {p : Publication} (h : Selected outbox s.rows i record)
    (hkey : p.key = outbox.id record.message)
    (hrow : s.rows.view i (outbox.id record.message) = some row)
    (haccepted : p.outcome = .published → outbox.publication record.message ∈ s.sent) :
    Move outbox s label (s.mark i row p) := by
  obtain ⟨honly, row', hcommitted, hpending, hmessage, -, hstatus⟩ := h
  rw [Table.view_of_holder honly.holder, hpending] at hrow
  obtain rfl := Option.some.inj hrow
  rw [← hkey] at honly hcommitted
  refine .goesOn i (.marked p) rfl ?_ rfl ?_ (List.Subset.refl _) rfl
  · refine ⟨honly.write, row', hcommitted, hstatus, Table.pending_write_self, ?_⟩
    rw [hmessage]
    exact haccepted
  · intro j hj
    exact Table.undisturbed_write (.inr honly.holder) hj

theorem Step.move (hi : s.Inv outbox) (h : Step outbox retrySeconds s label s') :
    Move outbox s label s' := by
  cases h with
  | @create message habsent hfree => exact .creates message habsent hfree
  | @commit i p hp => exact .commits i p hp
  | @scan i now candidates hp hall hsorted =>
    have hholds := hi.relays i
    rw [hp] at hholds
    exact .advance hholds
  | @skipLocked i j now k candidates hp hholder =>
    have hholds := hi.relays i
    rw [hp] at hholds
    exact .advance hholds
  | @skipChanged i now k candidates hp hfree hnot =>
    have hholds := hi.relays i
    rw [hp] at hholds
    exact .advance hholds
  | @finish i now hp =>
    have hholds := hi.relays i
    rw [hp] at hholds
    exact .advance hholds
  | @lock i now k candidates row hp hfree hrow hpublishable =>
    have hholds := hi.relays i
    rw [hp] at hholds
    have hkey := hi.keyed k row hrow
    have hstatus : row.publicationStatus = .pending :=
      (of_decide_eq_true hpublishable).1
    -- the lock is a write of the row as it is
    refine .goesOn i (.selected ⟨row.message, row.publishAttempts⟩) rfl ?_ rfl ?_
      (List.Subset.refl _) rfl
    · subst hkey
      refine ⟨Table.HoldsNothing.write hholds, row, hrow, ?_, rfl, rfl, hstatus⟩
      exact Table.pending_write_self.trans ((Table.HoldsNothing.view hholds).trans hrow)
    · intro j hj
      exact Table.undisturbed_write (.inl hfree) hj
  | @deliver i record hp =>
    have hholds := hi.relays i
    rw [hp] at hholds
    refine .goesOn i (.delivered record) rfl ⟨hholds, ?_⟩ rfl
      (fun j _ => Table.undisturbed_refl j s.rows) (List.subset_append_left _ _) rfl
    exact List.mem_append_right _ List.mem_cons_self
  | @acknowledge i record hp =>
    have hholds := hi.relays i
    rw [hp] at hholds
    exact .advance hholds
  | @refuse i record error hp =>
    have hholds := hi.relays i
    obtain hp | hp := hp
    · rw [hp] at hholds
      exact .advance hholds
    · rw [hp] at hholds
      exact .advance hholds.1
  | @markPublished i record row publishedAt hp hrow =>
    have hholds := hi.relays i
    rw [hp] at hholds
    exact .mark hholds.1 rfl hrow fun _ => hholds.2
  | @markPublishFailed i record error row failedAt hp hrow =>
    have hholds := hi.relays i
    rw [hp] at hholds
    exact .mark hholds rfl hrow (by simp)
  | @abort i =>
    exact .goesOn i .idle rfl Table.holdsNothing_rollback rfl
      (fun j hj => Table.undisturbed_rollback hj) (List.Subset.refl _) rfl

/-! ## Every step keeps the invariant -/

omit [DecidableEq ι] in
theorem State.attemptsOn_snoc {p : Publication} {log : List Publication}
    (h : s'.log = log ++ [p]) : s'.attemptsOn k =
      (log.filter fun p => p.key = k) ++ if p.key = k then [p] else [] := by
  by_cases hp : p.key = k
  · simp [attemptsOn, h, hp]
  · simp [attemptsOn, h, hp]

omit [DecidableEq ι] in
theorem State.Inv.creates {message : M} (hi : s.Inv outbox)
    (habsent : s.rows.committed (outbox.id message) = none)
    (hfree : s.rows.holder (outbox.id message) = none) :
    State.Inv outbox
      { s with
        rows := { s.rows with
          committed := Function.update s.rows.committed (outbox.id message)
            (some (.new outbox message)) } } := by
  refine ⟨fun i => (hi.relays i).frame (undisturbed_create hfree) (List.Subset.refl _),
    fun k row hrow => ?_, fun k row hrow => ?_, fun k row hrow => ?_, fun p hp => ?_⟩
  · obtain ⟨rfl, rfl⟩ | ⟨-, hrow⟩ := update_eq_some.mp hrow
    · rfl
    · exact hi.keyed k row hrow
  · obtain ⟨rfl, rfl⟩ | ⟨-, hrow⟩ := update_eq_some.mp hrow
    · -- nobody can have tried to publish a row that did not exist
      have hnone : s.attemptsOn (outbox.id message) = [] := by
        refine List.filter_eq_nil_iff.mpr fun p hp hkey => ?_
        obtain ⟨row, hrow⟩ := hi.logged p hp
        rw [of_decide_eq_true hkey, habsent] at hrow
        contradiction
      change Row.new outbox message = (Row.new outbox message).replay (s.attemptsOn _)
      rw [hnone]
      rfl
    · exact hi.replayed k row hrow
  · obtain ⟨rfl, rfl⟩ | ⟨-, hrow⟩ := update_eq_some.mp hrow
    · intro hstatus
      contradiction
    · exact hi.published k row hrow
  · obtain ⟨row, hrow⟩ := hi.logged p hp
    refine ⟨row, update_eq_some.mpr (.inr ⟨?_, hrow⟩)⟩
    intro hk
    rw [hk, habsent] at hrow
    contradiction

theorem State.Inv.commits {p : Publication} (hi : s.Inv outbox) (hp : s.relays i = .marked p) :
    State.Inv outbox { s.advance i .idle with rows := s.rows.commit i, log := s.log ++ [p] } := by
  have hholds := hi.relays i
  rw [hp] at hholds
  obtain ⟨honly, row, hcommitted, hstatus, hpending, haccepted⟩ := hholds
  -- of all rows the commit changes the one that has been marked
  have hrows : (s.rows.commit i).committed =
      Function.update s.rows.committed p.key (some (row.mark p)) := by
    rw [honly.committed_commit, hpending]
  refine ⟨fun j => ?_, fun k row' hrow' => ?_, fun k row' hrow' => ?_, fun k row' hrow' => ?_,
    fun p' hp' => ?_⟩
  · by_cases hj : j = i
    · subst hj
      change Relay.Holds outbox _ _ j (Function.update s.relays j Relay.idle j)
      rw [Function.update_self]
      exact Table.holdsNothing_commit
    · change Relay.Holds outbox _ _ j (Function.update s.relays i Relay.idle j)
      rw [Function.update_of_ne hj]
      exact (hi.relays j).frame (Table.undisturbed_commit hj) (List.Subset.refl _)
  · change (s.rows.commit i).committed k = some row' at hrow'
    rw [hrows] at hrow'
    obtain ⟨rfl, rfl⟩ | ⟨-, hrow'⟩ := update_eq_some.mp hrow'
    · rw [Row.mark_message]
      exact hi.keyed _ row hcommitted
    · exact hi.keyed k row' hrow'
  · change (s.rows.commit i).committed k = some row' at hrow'
    rw [hrows] at hrow'
    rw [State.attemptsOn_snoc rfl]
    obtain ⟨rfl, rfl⟩ | ⟨hk, hrow'⟩ := update_eq_some.mp hrow'
    · rw [if_pos rfl, Row.replay_snoc, Row.mark_message]
      exact congrArg (Row.mark · p) (hi.replayed _ row hcommitted)
    · rw [if_neg (Ne.symm hk), List.append_nil]
      exact hi.replayed k row' hrow'
  · change (s.rows.commit i).committed k = some row' at hrow'
    rw [hrows] at hrow'
    obtain ⟨rfl, rfl⟩ | ⟨-, hrow'⟩ := update_eq_some.mp hrow'
    · rw [Row.mark_message, Row.mark_published]
      exact haccepted
    · exact hi.published k row' hrow'
  · change ∃ row', (s.rows.commit i).committed p'.key = some row'
    rw [hrows]
    by_cases hk : p'.key = p.key
    · exact ⟨row.mark p, update_eq_some.mpr (.inl ⟨hk, rfl⟩)⟩
    · obtain hp' | hp' := List.mem_append.mp hp'
      · obtain ⟨row', hrow'⟩ := hi.logged p' hp'
        exact ⟨row', update_eq_some.mpr (.inr ⟨hk, hrow'⟩)⟩
      · exact absurd (congrArg Publication.key (List.mem_singleton.mp hp')) hk

theorem State.Inv.step (hi : s.Inv outbox) (h : Step outbox retrySeconds s label s') :
    s'.Inv outbox := by
  cases h.move hi with
  | creates message habsent hfree => exact hi.creates habsent hfree
  | commits i p hp => exact hi.commits hp
  | goesOn i x hrelays hx hcommitted hothers hsent hlog =>
    have hattempts (k : Uuid) : s'.attemptsOn k = s.attemptsOn k := by
      rw [State.attemptsOn, hlog, State.attemptsOn]
    refine ⟨fun j => ?_, fun k row hrow => ?_, fun k row hrow => ?_, fun k row hrow => ?_,
      fun p hp => ?_⟩
    · rw [hrelays]
      by_cases hj : j = i
      · subst hj
        rw [Function.update_self]
        exact hx
      · rw [Function.update_of_ne hj]
        exact (hi.relays j).frame (hothers j hj) hsent
    · rw [hcommitted] at hrow
      exact hi.keyed k row hrow
    · rw [hcommitted] at hrow
      rw [hattempts]
      exact hi.replayed k row hrow
    · rw [hcommitted] at hrow
      exact fun hstatus => hsent (hi.published k row hrow hstatus)
    · rw [hlog] at hp
      rw [hcommitted]
      exact hi.logged p hp

omit [DecidableEq ι] in
theorem State.Inv.start : (State.start : State M ι).Inv outbox :=
  ⟨fun _ _ h => by contradiction, fun _ _ h => by contradiction, fun _ _ h => by contradiction,
    fun _ _ h => by contradiction, fun _ h => by contradiction⟩

theorem State.Inv.run {labels : List (Label M ι)} (hi : s.Inv outbox)
    (hrun : Run (Step outbox retrySeconds) s labels s') : s'.Inv outbox :=
  hrun.invariant (fun _ _ _ (h : State.Inv outbox _) hstep => h.step hstep) hi

end OpsFlow.Outbox
