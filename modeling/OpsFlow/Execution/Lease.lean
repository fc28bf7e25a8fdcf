import OpsFlow.Library.Transition
import OpsFlow.Execution.Record

namespace OpsFlow.Execution
open Transition ConditionalStore

/-! ## Calls and what they leave behind -/

/-- The atomic steps of workers and reconcilers. A crash is a call that is never made; a late or
repeated call is one that is made with an old execution. -/
inductive Call
  | put (task : Task) (incidentId acceptedAt : String) (expiration : ℤ)
  | load (task : Task) (incidentId : String)
  | claim (taskId : String) (draw : ClaimDraw)
  | mark (execution : IncidentTaskExecution) (m : Mark) (now : String)

inductive Outcome
  | created
  | alreadyExists
  | loaded (result : Except TaskExecutionCollisionError Unit)
  | claimed (attributes : Item)
  | notClaimed
  | marked
  | ownershipLost (error : ExecutionStateOwnershipLostError)

def Call.perform (table : Table) : Call → Table × Outcome
  | .put task incidentId acceptedAt expiration =>
    match putExecution table task incidentId acceptedAt expiration with
    | some table' => (table', .created)
    | none => (table, .alreadyExists)
  | .load task incidentId => (table, .loaded (loadExisting table task incidentId))
  | .claim taskId draw =>
    match Execution.claim table taskId draw with
    | some (item, table') => (table', .claimed item)
    | none => (table, .notClaimed)
  | .mark execution m now =>
    match Execution.mark table execution m now with
    | .ok table' => (table', .marked)
    | .error e => (table, .ownershipLost e)

abbrev Event := Call × Outcome

def claimToken (taskId : String) : Event → Option String
  | (.claim k draw, .claimed _) => if k = taskId then some draw.reconciliationToken else none
  | _ => none

def markToken (taskId : String) : Event → Option String
  | (.mark execution _ _, .marked) =>
    if execution.taskId = taskId then execution.reconciliationToken else none
  | _ => none

def drawnToken : Event → Option String
  | (.claim _ draw, _) => some draw.reconciliationToken
  | _ => none

def claims (taskId : String) (log : List Event) : List String := log.filterMap (claimToken taskId)

def marks (taskId : String) (log : List Event) : List String := log.filterMap (markToken taskId)

def drawn (log : List Event) : List String := log.filterMap drawnToken

/-- `token` is that of the most recent successful claim, and no mark has consumed it. -/
def Owner (taskId : String) (log : List Event) (token : String) : Prop :=
  (claims taskId log).getLast? = some token ∧ token ∉ marks taskId log

structure System where
  table : Table
  log : List Event

namespace System

def empty : System := ⟨fun _ => none, []⟩

def after (s : System) (call : Call) : System :=
  let r := call.perform s.table
  ⟨r.1, s.log ++ [(call, r.2)]⟩

/-- A claim draws a fresh token; a worker loads only after its own put has failed. -/
def Admissible (log : List Event) : Call → Prop
  | .claim _ draw => draw.reconciliationToken ∉ drawn log
  | .load task incidentId => ∃ acceptedAt expiration,
      (.put task incidentId acceptedAt expiration, .alreadyExists) ∈ log
  | _ => True

def Step (s : System) (call : Call) (s' : System) : Prop :=
  Admissible s.log call ∧ s' = s.after call

end System

/-! ## The invariant -/

/-- The record of a task in terms of the calls made so far. -/
def Agrees (log : List Event) (taskId : String) : Option Item → Prop
  | none => claims taskId log = []
  | some item =>
    item.reconciliationAttempts = (claims taskId log).length ∧
      ((item.status = .incidentServiceProcessing ∧ ∃ token lease,
          item.reconciliationToken = some token ∧ item.leaseExpiresAt = some lease ∧
          Owner taskId log token) ∨
        (item.status ≠ .incidentServiceProcessing ∧ item.reconciliationToken = none ∧
          item.leaseExpiresAt = none ∧ ∀ token, ¬ Owner taskId log token))

structure System.Inv (s : System) : Prop where
  agrees : ∀ taskId, Agrees s.log taskId (s.table taskId)
  claims_drawn : ∀ taskId, ∀ token ∈ claims taskId s.log, token ∈ drawn s.log
  marks_claimed : ∀ taskId, ∀ token ∈ marks taskId s.log, token ∈ claims taskId s.log
  existing : ∀ task incidentId acceptedAt expiration,
    (.put task incidentId acceptedAt expiration, .alreadyExists) ∈ s.log →
      ∃ item, s.table task.taskId = some item

variable {log log' : List Event} {taskId token : String} {record : Option Item}

theorem Agrees.congr (h : Agrees log taskId record) (hc : claims taskId log' = claims taskId log)
    (hm : marks taskId log' = marks taskId log) : Agrees log' taskId record := by
  unfold Agrees Owner at *
  rw [hc, hm]
  exact h

theorem Owner.unique {token' : String} (h : Owner taskId log token)
    (h' : Owner taskId log token') : token = token' :=
  Option.some.inj (h.1.symm.trans h'.1)

/-- The record is owned exactly by the token of the last claim, while that is unconsumed. -/
theorem Agrees.ownedBy_iff (h : Agrees log taskId record) :
    Owner taskId log token ↔ ∃ item, record = some item ∧ item.ownedBy token := by
  cases record with
  | none =>
    have hnil : claims taskId log = [] := h
    simp [Owner, hnil]
  | some item =>
    obtain ⟨-, ⟨hs, t, _, ht, -, howner⟩ | ⟨hs, -, -, hno⟩⟩ := h
    · constructor
      · intro h'
        exact ⟨item, rfl, hs, by rw [ht, howner.unique h']⟩
      · intro h'
        obtain ⟨_, hitem, -, ht'⟩ := h'
        cases hitem
        rw [ht] at ht'
        cases ht'
        exact howner
    · constructor
      · intro h'
        exact absurd h' (hno token)
      · intro h'
        obtain ⟨_, hitem, hs', -⟩ := h'
        cases hitem
        exact absurd hs' hs

/-! ## Every call keeps it -/

@[simp] theorem claims_append (e : Event) :
    claims taskId (log ++ [e]) = claims taskId log ++ (claimToken taskId e).toList := by
  cases h : claimToken taskId e <;> simp [claims, h]

@[simp] theorem marks_append (e : Event) :
    marks taskId (log ++ [e]) = marks taskId log ++ (markToken taskId e).toList := by
  cases h : markToken taskId e <;> simp [marks, h]

@[simp] theorem drawn_append (e : Event) :
    drawn (log ++ [e]) = drawn log ++ (drawnToken e).toList := by
  cases h : drawnToken e <;> simp [drawn, h]

namespace System

variable {s s' : System} {call : Call} {table' : Table} {e : Event}

/-- An event that is neither a successful claim nor a successful mark. -/
theorem inv_quiet (hi : s.Inv) (hc : ∀ k, claimToken k e = none) (hm : ∀ k, markToken k e = none)
    (ht : ∀ k, Agrees s.log k (table' k))
    (he : ∀ task incidentId acceptedAt expiration,
      (.put task incidentId acceptedAt expiration, .alreadyExists) ∈ s.log ++ [e] →
        ∃ item, table' task.taskId = some item) :
    Inv ⟨table', s.log ++ [e]⟩ := by
  refine ⟨fun k => (ht k).congr (by simp [hc]) (by simp [hm]), ?_, ?_, he⟩
  · intro k t h
    simp only [claims_append, hc, Option.toList_none, List.append_nil] at h
    simp [hi.claims_drawn k t h]
  · intro k t h
    simp only [marks_append, hm, Option.toList_none, List.append_nil] at h
    simp [hi.marks_claimed k t h]

/-- What exists goes on existing, whatever is written under some key. -/
theorem existing_update (hi : s.Inv) {k : String} {item : Item}
    (he : ∀ task incidentId acceptedAt expiration,
      e ≠ (.put task incidentId acceptedAt expiration, .alreadyExists))
    (task : Task) (incidentId acceptedAt : String) (expiration : ℤ)
    (h : (.put task incidentId acceptedAt expiration, .alreadyExists) ∈ s.log ++ [e]) :
    ∃ old, Function.update s.table k (some item) task.taskId = some old := by
  rw [List.mem_append, List.mem_singleton] at h
  rcases h with h | h
  · obtain ⟨old, hold⟩ := hi.existing _ _ _ _ h
    by_cases hk : task.taskId = k
    · exact ⟨item, by simp [hk]⟩
    · exact ⟨old, by simpa [Function.update_of_ne hk] using hold⟩
  · exact absurd h.symm (he _ _ _ _)

theorem inv_rejected (hi : s.Inv) (hc : ∀ k, claimToken k e = none)
    (hm : ∀ k, markToken k e = none)
    (he : ∀ task incidentId acceptedAt expiration,
      e ≠ (.put task incidentId acceptedAt expiration, .alreadyExists)) :
    Inv ⟨s.table, s.log ++ [e]⟩ := by
  refine inv_quiet hi hc hm hi.agrees ?_
  intro task incidentId acceptedAt expiration h
  rw [List.mem_append, List.mem_singleton] at h
  rcases h with h | h
  · exact hi.existing _ _ _ _ h
  · exact absurd h.symm (he _ _ _ _)

theorem inv_alreadyExists (hi : s.Inv) {task : Task} {incidentId acceptedAt : String}
    {expiration : ℤ} (h : ∃ old, s.table task.taskId = some old) :
    Inv ⟨s.table, s.log ++ [(.put task incidentId acceptedAt expiration, .alreadyExists)]⟩ := by
  refine inv_quiet hi (fun _ => rfl) (fun _ => rfl) hi.agrees ?_
  intro task' incidentId' acceptedAt' expiration' hmem
  rw [List.mem_append, List.mem_singleton] at hmem
  rcases hmem with hmem | hmem
  · exact hi.existing _ _ _ _ hmem
  · cases hmem
    exact h

theorem inv_created (hi : s.Inv) {task : Task} {incidentId acceptedAt : String} {expiration : ℤ}
    (habsent : s.table task.taskId = none) :
    Inv ⟨Function.update s.table task.taskId
        (some (acceptedItem task incidentId acceptedAt expiration)),
      s.log ++ [(.put task incidentId acceptedAt expiration, .created)]⟩ := by
  refine inv_quiet hi (fun _ => rfl) (fun _ => rfl) ?_ (existing_update hi (by simp))
  intro k
  by_cases hk : k = task.taskId
  · subst hk
    have hnil : claims task.taskId s.log = [] := by
      have hagrees := hi.agrees task.taskId
      rwa [habsent] at hagrees
    simp [Agrees, Owner, acceptedItem, hnil]
  · simpa [Function.update_of_ne hk] using hi.agrees k

theorem inv_claimed (hi : s.Inv) {k : String} {draw : ClaimDraw} {item : Item}
    (hfresh : draw.reconciliationToken ∉ drawn s.log) (hitem : s.table k = some item) :
    Inv ⟨Function.update s.table k (some (claimed draw item)),
      s.log ++ [(.claim k draw, .claimed (claimed draw item))]⟩ := by
  refine ⟨?_, ?_, ?_, existing_update hi (by simp)⟩
  · intro j
    by_cases hj : j = k
    · subst hj
      have hagrees := hi.agrees j
      rw [hitem] at hagrees
      have hunused : draw.reconciliationToken ∉ marks j s.log :=
        fun hc => hfresh (hi.claims_drawn j _ (hi.marks_claimed j _ hc))
      simp [Agrees, Owner, claimed, claimToken, markToken, hagrees.1, hunused]
    · simp only [Function.update_of_ne hj]
      exact (hi.agrees j).congr (by simp [claimToken, Ne.symm hj]) (by simp [markToken])
  · intro j t ht
    simp only [claims_append, claimToken, List.mem_append] at ht
    simp only [drawn_append, drawnToken, List.mem_append]
    rcases ht with ht | ht
    · exact .inl (hi.claims_drawn j t ht)
    · refine .inr ?_
      split_ifs at ht
      · exact ht
      · cases ht
  · intro j t ht
    simp only [marks_append, markToken, Option.toList_none, List.append_nil] at ht
    simp [hi.marks_claimed j t ht]

theorem inv_marked (hi : s.Inv) {execution : IncidentTaskExecution} {m : Mark} {now token : String}
    {item : Item} (htoken : execution.reconciliationToken = some token)
    (hitem : s.table execution.taskId = some item) (howned : item.ownedBy token) :
    Inv ⟨Function.update s.table execution.taskId (some (m.apply now item)),
      s.log ++ [(.mark execution m now, .marked)]⟩ := by
  have howner : Owner execution.taskId s.log token :=
    (hi.agrees execution.taskId).ownedBy_iff.mpr ⟨item, hitem, howned⟩
  refine ⟨?_, ?_, ?_, existing_update hi (by simp)⟩
  · intro j
    by_cases hj : j = execution.taskId
    · subst hj
      have hagrees := hi.agrees execution.taskId
      rw [hitem] at hagrees
      simp only [Function.update_self]
      refine ⟨by simp [claimToken, hagrees.1],
        .inr ⟨m.apply_status now item, by simp, by simp, fun t ht => ht.2 ?_⟩⟩
      -- the only token that could own the record is the one just consumed
      have hlast : some t = some token := by
        rw [← ht.1, ← howner.1]
        simp [claimToken]
      simp [markToken, htoken, Option.some.inj hlast]
    · simp only [Function.update_of_ne hj]
      exact (hi.agrees j).congr (by simp [claimToken]) (by simp [markToken, Ne.symm hj])
  · intro j t ht
    simp only [claims_append, claimToken, Option.toList_none, List.append_nil] at ht
    simp [hi.claims_drawn j t ht]
  · intro j t ht
    simp only [marks_append, markToken, List.mem_append] at ht
    simp only [claims_append, claimToken, Option.toList_none, List.append_nil]
    rcases ht with ht | ht
    · exact hi.marks_claimed j t ht
    · split_ifs at ht with hj
      · subst hj
        rw [htoken, Option.toList_some, List.mem_singleton] at ht
        rw [ht]
        exact List.mem_of_getLast? howner.1
      · cases ht

theorem inv_step (hi : s.Inv) (h : Step s call s') : s'.Inv := by
  obtain ⟨hadm, rfl⟩ := h
  cases call with
  | put task incidentId acceptedAt expiration =>
    cases h : putExecution s.table task incidentId acceptedAt expiration with
    | none =>
      simp only [after, Call.perform, h]
      exact inv_alreadyExists hi (putIfAbsent_eq_none.mp h)
    | some table' =>
      simp only [after, Call.perform, h]
      obtain ⟨habsent, rfl⟩ := putIfAbsent_eq_some.mp h
      exact inv_created hi habsent
  | load task incidentId => exact inv_rejected hi (fun _ => rfl) (fun _ => rfl) (by simp)
  | claim taskId draw =>
    cases h : Execution.claim s.table taskId draw with
    | none =>
      simp only [after, Call.perform, h]
      exact inv_rejected hi (fun _ => rfl) (fun _ => rfl) (by simp)
    | some r =>
      obtain ⟨item, hitem, -, hnew, htable⟩ := claim_eq_some.mp h
      simp only [after, Call.perform, h, ← htable, ← hnew]
      exact inv_claimed hi hadm hitem
  | mark execution m now =>
    cases h : Execution.mark s.table execution m now with
    | error e =>
      simp only [after, Call.perform, h]
      exact inv_rejected hi (fun _ => rfl) (fun _ => rfl) (by simp)
    | ok table' =>
      simp only [after, Call.perform, h]
      obtain ⟨token, item, htoken, hitem, howned, rfl⟩ := mark_eq_ok.mp h
      exact inv_marked hi htoken hitem howned

theorem inv_empty : empty.Inv := by
  refine ⟨fun _ => rfl, ?_, ?_, ?_⟩ <;> simp [empty, claims, marks]

theorem inv_run {calls : List Call} (h : Run Step empty calls s) : s.Inv :=
  h.invariant (fun _ _ _ hi hs => inv_step hi hs) inv_empty

/-! ## The law of the lease -/

/-- A finished record is neither claimable nor owned, and its key is taken. -/
theorem perform_finished {table : Table} {item : Item} (hitem : table taskId = some item)
    (hs : item.status = .succeeded ∨ item.status = .failed) (call : Call) :
    (call.perform table).1 taskId = some item := by
  have hready : item.status ≠ .readyForIncidentService := by rcases hs with hs | hs <;> simp [hs]
  have hprocessing : item.status ≠ .incidentServiceProcessing := by
    rcases hs with hs | hs <;> simp [hs]
  cases call with
  | put task incidentId acceptedAt expiration =>
    cases h : putExecution table task incidentId acceptedAt expiration with
    | none => simpa [Call.perform, h] using hitem
    | some table' =>
      obtain ⟨habsent, rfl⟩ := putIfAbsent_eq_some.mp h
      -- the key of the finished record is taken
      have hk : taskId ≠ task.taskId := by
        intro hk
        rw [hk, habsent] at hitem
        cases hitem
      simpa [Call.perform, h, Function.update_of_ne hk] using hitem
  | load task incidentId => exact hitem
  | claim k draw =>
    cases h : Execution.claim table k draw with
    | none => simpa [Call.perform, h] using hitem
    | some r =>
      obtain ⟨old, hold, hclaimable, -, htable⟩ := claim_eq_some.mp h
      -- a finished record fails the condition of the claim
      have hk : taskId ≠ k := by
        intro hk
        rw [← hk, hitem] at hold
        cases hold
        simp [claimable, hready, hprocessing] at hclaimable
      simpa [Call.perform, h, ← htable, Function.update_of_ne hk] using hitem
  | mark execution m now =>
    cases h : Execution.mark table execution m now with
    | error e => simpa [Call.perform, h] using hitem
    | ok table' =>
      obtain ⟨token, old, -, hold, howned, rfl⟩ := mark_eq_ok.mp h
      have hk : taskId ≠ execution.taskId := by
        intro hk
        rw [← hk, hitem] at hold
        cases hold
        exact hprocessing howned.1
      simpa [Call.perform, h, Function.update_of_ne hk] using hitem

/-- The execution carries the token of the most recent successful claim, not yet consumed. -/
def Owns (s : System) (execution : IncidentTaskExecution) : Prop :=
  ∃ token, execution.reconciliationToken = some token ∧ Owner execution.taskId s.log token

theorem Inv.mark_ok_iff (hi : s.Inv) (execution : IncidentTaskExecution) (m : Mark)
    (now : String) :
    (∃ table', Execution.mark s.table execution m now = .ok table') ↔ s.Owns execution := by
  constructor
  · intro h
    obtain ⟨table', h⟩ := h
    obtain ⟨token, item, htoken, hitem, howned, -⟩ := mark_eq_ok.mp h
    exact ⟨token, htoken, (hi.agrees _).ownedBy_iff.mpr ⟨item, hitem, howned⟩⟩
  · intro h
    obtain ⟨token, htoken, howner⟩ := h
    obtain ⟨item, hitem, howned⟩ := (hi.agrees _).ownedBy_iff.mp howner
    exact ⟨_, mark_eq_ok.mpr ⟨token, item, htoken, hitem, howned, rfl⟩⟩

/-- The safety of the lease in one state. -/
structure LeaseLaw (s : System) : Prop where
  finished : ∀ k item, s.table k = some item →
    item.status = .succeeded ∨ item.status = .failed →
    ∀ calls s', Run Step s calls s' → s'.table k = some item
  owner : ∀ execution m now, s.Owns execution →
    ∃ item, s.table execution.taskId = some item ∧ m.apply now item ≠ item ∧
      Call.perform s.table (.mark execution m now) =
        (Function.update s.table execution.taskId (some (m.apply now item)), .marked)
  notOwner : ∀ execution m now, ¬ s.Owns execution →
    ∃ e, Call.perform s.table (.mark execution m now) = (s.table, .ownershipLost e)
  leased : ∀ k item, s.table k = some item →
    (item.reconciliationToken.isSome ↔ item.status = .incidentServiceProcessing) ∧
      (item.leaseExpiresAt.isSome ↔ item.status = .incidentServiceProcessing)
  attempts : ∀ k item, s.table k = some item →
    item.reconciliationAttempts = (claims k s.log).length

/-- Whatever workers and reconcilers do, in whatever order and at whatever clock readings. -/
theorem lease_safety (calls : List Call) (s : System) (h : Run Step empty calls s) :
    LeaseLaw s := by
  have hi := inv_run h
  refine ⟨?_, ?_, ?_, ?_, ?_⟩
  · intro k item hitem hs calls' s' hrun
    have hstep : ∀ s₁ call s₂, s₁.table k = some item → Step s₁ call s₂ →
        s₂.table k = some item := by
      intro s₁ call s₂ h₁ h₂
      rw [h₂.2]
      exact perform_finished h₁ hs call
    exact hrun.invariant hstep hitem
  · intro execution m now howns
    obtain ⟨table', hmark⟩ := (hi.mark_ok_iff execution m now).mpr howns
    obtain ⟨token, item, -, hitem, howned, rfl⟩ := mark_eq_ok.mp hmark
    refine ⟨item, hitem, ?_, by simp [Call.perform, hmark]⟩
    intro heq
    exact m.apply_status now item (by rw [heq, howned.1])
  · intro execution m now hnot
    cases hmark : Execution.mark s.table execution m now with
    | error e => exact ⟨e, by simp [Call.perform, hmark]⟩
    | ok table' => exact absurd ((hi.mark_ok_iff execution m now).mp ⟨table', hmark⟩) hnot
  · intro k item hitem
    have hagrees := hi.agrees k
    rw [hitem] at hagrees
    obtain ⟨-, ⟨hs, token, lease, htoken, hlease, -⟩ | ⟨hs, htoken, hlease, -⟩⟩ := hagrees
    · simp [hs, htoken, hlease]
    · simp [hs, htoken, hlease]
  · intro k item hitem
    have hagrees := hi.agrees k
    rw [hitem] at hagrees
    exact hagrees.1

def claimedExecution (attempts : ℕ) (token : String) : IncidentTaskExecution :=
  ⟨"t", 1, "incident.process", "c", "2026", .incidentServiceProcessing, attempts, some 60,
    some token⟩

/-- The lease of the first claim expires and a second one takes the task over, before the first
reconciler marks it. -/
def takeover : List Call :=
  [.put ⟨"t", "incident.process", "1.0", "api", "key", "c", .null, "2026", none, none⟩ "i"
    "2026" 60, .claim "t" ⟨60, 0, "2026", "a"⟩, .claim "t" ⟨60, 60, "2026", "b"⟩,
    .mark (claimedExecution 1 "a") (.failed "late") "2026",
    .mark (claimedExecution 2 "b") (.succeeded .null) "2026"]

theorem lease_safety_claimed :
    LeaseLaw (takeover.foldl after empty) ∧ ((takeover.foldl after empty).table "t").map
      (fun item => (item.status, item.reconciliationAttempts)) = some (.succeeded, 2) := by
  have hrun : Run Step empty takeover (takeover.foldl after empty) := by
    refine .cons ⟨trivial, rfl⟩ (.cons ⟨?_, rfl⟩ (.cons ⟨?_, rfl⟩
      (.cons ⟨trivial, rfl⟩ (.single ⟨trivial, rfl⟩))))
    · change "a" ∉ drawn _
      simp [after, empty, drawn, drawnToken]
    · change "b" ∉ drawn _
      simp [after, empty, drawn, drawnToken]
  exact ⟨lease_safety takeover _ hrun, by decide +kernel⟩

/-- A worker whose put has failed always finds the record that it then checks. -/
theorem Inv.load_finds (hi : s.Inv) {task : Task} {incidentId : String}
    (h : Admissible s.log (.load task incidentId)) :
    ∃ existing, s.table task.taskId = some existing ∧
      loadExisting s.table task incidentId = validateExistingRecord existing task incidentId := by
  obtain ⟨acceptedAt, expiration, hmem⟩ := h
  obtain ⟨existing, hexisting⟩ := hi.existing _ _ _ _ hmem
  exact ⟨existing, hexisting, by simp [loadExisting, hexisting]⟩

end System

end OpsFlow.Execution
