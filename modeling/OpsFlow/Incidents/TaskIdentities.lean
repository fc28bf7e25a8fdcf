import OpsFlow.Incidents.ProcessingLaw

namespace OpsFlow.Incidents
open OpsFlow.Contracts
open OpsFlow.Execution (IncidentTaskExecution ClaimDraw HandlerError Item Task text? text?_eq_some
  incidentIdFromTask handleIncidentProcessingRequested)

/-! ## Envelopes of one task -/

/-- What the worker hands to the handler of `incident.processing.requested`. -/
structure AcceptedRequest (members : List (String × Json)) : Prop where
  valid : TaskWorker.validateTaskEnvelope (.object members) = .ok (.object members)
  taskType : text? members "task_type" = some "incident.processing.requested"

def taskUuid? (members : List (String × Json)) : Option Uuid :=
  (text? members "task_id").bind Uuid.parse?

def SameTask (m₁ m₂ : List (String × Json)) : Prop :=
  ∃ id, taskUuid? m₁ = some id ∧ taskUuid? m₂ = some id

def Storable (members : List (String × Json)) : Prop :=
  ∃ incidentId, incidentIdFromTask members = .ok incidentId

/-- If the two are of one task, and the payload of each is in order, then they spell its `task_id`
in one way. -/
def SpelledAlike (m₁ m₂ : List (String × Json)) : Prop :=
  Storable m₁ → Storable m₂ → SameTask m₁ m₂ → text? m₁ "task_id" = text? m₂ "task_id"

/-! ## The execution store over a run -/

/-- What happens to the store: the worker handles an envelope, a reconciler claims or marks a
record, or the table drops one that has expired. -/
inductive StoreEvent
  | deliver (members : List (String × Json)) (acceptedAt : String) (expiration : ℤ)
  | claim (taskId : String) (draw : ClaimDraw)
  | mark (execution : IncidentTaskExecution) (m : Execution.Mark) (now : String)
  | expire (taskId : String)

def StoreEvent.perform (table : Execution.Table) : StoreEvent → Execution.Table
  | .deliver members acceptedAt expiration =>
    (handleIncidentProcessingRequested table members acceptedAt expiration).toOption.getD table
  | .claim taskId draw => ((Execution.claim table taskId draw).map Prod.snd).getD table
  | .mark execution m now => (Execution.mark table execution m now).toOption.getD table
  | .expire taskId => Function.update table taskId none

def afterEvents (table : Execution.Table) (events : List StoreEvent) : Execution.Table :=
  events.foldl StoreEvent.perform table

def emptyTable : Execution.Table := fun _ => none

def StoreEvent.delivered? : StoreEvent → Option (List (String × Json))
  | .deliver members _ _ => some members
  | _ => none

def delivered (events : List StoreEvent) : List (List (String × Json)) :=
  events.filterMap StoreEvent.delivered?

def AllAccepted (events : List StoreEvent) : Prop :=
  ∀ members ∈ delivered events, AcceptedRequest members

/-- The record under `key` is that of the envelope, by what `_validate_existing_record` compares. -/
def KeptUnder (table : Execution.Table) (key : String) (members : List (String × Json)) : Prop :=
  ∃ item task incidentId, table key = some item ∧ Task.ofMembers? members = some task ∧
    incidentIdFromTask members = .ok incidentId ∧ item.identity = task.identity incidentId

/-- Whatever is delivered, and however often: where both envelopes are kept, they share a record if
and only if they are of one task. -/
def OneIdentity (m₁ m₂ : List (String × Json)) : Prop :=
  ∀ events, AllAccepted events → ∀ key₁ key₂,
    KeptUnder (afterEvents emptyTable events) key₁ m₁ →
    KeptUnder (afterEvents emptyTable events) key₂ m₂ → (key₁ = key₂ ↔ SameTask m₁ m₂)

def OneRecordEach (table : Execution.Table) : Prop :=
  ∀ key₁ key₂ item₁ item₂ execution₁ execution₂ taskId,
    table key₁ = some item₁ → Execution.toDomain item₁ = some execution₁ →
    Uuid.parse? execution₁.taskId = some taskId →
    table key₂ = some item₂ → Execution.toDomain item₂ = some execution₂ →
    Uuid.parse? execution₂.taskId = some taskId → key₁ = key₂

/-! ## What an event does -/

variable {table table' : Execution.Table} {members m₁ m₂ : List (String × Json)}
  {key acceptedAt : String} {expiration : ℤ} {item : Item}

structure StoredAs (members : List (String × Json)) (key : String) (item : Item) : Prop where
  storable : Storable members
  text : text? members "task_id" = some key
  taskId : item.taskId = key

/-- A handled envelope changes nothing, or its record is new. -/
theorem handleIncidentProcessingRequested_table
    (h : handleIncidentProcessingRequested table members acceptedAt expiration = .ok table') :
    table' = table ∨ ∃ item taskId, StoredAs members taskId item ∧
      table' = Function.update table taskId (some item) := by
  unfold handleIncidentProcessingRequested at h
  rw [bind_eq_ok] at h
  obtain ⟨incidentId, hincident, h⟩ := h
  split at h
  · contradiction
  · rename_i task htask
    split at h
    · rename_i created table'' haccept
      obtain rfl := Except.ok.inj h
      unfold Execution.acceptIncidentProcessingTask at haccept
      split at haccept
      · rename_i hput
        obtain ⟨-, rfl⟩ := Prod.mk.inj (Except.ok.inj haccept)
        obtain ⟨-, rfl⟩ := ConditionalStore.putIfAbsent_eq_some.mp hput
        obtain ⟨htaskId, -⟩ := Execution.ofMembers?_eq_some htask
        exact .inr ⟨_, _, ⟨⟨incidentId, hincident⟩, htaskId, rfl⟩, rfl⟩
      · -- the record was there, and has been compared
        cases hload : Execution.loadExisting table task incidentId with
        | error e =>
          rw [hload] at haccept
          contradiction
        | ok u =>
          rw [hload] at haccept
          exact .inl (Prod.mk.inj (Except.ok.inj haccept)).2.symm
    · contradiction

/-- A record is that of a delivered envelope, or was there before with the same `task_id`. -/
theorem StoreEvent.perform_eq_some {event : StoreEvent} (h : event.perform table key = some item) :
    (∃ old, table key = some old ∧ item.taskId = old.taskId) ∨
      ∃ members ∈ event.delivered?, StoredAs members key item := by
  cases event with
  | deliver members acceptedAt expiration =>
    dsimp only [StoreEvent.perform] at h
    cases hhandled : handleIncidentProcessingRequested table members acceptedAt expiration with
    | error e =>
      rw [hhandled] at h
      exact .inl ⟨item, h, rfl⟩
    | ok table' =>
      rw [hhandled] at h
      obtain rfl | ⟨new, taskId, hstored, rfl⟩ := handleIncidentProcessingRequested_table hhandled
      · exact .inl ⟨item, h, rfl⟩
      · obtain ⟨rfl, rfl⟩ | ⟨-, hold⟩ := ConditionalStore.update_eq_some.mp h
        · exact .inr ⟨members, rfl, hstored⟩
        · exact .inl ⟨item, hold, rfl⟩
  | claim taskId draw =>
    -- a claim rewrites the record under its key and keeps its `task_id`
    dsimp only [StoreEvent.perform] at h
    cases hclaim : Execution.claim table taskId draw with
    | none =>
      rw [hclaim] at h
      exact .inl ⟨item, h, rfl⟩
    | some claimed =>
      rw [hclaim] at h
      obtain ⟨old, hold, -, hclaimed, htable⟩ := Execution.claim_eq_some.mp hclaim
      rw [Option.map_some, Option.getD_some, ← htable] at h
      obtain ⟨rfl, rfl⟩ | ⟨-, hkept⟩ := ConditionalStore.update_eq_some.mp h
      · exact .inl ⟨old, hold, by rw [← hclaimed]; rfl⟩
      · exact .inl ⟨item, hkept, rfl⟩
  | mark execution m now =>
    dsimp only [StoreEvent.perform] at h
    cases hmark : Execution.mark table execution m now with
    | error e =>
      rw [hmark] at h
      exact .inl ⟨item, h, rfl⟩
    | ok table' =>
      rw [hmark] at h
      obtain ⟨_, old, -, hold, -, rfl⟩ := Execution.mark_eq_ok.mp hmark
      obtain ⟨rfl, rfl⟩ | ⟨-, hkept⟩ := ConditionalStore.update_eq_some.mp h
      · exact .inl
          ⟨old, hold, congrArg Execution.TaskIdentity.taskId (Execution.identity_apply m now)⟩
      · exact .inl ⟨item, hkept, rfl⟩
  | expire taskId =>
    dsimp only [StoreEvent.perform] at h
    obtain rfl | hne := eq_or_ne key taskId
    · rw [Function.update_self] at h
      contradiction
    · rw [Function.update_of_ne hne] at h
      exact .inl ⟨item, h, rfl⟩

/-- Every record goes by the `task_id` of an envelope that has been delivered. -/
def Grounded (sent : List (List (String × Json))) (table : Execution.Table) : Prop :=
  ∀ key item, table key = some item → item.taskId = key ∧
    ∃ members ∈ sent, Storable members ∧ text? members "task_id" = some key

theorem Grounded.perform {sent : List (List (String × Json))} {event : StoreEvent}
    (h : Grounded sent table) (hsent : ∀ members ∈ event.delivered?, members ∈ sent) :
    Grounded sent (event.perform table) := by
  intro key item hitem
  obtain ⟨old, hold, hsame⟩ | ⟨members, hmembers, hstored⟩ := event.perform_eq_some hitem
  · obtain ⟨hkey, hfrom⟩ := h key old hold
    exact ⟨hsame.trans hkey, hfrom⟩
  · exact ⟨hstored.taskId, members, hsent members hmembers, hstored.storable, hstored.text⟩

theorem Grounded.afterEvents {sent : List (List (String × Json))} {events : List StoreEvent}
    (h : Grounded sent table) (hsent : ∀ members ∈ delivered events, members ∈ sent) :
    Grounded sent (afterEvents table events) := by
  induction events generalizing table with
  | nil => exact h
  | cons event events ih =>
    have hevent : ∀ members ∈ event.delivered?, members ∈ sent := fun members hmembers =>
      hsent members (List.mem_filterMap.mpr ⟨event, List.mem_cons_self, hmembers⟩)
    refine ih (h.perform hevent) fun members hmembers => hsent members ?_
    obtain ⟨later, hlater, hdelivered⟩ := List.mem_filterMap.mp hmembers
    exact List.mem_filterMap.mpr ⟨later, List.mem_cons_of_mem _ hlater, hdelivered⟩

theorem grounded_run (events : List StoreEvent) :
    Grounded (delivered events) (afterEvents emptyTable events) :=
  Grounded.afterEvents (fun _ _ h => by contradiction) fun _ h => h

/-! ## An accepted envelope -/

theorem AcceptedRequest.texts (h : AcceptedRequest members) : ∃ t : EnvelopeTexts,
    t.Read members ∧ t.Checked jsonschema := by
  obtain ⟨_, t, hvalue, hread, hchecked⟩ :=
    taskEnvelopeSchema_iff.mp (TaskWorker.validateTaskEnvelope_eq_ok.mp h.valid).1
  obtain rfl := Json.object.inj hvalue
  exact ⟨t, hread, hchecked⟩

/-- Its `task_id` denotes a UUID. -/
theorem AcceptedRequest.uuid (h : AcceptedRequest members) : ∃ taskId id,
    text? members "task_id" = some taskId ∧ Uuid.parse? taskId = some id := by
  obtain ⟨t, hread, hchecked⟩ := h.texts
  have hformat := hchecked.taskId
  rw [jsonschema_format] at hformat
  obtain ⟨id, hid⟩ := Option.isSome_iff_exists.mp (Bool.and_eq_true_iff.mp hformat).1
  exact ⟨t.taskId, id, text?_eq_some.mpr hread.taskId, hid⟩

/-- The store finds all the fields that it reads. -/
theorem AcceptedRequest.task (h : AcceptedRequest members) :
    ∃ task, Task.ofMembers? members = some task := by
  obtain ⟨t, hread, -⟩ := h.texts
  obtain ⟨payload, hpayload⟩ := hread.payload
  unfold Task.ofMembers?
  rw [text?_eq_some.mpr hread.taskId, text?_eq_some.mpr hread.taskType,
    text?_eq_some.mpr hread.schemaVersion, text?_eq_some.mpr hread.producer,
    text?_eq_some.mpr hread.idempotencyKey, text?_eq_some.mpr hread.correlationId, hpayload,
    text?_eq_some.mpr hread.createdAt]
  exact ⟨_, rfl⟩

/-- An envelope is kept under its own `task_id`, as it is written. -/
theorem KeptUnder.text {sent : List (List (String × Json))} (hgrounded : Grounded sent table)
    (h : KeptUnder table key members) : text? members "task_id" = some key ∧ Storable members := by
  obtain ⟨item, task, incidentId, hitem, htask, hincident, hidentity⟩ := h
  have htaskId : item.taskId = task.taskId := congrArg Execution.TaskIdentity.taskId hidentity
  rw [(hgrounded key item hitem).1] at htaskId
  rw [htaskId]
  exact ⟨(Execution.ofMembers?_eq_some htask).1, incidentId, hincident⟩

/-- Where nothing is kept under its `task_id`, a delivered envelope is kept there. -/
theorem deliver_keeps (h : AcceptedRequest members) (hstorable : Storable members)
    (hkey : text? members "task_id" = some key) (hnone : table key = none) :
    ∃ item, StoreEvent.perform table (.deliver members acceptedAt expiration) =
        Function.update table key (some item) ∧
      KeptUnder (Function.update table key (some item)) key members := by
  obtain ⟨task, htask⟩ := h.task
  obtain ⟨incidentId, hincident⟩ := hstorable
  obtain rfl := Option.some.inj (hkey.symm.trans (Execution.ofMembers?_eq_some htask).1)
  refine ⟨Execution.acceptedItem task incidentId acceptedAt expiration, ?_, ?_⟩
  · dsimp only [StoreEvent.perform]
    rw [Execution.handleIncidentProcessingRequested_new hincident htask hnone]
    rfl
  · exact ⟨_, task, incidentId, Function.update_self .., htask, hincident,
      Execution.identity_acceptedItem⟩

/-! ## One record for one task -/

/-- Two spellings of one `task_id`, each storable, are kept apart. -/
theorem kept_apart (h₁ : AcceptedRequest m₁) (h₂ : AcceptedRequest m₂) (hs₁ : Storable m₁)
    (hs₂ : Storable m₂) {key₁ key₂ : String} (hkey₁ : text? m₁ "task_id" = some key₁)
    (hkey₂ : text? m₂ "task_id" = some key₂) (hne : key₁ ≠ key₂) :
    let table := afterEvents emptyTable [.deliver m₁ "" 0, .deliver m₂ "" 0]
    KeptUnder table key₁ m₁ ∧ KeptUnder table key₂ m₂ := by
  obtain ⟨item₁, hperform₁, hkept₁⟩ :=
    @deliver_keeps emptyTable m₁ key₁ "" 0 h₁ hs₁ hkey₁ rfl
  have hfree : Function.update emptyTable key₁ (some item₁) key₂ = none :=
    Function.update_of_ne hne.symm ..
  obtain ⟨item₂, hperform₂, hkept₂⟩ := @deliver_keeps _ m₂ key₂ "" 0 h₂ hs₂ hkey₂ hfree
  change KeptUnder ((StoreEvent.deliver m₂ "" 0).perform ((StoreEvent.deliver m₁ "" 0).perform
    emptyTable)) key₁ m₁ ∧ KeptUnder ((StoreEvent.deliver m₂ "" 0).perform
      ((StoreEvent.deliver m₁ "" 0).perform emptyTable)) key₂ m₂
  rw [hperform₁, hperform₂]
  refine ⟨?_, hkept₂⟩
  obtain ⟨item, task, incidentId, hitem, hrest⟩ := hkept₁
  exact ⟨item, task, incidentId, (Function.update_of_ne hne ..).trans hitem, hrest⟩

theorem oneIdentity_iff (h₁ : AcceptedRequest m₁) (h₂ : AcceptedRequest m₂) :
    OneIdentity m₁ m₂ ↔ SpelledAlike m₁ m₂ := by
  constructor
  · intro hone hs₁ hs₂ hsame
    obtain ⟨key₁, _, hkey₁, -⟩ := h₁.uuid
    obtain ⟨key₂, _, hkey₂, -⟩ := h₂.uuid
    rw [hkey₁, hkey₂]
    -- else both envelopes are delivered to an empty table, and get a record each
    by_contra hdiffer
    have hne : key₁ ≠ key₂ := fun heq => hdiffer (congrArg some heq)
    obtain ⟨hkept₁, hkept₂⟩ := kept_apart h₁ h₂ hs₁ hs₂ hkey₁ hkey₂ hne
    refine hne ((hone _ (fun members hmembers => ?_) key₁ key₂ hkept₁ hkept₂).mpr hsame)
    obtain rfl | rfl : members = m₁ ∨ members = m₂ := by
      simpa [delivered, StoreEvent.delivered?] using hmembers
    · exact h₁
    · exact h₂
  · intro halike events _ key₁ key₂ hkept₁ hkept₂
    obtain ⟨hkey₁, hs₁⟩ := hkept₁.text (grounded_run events)
    obtain ⟨hkey₂, hs₂⟩ := hkept₂.text (grounded_run events)
    constructor
    · -- one key is one text, which is read as one UUID
      rintro rfl
      obtain ⟨taskId, id, htaskId, hid⟩ := h₁.uuid
      obtain rfl := Option.some.inj (htaskId.symm.trans hkey₁)
      exact ⟨id, by rw [taskUuid?, hkey₁, Option.bind_some, hid],
        by rw [taskUuid?, hkey₂, Option.bind_some, hid]⟩
    · intro hsame
      have heq := halike hs₁ hs₂ hsame
      rw [hkey₁, hkey₂] at heq
      exact Option.some.inj heq

/-- The reconciler reads the `task_id` of a record under its key. -/
theorem toDomain_taskId {execution : IncidentTaskExecution}
    (h : Execution.toDomain item = some execution) : execution.taskId = item.taskId := by
  obtain ⟨_, -, rfl⟩ := Option.map_eq_some_iff.mp h
  rfl

theorem oneRecordEach_of_spelledAlike {events : List StoreEvent}
    (halike : ∀ m₁ ∈ delivered events, ∀ m₂ ∈ delivered events, SpelledAlike m₁ m₂) :
    OneRecordEach (afterEvents emptyTable events) := by
  intro key₁ key₂ item₁ item₂ execution₁ execution₂ taskId hitem₁ hdomain₁ hid₁ hitem₂ hdomain₂ hid₂
  obtain ⟨hkey₁, m₁, hm₁, hs₁, htext₁⟩ := grounded_run events key₁ item₁ hitem₁
  obtain ⟨hkey₂, m₂, hm₂, hs₂, htext₂⟩ := grounded_run events key₂ item₂ hitem₂
  rw [toDomain_taskId hdomain₁, hkey₁] at hid₁
  rw [toDomain_taskId hdomain₂, hkey₂] at hid₂
  have hsame : SameTask m₁ m₂ := by
    refine ⟨taskId, ?_, ?_⟩
    · rw [taskUuid?, htext₁, Option.bind_some, hid₁]
    · rw [taskUuid?, htext₂, Option.bind_some, hid₂]
  have heq := halike m₁ hm₁ m₂ hm₂ hs₁ hs₂ hsame
  rw [htext₁, htext₂] at heq
  exact Option.some.inj heq

/-- Two envelopes share a record exactly as their tasks say if and only if one task has one
spelling; and where all that is delivered spells alike, no two records are of one task. -/
theorem one_identity_iff (m₁ m₂ : List (String × Json)) (events : List StoreEvent) :
    (AcceptedRequest m₁ → AcceptedRequest m₂ → (OneIdentity m₁ m₂ ↔ SpelledAlike m₁ m₂)) ∧
    (AllAccepted events →
      (∀ m₁ ∈ delivered events, ∀ m₂ ∈ delivered events, SpelledAlike m₁ m₂) →
        OneRecordEach (afterEvents emptyTable events)) :=
  ⟨oneIdentity_iff, fun _ halike => oneRecordEach_of_spelledAlike halike⟩

/-! ## One task, spelled in two ways -/

def spelled (taskId : String) : List (String × Json) :=
  ("task_id", .string taskId) :: (requestMembers "c").tail

theorem spelled_accepted {taskId : String} (h : rfcFormat .uuid taskId = true) :
    AcceptedRequest (spelled taskId) := by
  have hrequest : (requestTexts "c").Read (requestMembers "c") := requestMembers_read (by decide)
  have hread : { requestTexts "c" with taskId := taskId }.Read (spelled taskId) :=
    { hrequest with
      taskId := rfl
      closed := by simp [spelled, requestMembers, envelopeKeys] }
  have hchecked : { requestTexts "c" with taskId := taskId }.Checked jsonschema :=
    EnvelopeTexts.checked_jsonschema.mpr ⟨jsonschemaFormat_of_rfcFormat h, requestTexts_named⟩
  have hvalid : TaskWorker.validateTaskEnvelope (.object (spelled taskId)) =
      .ok (.object (spelled taskId)) := TaskWorker.validateTaskEnvelope_eq_ok.mpr
    ⟨taskEnvelopeSchema_iff.mpr ⟨_, _, rfl, hread, hchecked⟩, rfl⟩
  exact ⟨hvalid, rfl⟩

theorem spelled_storable (taskId : String) : Storable (spelled taskId) :=
  ⟨Uuid.str 0, Execution.incidentIdFromTask_str (u := 0) rfl rfl⟩

theorem taskUuid?_spelled (taskId : String) : taskUuid? (spelled taskId) = Uuid.parse? taskId := by
  have htext : text? (spelled taskId) "task_id" = some taskId := rfl
  rw [taskUuid?, htext, Option.bind_some]

def lowerTaskId : String := "a0000000-0000-4000-8000-000000000000"

def upperTaskId : String := "A0000000-0000-4000-8000-000000000000"

theorem lowerTaskId_format : rfcFormat .uuid lowerTaskId = true := by decide

theorem upperTaskId_format : rfcFormat .uuid upperTaskId = true := by decide

def otherTaskId : String := "b0000000-0000-4000-8000-000000000000"

theorem otherTaskId_format : rfcFormat .uuid otherTaskId = true := by decide

theorem not_sameTask_other : ¬ SameTask (spelled lowerTaskId) (spelled otherTaskId) := by
  rintro ⟨id, hlower, hother⟩
  rw [taskUuid?_spelled] at hlower hother
  have hne : Uuid.parse? lowerTaskId ≠ Uuid.parse? otherTaskId := by decide +kernel
  exact hne (hlower.trans hother.symm)

/-- Two tasks are spelled alike, since they are different ones. -/
theorem spelledAlike_of_tasks {m₁ m₂ : List (String × Json)}
    (h₁ : m₁ = spelled lowerTaskId ∨ m₁ = spelled otherTaskId)
    (h₂ : m₂ = spelled lowerTaskId ∨ m₂ = spelled otherTaskId) : SpelledAlike m₁ m₂ := by
  rintro - - ⟨id, hid₁, hid₂⟩
  obtain rfl | rfl := h₁
  · obtain rfl | rfl := h₂
    · rfl
    · exact absurd ⟨id, hid₁, hid₂⟩ not_sameTask_other
  · obtain rfl | rfl := h₂
    · exact absurd ⟨id, hid₂, hid₁⟩ not_sameTask_other
    · rfl

def twoTasks : List StoreEvent :=
  [.deliver (spelled lowerTaskId) "" 0, .deliver (spelled otherTaskId) "" 0, .expire lowerTaskId,
    .deliver (spelled lowerTaskId) "" 1]

/-- Two tasks that are spelled in one way each have a record each, whatever is delivered. -/
theorem spelled_one_identity : OneIdentity (spelled lowerTaskId) (spelled otherTaskId) ∧
    OneRecordEach (afterEvents emptyTable twoTasks) := by
  have hlower := spelled_accepted lowerTaskId_format
  have hother := spelled_accepted otherTaskId_format
  have htasks (members : List (String × Json)) (hmembers : members ∈ delivered twoTasks) :
      members = spelled lowerTaskId ∨ members = spelled otherTaskId := by
    have hmem : members ∈ [spelled lowerTaskId, spelled otherTaskId, spelled lowerTaskId] :=
      hmembers
    simp only [List.mem_cons, List.not_mem_nil, or_false] at hmem
    obtain h | h | h := hmem
    · exact .inl h
    · exact .inr h
    · exact .inl h
  obtain ⟨hidentity, hrecords⟩ :=
    one_identity_iff (spelled lowerTaskId) (spelled otherTaskId) twoTasks
  refine ⟨(hidentity hlower hother).mpr (spelledAlike_of_tasks (.inl rfl) (.inr rfl)),
    hrecords (fun members hmembers => ?_) fun m₁ hm₁ m₂ hm₂ =>
      spelledAlike_of_tasks (htasks m₁ hm₁) (htasks m₂ hm₂)⟩
  obtain rfl | rfl := htasks members hmembers
  · exact hlower
  · exact hother

/-- A value depends on the digits only, not on how they are written. -/
theorem hexValue?_congr {cs ds : List Char} (h : cs.map hexDigit? = ds.map hexDigit?) :
    hexValue? cs = hexValue? ds := by
  have hfold (cs : List Char) : hexValue? cs = (cs.map hexDigit?).foldlM
      (fun value digit => digit.map fun d => 16 * value + d) 0 := by
    rw [List.foldlM_map]
    rfl
  rw [hfold, hfold, h]

theorem spelled_sameTask : SameTask (spelled lowerTaskId) (spelled upperTaskId) := by
  have hlower : ∀ c ∈ lowerTaskId.toList, c = '-' ∨ c ∈ hexChars := by decide
  have hupper : ∀ c ∈ upperTaskId.toList, c = '-' ∨ c ∈ hexChars := by decide
  have hdigits : ∀ c ∈ lowerTaskId.toList.filter (· ≠ '-'), c ∈ hexChars := by decide
  have hvalue : hexValue? (lowerTaskId.toList.filter (· ≠ '-')) =
      hexValue? (upperTaskId.toList.filter (· ≠ '-')) := hexValue?_congr (by decide)
  obtain ⟨value, -, hsome⟩ := exists_hexValue? hdigits
  refine ⟨BitVec.ofNat 128 value, ?_, ?_⟩
  · rw [taskUuid?_spelled, parse?_of_hexChars hlower (by decide), hsome, Option.map_some]
  · rw [taskUuid?_spelled, parse?_of_hexChars hupper (by decide), ← hvalue, hsome, Option.map_some]

/-- In capitals, the `task_id` is that of the same task and the key of another record. -/
theorem spelled_two_identities : ¬ ∀ m₁ m₂, AcceptedRequest m₁ → AcceptedRequest m₂ →
    OneIdentity m₁ m₂ := by
  intro h
  have hlower := spelled_accepted lowerTaskId_format
  have hupper := spelled_accepted upperTaskId_format
  have halike := (oneIdentity_iff hlower hupper).mp (h _ _ hlower hupper)
  have heq := halike (spelled_storable _) (spelled_storable _) spelled_sameTask
  exact absurd heq (by decide)

end OpsFlow.Incidents
