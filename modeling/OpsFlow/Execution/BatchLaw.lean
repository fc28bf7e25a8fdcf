import OpsFlow.Execution.Batch
import OpsFlow.Library.Transition

namespace OpsFlow.Execution
open Contracts ConditionalStore Transition

variable {ε W : Type} {runtime : IdempotencyRuntime} {clock : Clock} {loads : String → Option Json}
  {handlers : TaskHandlers ε W} {deadline : Option ℕ} {worker worker' : Worker W}
  {processor : TaskProcessor ε W} {task : Members} {idempotencyKey key : String}
  {result : Except (TaskError ε) Unit} {record : Members}

/-! ## What one call can do -/

/-- The call found a record that is not to be replaced, and left everything but the clock. -/
def Refused (runtime : IdempotencyRuntime) (clock : Clock) (idempotencyKey : String)
    (worker : Worker W) (result : Except (TaskError ε) Unit) (worker' : Worker W) : Prop :=
  worker' = { worker with readings := worker.readings + 1 } ∧
    ∃ old, worker.records (runtime.recordKey idempotencyKey) = some old ∧
      old.replaceable (clock.reading worker.readings) = false ∧
      (result = .ok () ∨ old.status = .inProgress)

/-- The processor was called, and its record is left if it completed. -/
def Invoked (runtime : IdempotencyRuntime) (clock : Clock) (idempotencyKey : String)
    (worker : Worker W) (result : Except (TaskError ε) Unit) (worker' : Worker W) : Prop :=
  (worker.records (runtime.recordKey idempotencyKey)).all
      (DataRecord.replaceable (clock.reading worker.readings)) = true ∧
    worker'.readings = worker.readings + 2 ∧
    ∃ outcome left, worker'.invocations = worker.invocations ++
        [⟨idempotencyKey, clock.reading worker.readings / 1000, outcome⟩] ∧
      worker'.records =
        Function.update worker.records (runtime.recordKey idempotencyKey) left ∧
      ((result = .ok () ∧ ∃ expiry, outcome = .completed expiry ∧
          left = some ⟨.completed, expiry, none⟩) ∨
        ((∃ e, result = .error e) ∧ outcome = .raised ∧ left = none))

theorem processTaskIdempotently_cases
    (h : processTaskIdempotently runtime clock deadline processor task idempotencyKey worker =
      (result, worker')) :
    Refused runtime clock idempotencyKey worker result worker' ∨
      Invoked runtime clock idempotencyKey worker result worker' := by
  unfold processTaskIdempotently saveInProgress at h
  -- whether the conditional put finds no record, or one that has expired
  by_cases hfree : (worker.records (runtime.recordKey idempotencyKey)).all
      (DataRecord.replaceable (clock.reading worker.readings)) = true
  · right
    simp only [if_pos hfree] at h
    unfold invokeTaskProcessor at h
    generalize processor task worker.world = p at h
    obtain ⟨outcome, world⟩ := p
    cases outcome with
    | ok =>
      obtain ⟨rfl, rfl⟩ := Prod.mk.inj h
      refine ⟨hfree, rfl, _, _, rfl, Function.update_idem .., .inl ⟨rfl, _, rfl, rfl⟩⟩
    | error e =>
      obtain ⟨rfl, rfl⟩ := Prod.mk.inj h
      refine ⟨hfree, rfl, _, _, rfl, Function.update_idem .., .inr ⟨⟨e, rfl⟩, rfl, rfl⟩⟩
  · left
    simp only [if_neg hfree] at h
    cases hold : worker.records (runtime.recordKey idempotencyKey) with
    | none => simp [hold] at hfree
    | some old =>
      rw [hold] at h hfree
      have hkept : old.replaceable (clock.reading worker.readings) = false := by simpa using hfree
      cases hstatus : old.status with
      | inProgress =>
        simp only [Option.map_some, hstatus] at h
        obtain ⟨rfl, rfl⟩ := Prod.mk.inj h
        exact ⟨rfl, old, hold, hkept, .inr hstatus⟩
      | completed =>
        simp only [Option.map_some, hstatus] at h
        obtain ⟨rfl, rfl⟩ := Prod.mk.inj h
        exact ⟨rfl, old, hold, hkept, .inl rfl⟩

theorem processRecord_cases
    (h : processRecord runtime clock loads handlers deadline record worker = (result, worker')) :
    (∃ e, taskOfRecord loads record = .error e ∧ result = .error (.record e) ∧ worker' = worker) ∨
      ∃ task idempotencyKey, taskOfRecord loads record = .ok (task, idempotencyKey) ∧
        (Refused runtime clock idempotencyKey worker result worker' ∨
          Invoked runtime clock idempotencyKey worker result worker') := by
  unfold processRecord at h
  cases htask : taskOfRecord loads record with
  | error e =>
    rw [htask] at h
    obtain ⟨rfl, rfl⟩ := Prod.mk.inj h
    exact .inl ⟨e, rfl, rfl, rfl⟩
  | ok t =>
    obtain ⟨task, idempotencyKey⟩ := t
    rw [htask] at h
    exact .inr ⟨task, idempotencyKey, rfl, processTaskIdempotently_cases h⟩

theorem processRecord_eq (htask : taskOfRecord loads record = .ok (task, idempotencyKey)) :
    processRecord runtime clock loads handlers deadline record worker =
      processTaskIdempotently runtime clock deadline (dispatchTask handlers) task idempotencyKey
        worker := by
  unfold processRecord
  rw [htask]

theorem processRecord_of_task (htask : taskOfRecord loads record = .ok (task, idempotencyKey))
    (h : processRecord runtime clock loads handlers deadline record worker = (result, worker')) :
    Refused runtime clock idempotencyKey worker result worker' ∨
      Invoked runtime clock idempotencyKey worker result worker' := by
  obtain ⟨_, herror, -⟩ | ⟨task', idempotencyKey', htask', hcall⟩ := processRecord_cases h
  · rw [htask] at herror
    contradiction
  · rw [htask] at htask'
    obtain ⟨rfl, rfl⟩ := Prod.mk.inj (Except.ok.inj htask')
    exact hcall

theorem taskOfRecord_of_valid (hbody : parseRecordBody loads record = .ok (.object task))
    (hvalid : taskEnvelopeSchema jsonschema (.object task) = true)
    (hkey : text? task "idempotency_key" = some idempotencyKey) :
    taskOfRecord loads record = .ok (task, idempotencyKey) := by
  unfold taskOfRecord
  rw [hbody]
  simp only [bind, Except.bind, TaskWorker.validateTaskEnvelope_eq_ok.mpr ⟨hvalid, rfl⟩, hkey]

/-! ## The records of a batch -/

/-- The records are attempted one after another, with these results. -/
inductive Attempts (runtime : IdempotencyRuntime) (clock : Clock) (loads : String → Option Json)
    (handlers : TaskHandlers ε W) (deadline : Option ℕ) :
    Worker W → List Members → List (Except (TaskError ε) Unit) → Worker W → Prop
  | nil (worker : Worker W) : Attempts runtime clock loads handlers deadline worker [] [] worker
  | cons {worker worker' worker'' : Worker W} {record : Members} {records : List Members}
      {result : Except (TaskError ε) Unit} {results : List (Except (TaskError ε) Unit)} :
      processRecord runtime clock loads handlers deadline record worker = (result, worker') →
      Attempts runtime clock loads handlers deadline worker' records results worker'' →
      Attempts runtime clock loads handlers deadline worker (record :: records)
        (result :: results) worker''

def raised : Except (TaskError ε) Unit → Bool
  | .ok () => false
  | .error _ => true

def failedIds (messageIds : List String) (results : List (Except (TaskError ε) Unit)) :
    List String :=
  ((messageIds.zip results).filter fun attempt => raised attempt.2).map Prod.fst

def Identified (messageId : String) (record : Members) : Prop :=
  text? record "messageId" = some messageId ∧ messageId ≠ ""

variable (runtime clock loads handlers deadline) in
theorem processRecords_identified {messageIds : List String} {records : List Members}
    (h : List.Forall₂ Identified messageIds records) (failures : List String) (worker : Worker W) :
    ∃ results worker',
      Attempts runtime clock loads handlers deadline worker records results worker' ∧
      processRecords runtime clock loads handlers deadline (records.map Json.object) failures
        worker = (.ok (failures ++ failedIds messageIds results), worker') := by
  induction h generalizing failures worker with
  | nil =>
    refine ⟨[], worker, .nil worker, ?_⟩
    simp [processRecords, failedIds]
  | @cons messageId record messageIds records hid _ ih =>
    obtain ⟨hid, hne⟩ := hid
    cases hrecord : processRecord runtime clock loads handlers deadline record worker with
    | mk result worker₁ =>
      cases result with
      | ok =>
        obtain ⟨results, worker', hattempts, hrest⟩ := ih failures worker₁
        refine ⟨.ok () :: results, worker', .cons hrecord hattempts, ?_⟩
        simp only [List.map_cons, processRecords, hid, if_neg hne, hrecord]
        rw [hrest]
        rfl
      | error e =>
        obtain ⟨results, worker', hattempts, hrest⟩ := ih (failures ++ [messageId]) worker₁
        refine ⟨.error e :: results, worker', .cons hrecord hattempts, ?_⟩
        simp only [List.map_cons, processRecords, hid, if_neg hne, hrecord]
        rw [hrest, List.append_assoc]
        rfl

/-- What one record preserves, a batch preserves, malformed records or not. -/
theorem processRecords_invariant {inv : Worker W → Prop}
    (hrecord : ∀ record worker, inv worker →
      inv (processRecord runtime clock loads handlers deadline record worker).2)
    (records : List Json) (failures : List String) (h : inv worker) :
    inv (processRecords runtime clock loads handlers deadline records failures worker).2 := by
  induction records generalizing failures worker with
  | nil => exact h
  | cons record records ih =>
    cases record with
    | object record =>
      unfold processRecords
      split
      · exact h
      · split
        · exact h
        · have hnext := hrecord record worker h
          split
          · rename_i hok
            rw [hok] at hnext
            exact ih _ hnext
          · rename_i herror
            rw [herror] at hnext
            exact ih _ hnext
    | _ => exact h

theorem lambdaHandler_invariant {inv : Worker W → Prop}
    (hrecord : ∀ record worker, inv worker →
      inv (processRecord runtime clock loads handlers deadline record worker).2)
    (event : Members) (h : inv worker) :
    inv (lambdaHandler runtime clock loads handlers deadline event worker).2 := by
  unfold lambdaHandler
  split
  · rename_i records _
    have hrecords := processRecords_invariant hrecord records [] h
    split
    · rename_i hok
      rw [hok] at hrecords
      exact hrecords
    · rename_i herror
      rw [herror] at hrecords
      exact hrecords
  · exact h

/-! ## Deliveries, one after another -/

inductive Delivery
  | batch (deadline : Option ℕ) (event : Members)
  /-- the table's own removal of expired records -/
  | expire (removed : String → Bool)

def expireRecords (now : ℕ) (removed : String → Bool) (records : Records) : Records := fun key =>
  (records key).filter fun record => !(removed key && decide (record.expiryTimestamp < now / 1000))

def deliver (runtime : IdempotencyRuntime) (clock : Clock) (loads : String → Option Json)
    (handlers : TaskHandlers ε W) (worker : Worker W) : Delivery → Worker W
  | .batch deadline event => (lambdaHandler runtime clock loads handlers deadline event worker).2
  | .expire removed =>
    { worker with
      records := expireRecords (clock.reading worker.readings) removed worker.records
      readings := worker.readings + 1 }

def DeliveryStep (runtime : IdempotencyRuntime) (clock : Clock) (loads : String → Option Json)
    (handlers : TaskHandlers ε W) (worker : Worker W) (delivery : Delivery) (worker' : Worker W) :
    Prop :=
  worker' = deliver runtime clock loads handlers worker delivery

def Worker.Initial (worker : Worker W) : Prop :=
  worker.records = (fun _ => none) ∧ worker.invocations = []

namespace Worker

/-- Whether the record of a completed call is still there, or has expired. -/
def Kept (runtime : IdempotencyRuntime) (clock : Clock) (worker : Worker W) (i : Invocation) :
    Prop :=
  ∀ expiry, i.result = .completed expiry → expiry < clock.reading worker.readings / 1000 ∨
    ∃ record, worker.records (runtime.recordKey i.idempotencyKey) = some record ∧
      record.expiryTimestamp = expiry

/-- The later call has found the record of the earlier one expired. -/
def Separated (i j : Invocation) : Prop :=
  i.idempotencyKey = j.idempotencyKey → ∀ expiry, i.result = .completed expiry →
    expiry < j.startedAt

structure Inv (runtime : IdempotencyRuntime) (clock : Clock) (worker : Worker W) : Prop where
  settled : ∀ key record, worker.records key = some record → record.status = .completed
  kept : ∀ i ∈ worker.invocations, worker.Kept runtime clock i
  separated : worker.invocations.Pairwise Separated

end Worker

theorem replaceable_completed {now : ℕ} {old : DataRecord} (hstatus : old.status = .completed)
    (h : old.replaceable now = true) : old.expiryTimestamp < now / 1000 := by
  obtain hexpired | ⟨hprogress, -⟩ := of_decide_eq_true h
  · exact hexpired
  · rw [hstatus] at hprogress
    contradiction

theorem inv_initial (h : worker.Initial) : worker.Inv runtime clock where
  settled := fun key record hrecord => by
    rw [h.1] at hrecord
    contradiction
  kept := fun i hi => by
    rw [h.2] at hi
    contradiction
  separated := by
    rw [h.2]
    exact List.Pairwise.nil

/-- Time passes. -/
theorem Worker.Kept.later {i : Invocation} (h : worker.Kept runtime clock i)
    (hreadings : worker.readings ≤ worker'.readings)
    (hrecords : ∀ record, worker.records (runtime.recordKey i.idempotencyKey) = some record →
      worker'.records (runtime.recordKey i.idempotencyKey) = some record ∨
        record.expiryTimestamp < clock.reading worker.readings / 1000) :
    worker'.Kept runtime clock i := by
  intro expiry hcompleted
  have htime : clock.reading worker.readings / 1000 ≤ clock.reading worker'.readings / 1000 :=
    Nat.div_le_div_right (clock.monotone hreadings)
  obtain hexpired | ⟨record, hrecord, rfl⟩ := h expiry hcompleted
  · exact .inl (by omega)
  · obtain hsame | hexpired := hrecords record hrecord
    · exact .inr ⟨record, hsame, rfl⟩
    · exact .inl (by omega)

theorem inv_refused (hi : worker.Inv runtime clock)
    (h : Refused runtime clock idempotencyKey worker result worker') :
    worker'.Inv runtime clock := by
  obtain ⟨rfl, -⟩ := h
  exact
    { settled := hi.settled
      kept := fun i hmem =>
        (hi.kept i hmem).later (Nat.le_succ _) fun record hrecord => .inl hrecord
      separated := hi.separated }

theorem inv_invoked (hi : worker.Inv runtime clock)
    (h : Invoked runtime clock idempotencyKey worker result worker') :
    worker'.Inv runtime clock := by
  obtain ⟨hfree, hreadings, outcome, left, hinvocations, hrecords, hleft⟩ := h
  -- what was under the key has expired
  have hexpired (record : DataRecord)
      (hrecord : worker.records (runtime.recordKey idempotencyKey) = some record) :
      record.expiryTimestamp < clock.reading worker.readings / 1000 := by
    rw [hrecord] at hfree
    exact replaceable_completed (hi.settled _ _ hrecord) hfree
  refine ⟨fun key record hrecord => ?_, fun i hmem => ?_, ?_⟩
  · rw [hrecords] at hrecord
    by_cases hkey : key = runtime.recordKey idempotencyKey
    · subst hkey
      rw [Function.update_self] at hrecord
      obtain ⟨-, expiry, -, rfl⟩ | ⟨-, -, rfl⟩ := hleft
      · obtain rfl := Option.some.inj hrecord
        rfl
      · contradiction
    · rw [Function.update_of_ne hkey] at hrecord
      exact hi.settled key record hrecord
  · rw [hinvocations] at hmem
    obtain hmem | hmem := List.mem_append.mp hmem
    · refine (hi.kept i hmem).later (by omega) fun record hrecord => ?_
      rw [hrecords]
      by_cases hkey : runtime.recordKey i.idempotencyKey = runtime.recordKey idempotencyKey
      · rw [hkey] at hrecord
        exact .inr (hexpired record hrecord)
      · rw [Function.update_of_ne hkey]
        exact .inl hrecord
    · obtain rfl := List.mem_singleton.mp hmem
      intro expiry hcompleted
      obtain ⟨-, expiry', rfl, rfl⟩ | ⟨-, rfl, -⟩ := hleft
      · obtain rfl := Result.completed.inj hcompleted
        exact .inr ⟨_, by rw [hrecords, Function.update_self], rfl⟩
      · contradiction
  · rw [hinvocations, List.pairwise_append]
    refine ⟨hi.separated, List.pairwise_singleton .., fun i hmem j hj => ?_⟩
    obtain rfl := List.mem_singleton.mp hj
    rintro hkey expiry hcompleted
    obtain hpassed | ⟨record, hrecord, rfl⟩ := hi.kept i hmem expiry hcompleted
    · exact hpassed
    · rw [hkey] at hrecord
      exact hexpired record hrecord

theorem inv_processRecord (hi : worker.Inv runtime clock) :
    (processRecord runtime clock loads handlers deadline record worker).2.Inv runtime clock := by
  cases h : processRecord runtime clock loads handlers deadline record worker with
  | mk result worker' =>
    obtain ⟨-, -, -, rfl⟩ | ⟨task, idempotencyKey, -, hrefused | hinvoked⟩ := processRecord_cases h
    · exact hi
    · exact inv_refused hi hrefused
    · exact inv_invoked hi hinvoked

theorem inv_expire (hi : worker.Inv runtime clock) (removed : String → Bool) :
    (deliver runtime clock loads handlers worker (.expire removed)).Inv runtime clock where
  settled := fun key record hrecord => by
    obtain ⟨hold, -⟩ := Option.filter_eq_some_iff.mp hrecord
    exact hi.settled key record hold
  kept := fun i hmem => by
    refine (hi.kept i hmem).later (Nat.le_succ _) fun record hrecord => ?_
    by_cases hexpired : record.expiryTimestamp < clock.reading worker.readings / 1000
    · exact .inr hexpired
    · left
      change Option.filter _ (worker.records _) = some record
      rw [hrecord]
      simp [hexpired]
  separated := hi.separated

theorem inv_step {delivery : Delivery} (hi : worker.Inv runtime clock)
    (h : DeliveryStep runtime clock loads handlers worker delivery worker') :
    worker'.Inv runtime clock := by
  rw [DeliveryStep] at h
  subst h
  cases delivery with
  | batch deadline event =>
    exact lambdaHandler_invariant (fun _ _ h => inv_processRecord h) event hi
  | expire removed => exact inv_expire hi removed

theorem reachable_inv
    (h : Reachable Worker.Initial (DeliveryStep runtime clock loads handlers) worker) :
    worker.Inv runtime clock :=
  h.invariant (fun _ hinitial => inv_initial hinitial) fun _ _ _ hi hstep => inv_step hi hstep

/-! ## The law -/

/-- After a call that raised, there is no record in the way of the next one. -/
theorem raised_leaves_free (hi : worker.Inv runtime clock) {e : TaskError ε}
    (htask : taskOfRecord loads record = .ok (task, idempotencyKey))
    (h : processRecord runtime clock loads handlers deadline record worker = (.error e, worker')) :
    worker'.records (runtime.recordKey idempotencyKey) = none := by
  obtain ⟨-, old, hold, -, hresult⟩ | ⟨-, -, outcome, left, -, hrecords, hleft⟩ :=
    processRecord_of_task htask h
  · -- no record is in progress between two calls
    obtain hok | hprogress := hresult
    · contradiction
    · rw [hi.settled _ _ hold] at hprogress
      contradiction
  · obtain ⟨hok, -⟩ | ⟨-, -, rfl⟩ := hleft
    · contradiction
    · rw [hrecords, Function.update_self]

theorem invoked_of_free (hfree : worker.records (runtime.recordKey idempotencyKey) = none)
    (htask : taskOfRecord loads record = .ok (task, idempotencyKey)) :
    ∃ startedAt outcome,
      (processRecord runtime clock loads handlers deadline record worker).2.invocations =
      worker.invocations ++ [⟨idempotencyKey, startedAt, outcome⟩] := by
  cases h : processRecord runtime clock loads handlers deadline record worker with
  | mk result worker' =>
    obtain ⟨-, old, hold, -⟩ | ⟨-, -, outcome, -, hinvocations, -⟩ := processRecord_of_task htask h
    · rw [hfree] at hold
      contradiction
    · exact ⟨_, outcome, hinvocations⟩

/-- A batch attempts every record once, in order, and returns the ids of those that raised; a key is
not processed again before the record of its completion has expired; and a key whose attempt raised
is processed at the next one. -/
theorem batch_isolated_effect_once (runtime : IdempotencyRuntime) (clock : Clock)
    (loads : String → Option Json) (handlers : TaskHandlers ε W) :
    (∀ (worker : Worker W) (deadline : Option ℕ) (event : Members) (messageIds : List String)
        (records : List Members),
      event.lookup "Records" = some (.array (records.map Json.object)) →
      List.Forall₂ Identified messageIds records →
      ∃ results worker',
        Attempts runtime clock loads handlers deadline worker records results worker' ∧
        lambdaHandler runtime clock loads handlers deadline event worker =
          (.ok (batchResponse (failedIds messageIds results)), worker')) ∧
    ∀ worker : Worker W,
      Reachable Worker.Initial (DeliveryStep runtime clock loads handlers) worker →
      worker.invocations.Pairwise Worker.Separated ∧
      ∀ (deadline : Option ℕ) (record task : Members) (idempotencyKey : String) (e : TaskError ε)
        (worker' : Worker W),
        taskOfRecord loads record = .ok (task, idempotencyKey) →
        processRecord runtime clock loads handlers deadline record worker = (.error e, worker') →
        ∀ (deadline' : Option ℕ) (record' task' : Members),
          taskOfRecord loads record' = .ok (task', idempotencyKey) →
          ∃ startedAt outcome,
            (processRecord runtime clock loads handlers deadline' record' worker').2.invocations =
              worker'.invocations ++ [⟨idempotencyKey, startedAt, outcome⟩] := by
  refine ⟨fun worker deadline event messageIds records hevent hidentified => ?_,
    fun worker hreachable => ?_⟩
  · obtain ⟨results, worker', hattempts, hrecords⟩ :=
      processRecords_identified runtime clock loads handlers deadline hidentified [] worker
    refine ⟨results, worker', hattempts, ?_⟩
    unfold lambdaHandler
    rw [hevent]
    simp only [hrecords, List.nil_append]
  · have hi := reachable_inv hreachable
    refine ⟨hi.separated, fun deadline record task idempotencyKey e worker' htask hraised deadline'
      record' task' htask' => ?_⟩
    exact invoked_of_free (raised_leaves_free hi htask hraised) htask'

def dailyRuntime : IdempotencyRuntime := ⟨86400, by omega, fun key => key⟩

def secondsClock : Clock := ⟨fun n => 1000 * n, fun _ _ h => Nat.mul_le_mul_left 1000 h⟩

def undatedRecord : Members := [("messageId", .string "m"), ("body", .string "task")]

def idleWorker : Worker ExecutionWorld := ⟨fun _ => none, 0, ⟨fun _ => none, "", 0⟩, []⟩

def notifiedTexts : EnvelopeTexts :=
  { undatedTexts with taskType := "incident.notification.requested", idempotencyKey := "n" }

def notifiedEnvelope : Members :=
  [("task_id", .string notifiedTexts.taskId), ("kind", .string "task"),
    ("task_type", .string notifiedTexts.taskType), ("schema_version", .string "1.0"),
    ("created_at", .string notifiedTexts.createdAt), ("producer", .string notifiedTexts.producer),
    ("correlation_id", .string notifiedTexts.correlationId),
    ("idempotency_key", .string notifiedTexts.idempotencyKey), ("payload", .object [])]

theorem notified_valid : taskEnvelopeSchema jsonschema (.object notifiedEnvelope) = true := by
  have hread : notifiedTexts.Read notifiedEnvelope :=
    { undated_read with
      taskType := rfl
      taskTypeLength := by decide
      idempotencyKey := rfl
      idempotencyKeyLength := by decide
      causationId := fun _ h => by contradiction
      payload := ⟨[], rfl⟩
      metadata := fun _ h => by contradiction
      closed := by simp [notifiedEnvelope, envelopeKeys] }
  have htaskType := taskTypePattern_rmatch 'i' "ncident".toList
    [('n', "otification".toList), ('r', "equested".toList)] (List.cons_ne_nil _ _) (by decide)
    (by decide) (by decide)
  have hnamed : notifiedTexts.Named :=
    ⟨Patterns.pythonSearch_of_ecmaTest htaskType, by decide, by decide⟩
  have hid : jsonschemaFormat .uuid notifiedTexts.taskId = true :=
    jsonschemaFormat_of_rfcFormat (by decide)
  exact taskEnvelopeSchema_iff.mpr
    ⟨_, _, rfl, hread, EnvelopeTexts.checked_jsonschema.mpr ⟨hid, hnamed⟩⟩

def bodyLoads (body : String) : Option Json :=
  if body = "task" then some (.object undatedEnvelope)
  else if body = "notification" then some (.object notifiedEnvelope)
  else none

def notifiedRecord (messageId : String) : Members :=
  [("messageId", .string messageId), ("body", .string "notification")]

theorem taskOfRecord_undated :
    taskOfRecord bodyLoads undatedRecord = .ok (undatedEnvelope, "k") :=
  taskOfRecord_of_valid (by rfl) undated_valid (by rfl)

theorem taskOfRecord_notified (messageId : String) :
    taskOfRecord bodyLoads (notifiedRecord messageId) = .ok (notifiedEnvelope, "n") :=
  taskOfRecord_of_valid (by rfl) notified_valid (by rfl)

theorem dispatchTask_undated (world : ExecutionWorld) :
    dispatchTask taskHandlers undatedEnvelope world =
      (.error (.unsupportedTaskType "Unsupported task type: a.b"), world) := by
  simp [dispatchTask, taskHandlers, text?, undatedEnvelope, undatedTexts, List.lookup_cons]

theorem dispatchTask_notified (world : ExecutionWorld) :
    dispatchTask taskHandlers notifiedEnvelope world = (.ok (), world) := by
  simp [dispatchTask, taskHandlers, text?, notifiedEnvelope, notifiedTexts, undatedTexts,
    List.lookup_cons]

/-- A task whose handler is missing leaves nothing in the way of its key. -/
theorem processRecord_undated (worker : Worker ExecutionWorld)
    (hfree : worker.records (dailyRuntime.recordKey "k") = none) :
    processRecord dailyRuntime secondsClock bodyLoads taskHandlers none undatedRecord worker =
      (.error (.unsupportedTaskType "Unsupported task type: a.b"),
        { worker with
          readings := worker.readings + 2
          invocations := worker.invocations ++ [⟨"k", worker.readings, .raised⟩] }) := by
  have hstarted : secondsClock.reading worker.readings / 1000 = worker.readings :=
    Nat.mul_div_cancel_left _ (by omega)
  have hdeleted :
      Function.update worker.records (dailyRuntime.recordKey "k") none = worker.records := by
    rw [← hfree, Function.update_eq_self]
  rw [processRecord_eq taskOfRecord_undated]
  simp [processTaskIdempotently, saveInProgress, hfree,
    invokeTaskProcessor, dispatchTask_undated, deleteRecord, hstarted, hdeleted]

theorem processRecord_notified (messageId : String) (worker : Worker ExecutionWorld)
    (hfree : worker.records (dailyRuntime.recordKey "n") = none) :
    processRecord dailyRuntime secondsClock bodyLoads taskHandlers none (notifiedRecord messageId)
        worker =
      (.ok (),
        { worker with
          records := Function.update worker.records (dailyRuntime.recordKey "n")
            (some ⟨.completed, worker.readings + 1 + dailyRuntime.expiresAfterSeconds, none⟩)
          readings := worker.readings + 2
          invocations := worker.invocations ++
            [⟨"n", worker.readings,
              .completed (worker.readings + 1 + dailyRuntime.expiresAfterSeconds)⟩] }) := by
  have hreading (n : ℕ) : secondsClock.reading n / 1000 = n :=
    Nat.mul_div_cancel_left _ (by omega)
  rw [processRecord_eq (taskOfRecord_notified messageId)]
  simp [processTaskIdempotently, saveInProgress, hfree,
    invokeTaskProcessor, dispatchTask_notified, saveSuccess, hreading]

theorem processRecord_notified_again (messageId : String) (worker : Worker ExecutionWorld)
    {expiry : ℕ} (hrecord : worker.records (dailyRuntime.recordKey "n") =
      some ⟨.completed, expiry, none⟩) (hkept : worker.readings ≤ expiry) :
    processRecord dailyRuntime secondsClock bodyLoads taskHandlers none (notifiedRecord messageId)
        worker = (.ok (), { worker with readings := worker.readings + 1 }) := by
  have hreading (n : ℕ) : secondsClock.reading n / 1000 = n :=
    Nat.mul_div_cancel_left _ (by omega)
  rw [processRecord_eq (taskOfRecord_notified messageId)]
  simp [processTaskIdempotently, saveInProgress, hrecord,
    DataRecord.replaceable, hreading, hkept.not_gt]

/-- The first record of three raises, the second one is processed, and the third one is of the same
key as the second; then the first one comes again, and its key is attempted again. -/
theorem undated_attempted_again :
    (∃ worker', lambdaHandler dailyRuntime secondsClock bodyLoads taskHandlers none
          [("Records",
            .array ([undatedRecord, notifiedRecord "n", notifiedRecord "o"].map Json.object))]
          idleWorker = (.ok (batchResponse ["m"]), worker')) ∧
    ∃ worker' startedAt outcome,
      (processRecord dailyRuntime secondsClock bodyLoads taskHandlers none undatedRecord
        worker').2.invocations = worker'.invocations ++ [⟨"k", startedAt, outcome⟩] := by
  obtain ⟨hbatch, hruns⟩ :=
    batch_isolated_effect_once dailyRuntime secondsClock bodyLoads taskHandlers
  have hidentified : List.Forall₂ Identified ["m", "n", "o"]
      [undatedRecord, notifiedRecord "n", notifiedRecord "o"] :=
    .cons ⟨rfl, by decide⟩ (.cons ⟨rfl, by decide⟩ (.cons ⟨rfl, by decide⟩ .nil))
  constructor
  · obtain ⟨results, worker', hattempts, hresponse⟩ :=
      hbatch idleWorker none [("Records", .array ([undatedRecord, notifiedRecord "n",
        notifiedRecord "o"].map Json.object))] ["m", "n", "o"] _ rfl hidentified
    refine ⟨worker', ?_⟩
    rw [hresponse]
    cases hattempts with
    | cons hfirst hrest =>
      rw [processRecord_undated idleWorker rfl] at hfirst
      obtain ⟨rfl, rfl⟩ := Prod.mk.inj hfirst
      cases hrest with
      | @cons _ notified _ _ _ _ _ hsecond hrest =>
        rw [processRecord_notified "n" _ rfl] at hsecond
        obtain ⟨rfl, hnotified⟩ := Prod.mk.inj hsecond
        have hrecord : notified.records (dailyRuntime.recordKey "n") =
            some ⟨.completed, 3 + dailyRuntime.expiresAfterSeconds, none⟩ := by
          rw [← hnotified]
          simp [idleWorker]
        have hkept : notified.readings ≤ 3 + dailyRuntime.expiresAfterSeconds := by
          rw [← hnotified]
          decide
        cases hrest with
        | cons hthird hrest =>
          rw [processRecord_notified_again "o" notified hrecord hkept] at hthird
          obtain ⟨rfl, rfl⟩ := Prod.mk.inj hthird
          cases hrest
          rfl
  · obtain ⟨-, hagain⟩ := hruns idleWorker ⟨idleWorker, [], ⟨rfl, rfl⟩, .nil _⟩
    exact ⟨_, hagain none undatedRecord undatedEnvelope "k" _ _ taskOfRecord_undated
      (processRecord_undated idleWorker rfl) none undatedRecord undatedEnvelope
        taskOfRecord_undated⟩

end OpsFlow.Execution
