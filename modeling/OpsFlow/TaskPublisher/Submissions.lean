import OpsFlow.TaskPublisher.PublisherLaw

namespace OpsFlow.TaskPublisher
open Contracts Execution Transition

/-! ## From the queue to the worker -/

/-- Python's `json.loads` on the texts that `JSON.stringify` writes: it reads what was written, with
the numbers as it understands them, unless that is nested so deeply that it raises a
`RecursionError`. -/
structure JsonLoads (runtime : NodeRuntime) where
  loads : String → Option Json
  depthLimit : ℕ
  reread : ℚ → Json
  reads : ∀ value : Json, value.Distinct → value.depth ≤ depthLimit →
    loads (String.ofList (stringify runtime.number value)) = some (value.reread reread)
  sound : ∀ value read : Json, value.Distinct →
    loads (String.ofList (stringify runtime.number value)) = some read → read = value.reread reread

def sqsRecord (messageId : String) (message : SendMessageInput) : Members :=
  [("messageId", .string messageId), ("body", .string message.messageBody)]

variable {runtime : NodeRuntime} {environment : String → Option String} {event : HttpEvent}
  {draw : EnvelopeDraw} {answer : SendAnswer} {input : PublishTaskInput} {config : PublisherConfig}
  {envelope : TaskEnvelope} {reread : ℚ → Json} {message : SendMessageInput}
  {python : JsonLoads runtime} {messageId : String}

theorem parseRecordBody_eq_ok {loads : String → Option Json} {record : Members} {body : String}
    {value : Json} (hbody : text? record "body" = some body) :
    parseRecordBody loads record = .ok value ↔ loads body = some value := by
  unfold parseRecordBody
  rw [hbody]
  cases h : loads body with
  | none => simp only [h, reduceCtorEq]
  | some read => simp only [h, Except.ok.injEq, Option.some.injEq]

theorem distinct_members (hpayload : (Json.object envelope.payload).Distinct)
    (hmetadata : ∀ metadata ∈ envelope.metadata, (metadata.map Prod.fst).Nodup) :
    (Json.object envelope.members).Distinct := by
  have hcausation (envelope : TaskEnvelope) : envelope.causationIdJson.Distinct := by
    unfold TaskEnvelope.causationIdJson
    split
    · trivial
    · trivial
  obtain ⟨_, _, _, _, _, causationId, _, payload, metadata⟩ := envelope
  cases metadata with
  | none =>
    have hkeys : (envelopeKeys.take 10).Nodup := by decide
    refine ⟨hkeys, ?_⟩
    exact ⟨trivial, trivial, trivial, trivial, trivial, trivial, trivial, hcausation _, trivial,
      hpayload, trivial⟩
  | some metadata =>
    have hobject :
        (Json.object (metadata.map fun entry => (entry.1, Json.string entry.2))).Distinct := by
      refine ⟨?_, distinctMembers_iff.mpr fun m hm => ?_⟩
      · rw [List.map_map]
        exact hmetadata metadata rfl
      · obtain ⟨entry, -, rfl⟩ := List.mem_map.mp hm
        trivial
    have hkeys : envelopeKeys.Nodup := by decide
    refine ⟨hkeys, ?_⟩
    exact ⟨trivial, trivial, trivial, trivial, trivial, trivial, trivial, hcausation _, trivial,
      hpayload, hobject, trivial⟩

/-- What is read of an envelope is an envelope with the same texts. -/
theorem read_reread {t : EnvelopeTexts} {members : Members} (h : t.Read members) :
    t.Read (rereadMembers reread members) := by
  have hlookup {key s : String} (hs : members.lookup key = some (.string s)) :
      (rereadMembers reread members).lookup key = some (.string s) := by
    rw [lookup_rereadMembers, hs]
    rfl
  have hread {key : String} {value : Json}
      (hv : (rereadMembers reread members).lookup key = some value) :
      ∃ old, members.lookup key = some old ∧ old.reread reread = value := by
    rw [lookup_rereadMembers] at hv
    exact Option.map_eq_some_iff.mp hv
  refine ⟨hlookup h.taskId, hlookup h.kind, hlookup h.taskType, h.taskTypeLength,
    hlookup h.schemaVersion, hlookup h.createdAt, hlookup h.producer, h.producerLength,
    hlookup h.correlationId, h.correlationIdLength,
    fun value hvalue => ?_, hlookup h.idempotencyKey,
    h.idempotencyKeyLength, ?_, fun value hvalue => ?_, fun m hm => ?_⟩
  · obtain ⟨old, hold, rfl⟩ := hread hvalue
    obtain ⟨s, rfl, hlength⟩ | rfl := h.causationId old hold
    · exact .inl ⟨s, rfl, hlength⟩
    · exact .inr rfl
  · obtain ⟨payload, hpayload⟩ := h.payload
    rw [lookup_rereadMembers, hpayload]
    exact ⟨_, rfl⟩
  · obtain ⟨old, hold, rfl⟩ := hread hvalue
    obtain ⟨entries, rfl, hlength, hstrings⟩ := h.metadata old hold
    refine ⟨_, rfl, ?_, fun entry hentry => ?_⟩
    · rwa [rereadMembers_eq, List.length_map]
    · rw [rereadMembers_eq] at hentry
      obtain ⟨entry, hmem, rfl⟩ := List.mem_map.mp hentry
      obtain ⟨s, hs, hle⟩ := hstrings entry hmem
      exact ⟨s, by rw [hs]; rfl, hle⟩
  · have hmem := List.mem_map_of_mem (f := Prod.fst) hm
    rw [map_fst_rereadMembers] at hmem
    obtain ⟨m', hm', heq⟩ := List.mem_map.mp hmem
    rw [← heq]
    exact h.closed m' hm'

/-- What the publisher's validator passes, the worker's validator passes. -/
theorem checked_jsonschema_of_ajv {t : EnvelopeTexts} {u : Uuid} (hid : t.taskId = u.str)
    (h : t.Checked ajv) : t.Checked jsonschema := by
  refine EnvelopeTexts.checked_jsonschema.mpr ⟨?_, (EnvelopeTexts.checked_ajv.mp h).2.2.1⟩
  rw [hid]
  exact jsonschemaFormat_of_rfcFormat (rfcFormat_str u)

theorem distinct_messageOf (hw : input.WellFormed) (config : PublisherConfig)
    (draw : EnvelopeDraw) :
    (Json.object (createTaskEnvelope input config.producerName draw).members).Distinct :=
  distinct_members hw.payload hw.metadata

theorem checked_ajv_of_valid {producerName : String} (hw : input.WellFormed)
    (h : Contracts.TaskPublisher.validateTaskEnvelope
      (.object (createTaskEnvelope input producerName draw).members) = true) :
    (createTaskEnvelope input producerName draw).texts.Checked ajv := by
  obtain ⟨members, t, hmembers, hread, hchecked⟩ := taskEnvelopeSchema_iff.mp h
  obtain rfl := Json.object.inj hmembers
  rw [(read_members hw (publishable_of_valid h)).unique hread]
  exact hchecked

/-- The envelope of a request that can be sent, as it is read back, passes the worker's
validator. -/
theorem valid_reread (hs : Sendable runtime environment event draw input config) :
    taskEnvelopeSchema jsonschema (.object (rereadMembers reread
      (createTaskEnvelope input config.producerName draw).members)) = true := by
  have hw := wellFormed_of_parsePublishTaskRequest hs.parsed
  have hread : (createTaskEnvelope input config.producerName draw).texts.Read
      (createTaskEnvelope input config.producerName draw).members :=
    read_members hw (publishable_of_valid hs.valid)
  have hid : (createTaskEnvelope input config.producerName draw).texts.taskId = draw.taskId.str :=
    rfl
  have hchecked := checked_jsonschema_of_ajv hid (checked_ajv_of_valid hw hs.valid)
  exact taskEnvelopeSchema_iff.mpr ⟨_, _, rfl, read_reread hread, hchecked⟩

theorem text?_reread {members : Members} {key s : String}
    (h : members.lookup key = some (.string s)) :
    text? (rereadMembers reread members) key = some s := by
  unfold text?
  rw [lookup_rereadMembers, h]
  rfl

/-- What the worker can load of the message of a request, it takes for what was requested. -/
theorem taskOfRecord_messageOf (hs : Sendable runtime environment event draw input config)
    {read : Json}
    (hloads : python.loads (messageOf runtime config input draw).messageBody = some read)
    (messageId : String) :
    taskOfRecord python.loads (sqsRecord messageId (messageOf runtime config input draw)) =
      .ok (rereadMembers python.reread (createTaskEnvelope input config.producerName draw).members,
        input.idempotencyKey) := by
  have hw := wellFormed_of_parsePublishTaskRequest hs.parsed
  obtain rfl := python.sound _ _ (distinct_messageOf hw config draw) hloads
  have hbody : parseRecordBody python.loads
      (sqsRecord messageId (messageOf runtime config input draw)) = .ok (.object (rereadMembers
        python.reread (createTaskEnvelope input config.producerName draw).members)) :=
    (parseRecordBody_eq_ok rfl).mpr hloads
  exact taskOfRecord_of_valid hbody (valid_reread hs) (text?_reread rfl)

theorem loads_messageOf (hw : input.WellFormed)
    (hdepth : (Json.object input.payload).depth < python.depthLimit) (config : PublisherConfig)
    (draw : EnvelopeDraw) :
    python.loads (messageOf runtime config input draw).messageBody = some (.object (rereadMembers
      python.reread (createTaskEnvelope input config.producerName draw).members)) := by
  have hdeep : (Json.object (createTaskEnvelope input config.producerName draw).members).depth =
      (Json.object input.payload).depth + 1 := depth_members _
  exact python.reads _ (distinct_messageOf hw config draw) (by omega)

theorem sendable_of_sent
    (h : message ∈ (handler runtime environment event draw answer).2) :
    ∃ input config, Sendable runtime environment event draw input config ∧
      message = messageOf runtime config input draw ∧
      (handler runtime environment event draw answer).2 = [message] := by
  obtain ⟨_, hhandler, -⟩ | ⟨hhandler, -⟩ | ⟨input, config, hs, ⟨-, hhandler⟩ | ⟨-, hhandler⟩⟩ :=
    handler_cases runtime environment event draw answer
  · rw [hhandler] at h
    contradiction
  · rw [hhandler] at h
    contradiction
  · rw [hhandler] at h ⊢
    obtain rfl := List.mem_singleton.mp h
    exact ⟨input, config, hs, rfl, rfl⟩
  · rw [hhandler] at h ⊢
    obtain rfl := List.mem_singleton.mp h
    exact ⟨input, config, hs, rfl, rfl⟩

/-- A message that the endpoint sends is the only one for its request, and the worker reads it as
the task that was requested: no envelope that one service makes is refused by the other. -/
theorem submission_reaches_worker (runtime : NodeRuntime) (environment : String → Option String)
    (request : PublishRequest runtime) (draw : EnvelopeDraw) (answer : SendAnswer)
    (python : JsonLoads runtime) {message : SendMessageInput}
    (h : message ∈ (handler runtime environment request.event draw answer).2) :
    ∃ input config, parsePublishTaskRequest runtime request.event = .ok input ∧
      loadPublisherConfig environment = .ok config ∧
      (handler runtime environment request.event draw answer).2 = [message] ∧
      ((Json.object input.payload).depth < python.depthLimit → ∀ messageId,
        taskOfRecord python.loads (sqsRecord messageId message) =
          .ok (rereadMembers python.reread
            (createTaskEnvelope input config.producerName draw).members,
            input.idempotencyKey)) := by
  obtain ⟨input, config, hs, rfl, hsent⟩ := sendable_of_sent h
  have hw := wellFormed_of_parsePublishTaskRequest hs.parsed
  exact ⟨input, config, hs.parsed, hs.configured, hsent,
    fun hdepth messageId =>
      taskOfRecord_messageOf hs (loads_messageOf hw hdepth config draw) messageId⟩

/-- A reader that never gives up. -/
def plainPython : JsonLoads plainNode where
  loads := Json.parse?
  depthLimit := 1000
  reread _ := .null
  reads _ hd _ := parse?_stringify_of_distinct writesNumbers_plain hd
  sound _ _ hd h :=
    Option.some.inj (h.symm.trans (parse?_stringify_of_distinct writesNumbers_plain hd))

theorem sent_checkout (answer : SendAnswer) :
    (handler plainNode checkoutEnvironment checkoutEvent checkoutDraw answer).2 =
      [messageOf plainNode checkoutConfig checkoutInput checkoutDraw] := by
  have hnow : InIsoYears checkoutDraw.now := ⟨by decide, by decide⟩
  obtain ⟨-, hhandler⟩ | ⟨-, hhandler⟩ := acceptable_checkout.handled hnow answer
  · rw [hhandler]
  · rw [hhandler]

/-- The message is sent although SQS does not answer, and is a task nevertheless. -/
theorem checkout_reaches_worker : ∃ task,
    taskOfRecord plainPython.loads (sqsRecord "m"
      (messageOf plainNode checkoutConfig checkoutInput checkoutDraw)) = .ok (task, "k") := by
  have hsent : messageOf plainNode checkoutConfig checkoutInput checkoutDraw ∈
      (handler plainNode checkoutEnvironment checkoutEvent checkoutDraw (.thrown "timeout")).2 := by
    rw [sent_checkout]
    exact List.mem_singleton_self _
  obtain ⟨input, config, hparsed, -, -, htask⟩ := submission_reaches_worker plainNode
    checkoutEnvironment checkoutRequest checkoutDraw (.thrown "timeout") plainPython hsent
  obtain rfl := Except.ok.inj (parsed_checkout.symm.trans hparsed)
  exact ⟨_, htask (by decide) "m"⟩

/-! ## Runs of the two services -/

/-- Every message that was handed to SQS, and the worker. -/
structure System (W : Type) where
  sent : List SendMessageInput
  worker : Worker W

inductive Label (runtime : NodeRuntime)
  | request (request : PublishRequest runtime) (draw : EnvelopeDraw) (answer : SendAnswer)
  | deliver (deadline : Option ℕ) (records : List (String × SendMessageInput))
  | expire (removed : String → Bool)

def batchRecords (records : List (String × SendMessageInput)) : List Members :=
  records.map fun record => sqsRecord record.1 record.2

def batchEvent (records : List (String × SendMessageInput)) : Members :=
  [("Records", .array ((batchRecords records).map Json.object))]

section Runs
variable {ε W : Type} (runtime : NodeRuntime) (environment : String → Option String)
  (python : JsonLoads runtime) (idempotency : IdempotencyRuntime) (clock : Clock)
  (handlers : TaskHandlers ε W)

/-- A message is delivered any number of times, in any order and in any batches, or never. -/
inductive Step : System W → Label runtime → System W → Prop
  | request (s : System W) (request : PublishRequest runtime) (draw : EnvelopeDraw)
      (answer : SendAnswer) :
      Step s (.request request draw answer)
        { s with sent := s.sent ++ (handler runtime environment request.event draw answer).2 }
  | deliver {s : System W} (deadline : Option ℕ) {records : List (String × SendMessageInput)} :
      (∀ record ∈ records, record.1 ≠ "" ∧ record.2 ∈ s.sent) →
      Step s (.deliver deadline records)
        { s with
          worker := deliver idempotency clock python.loads handlers s.worker
            (.batch deadline (batchEvent records)) }
  | expire (s : System W) (removed : String → Bool) :
      Step s (.expire removed)
        { s with
          worker := deliver idempotency clock python.loads handlers s.worker (.expire removed) }

def System.Initial (s : System W) : Prop := s.sent = [] ∧ s.worker.Initial

/-- A request of some client that the message was sent for. -/
def SentFor (message : SendMessageInput) (input : PublishTaskInput) : Prop :=
  ∃ event draw config, Sendable runtime environment event draw input config ∧
    message = messageOf runtime config input draw

/-- Some client has asked for the key, and its message was sent. -/
def System.Asked (s : System W) (idempotencyKey : String) : Prop :=
  ∃ message ∈ s.sent, ∃ input, SentFor runtime environment message input ∧
    input.idempotencyKey = idempotencyKey

structure System.Inv (s : System W) : Prop where
  sent : ∀ message ∈ s.sent, ∃ input, SentFor runtime environment message input
  worker : s.worker.Inv idempotency clock
  asked : ∀ i ∈ s.worker.invocations, s.Asked runtime environment i.idempotencyKey

variable {runtime environment python idempotency clock handlers}

/-- The key that a task is processed under is one of its members. -/
theorem key_of_taskOfRecord {loads : String → Option Json} {record task : Members}
    {idempotencyKey : String} (h : taskOfRecord loads record = .ok (task, idempotencyKey)) :
    text? task "idempotency_key" = some idempotencyKey := by
  unfold taskOfRecord at h
  rw [bind_eq_ok] at h
  obtain ⟨candidate, -, h⟩ := h
  split at h
  · contradiction
  · split at h
    · contradiction
    · rename_i hkey
      obtain ⟨rfl, rfl⟩ := Prod.mk.inj (Except.ok.inj h)
      exact hkey
  · contradiction

/-- Whatever the worker takes from a message, it takes under the key that the client gave. -/
theorem SentFor.key {message : SendMessageInput} {input : PublishTaskInput} {messageId : String}
    {task : Members} {idempotencyKey : String} (h : SentFor runtime environment message input)
    (htask : taskOfRecord python.loads (sqsRecord messageId message) = .ok (task, idempotencyKey)) :
    input.idempotencyKey = idempotencyKey := by
  obtain ⟨event, draw, config, hs, rfl⟩ := h
  have hw := wellFormed_of_parsePublishTaskRequest hs.parsed
  have hloads := (parseRecordBody_eq_ok rfl).mp (taskOfRecord_body htask)
  obtain rfl := Json.object.inj (python.sound _ _ (distinct_messageOf hw config draw) hloads)
  have hkey := key_of_taskOfRecord htask
  have hinput : text? (rereadMembers python.reread
      (createTaskEnvelope input config.producerName draw).members) "idempotency_key" =
        some input.idempotencyKey := text?_reread rfl
  rw [hinput] at hkey
  exact Option.some.inj hkey

/-- A batch adds no other keys to the invocations than those of its records. -/
theorem attempts_keys {loads : String → Option Json} {deadline : Option ℕ}
    {worker worker' : Worker W} {records : List Members}
    {results : List (Except (TaskError ε) Unit)} {P : String → Prop}
    (hrecords : ∀ record ∈ records, ∀ task idempotencyKey,
      taskOfRecord loads record = .ok (task, idempotencyKey) → P idempotencyKey)
    (h : Attempts idempotency clock loads handlers deadline worker records results worker')
    (hworker : ∀ i ∈ worker.invocations, P i.idempotencyKey) :
    ∀ i ∈ worker'.invocations, P i.idempotencyKey := by
  induction h with
  | nil => exact hworker
  | @cons worker worker₁ worker' record records result results hrecord _ ih =>
    rw [List.forall_mem_cons] at hrecords
    refine ih hrecords.2 fun i hi => ?_
    obtain ⟨-, -, -, rfl⟩ | ⟨task, idempotencyKey, htask, ⟨rfl, -⟩ | hinvoked⟩ :=
      processRecord_cases hrecord
    · exact hworker i hi
    · exact hworker i hi
    · obtain ⟨-, -, outcome, -, hinvocations, -⟩ := hinvoked
      rw [hinvocations] at hi
      obtain hi | hi := List.mem_append.mp hi
      · exact hworker i hi
      · obtain rfl := List.mem_singleton.mp hi
        exact hrecords.1 task idempotencyKey htask

/-- The record carries a task, with a type to be dispatched on. -/
def Readable (loads : String → Option Json) (record : Members) : Prop :=
  ∃ task idempotencyKey taskType, taskOfRecord loads record = .ok (task, idempotencyKey) ∧
    text? task "task_type" = some taskType

/-- An attempt of a readable record never fails for the record itself. -/
theorem processRecord_readable {loads : String → Option Json} {deadline : Option ℕ}
    {worker worker' : Worker W} {record : Members} {e : RecordError}
    (hreadable : Readable loads record) :
    processRecord idempotency clock loads handlers deadline record worker ≠
      (.error (.record e), worker') := by
  obtain ⟨task, idempotencyKey, taskType, htask, htype⟩ := hreadable
  have hdispatch (world world' : W) :
      dispatchTask handlers task world ≠ (.error (.record e), world') := by
    intro h
    unfold dispatchTask at h
    rw [htype] at h
    simp only at h
    split at h
    · cases (Prod.mk.inj h).1
    · split at h
      · cases (Prod.mk.inj h).1
      · cases (Prod.mk.inj h).1
  intro h
  unfold processRecord at h
  rw [htask] at h
  simp only [processTaskIdempotently] at h
  split at h
  · unfold invokeTaskProcessor at h
    simp only at h
    split at h
    · cases (Prod.mk.inj h).1
    · rename_i error world hprocessor
      obtain rfl := Except.error.inj (Prod.mk.inj h).1
      exact hdispatch _ _ hprocessor
  · split at h
    · cases (Prod.mk.inj h).1
    · cases (Prod.mk.inj h).1

theorem attempts_readable {loads : String → Option Json} {deadline : Option ℕ}
    {worker worker' : Worker W} {records : List Members}
    {results : List (Except (TaskError ε) Unit)}
    (hrecords : ∀ record ∈ records, Readable loads record)
    (h : Attempts idempotency clock loads handlers deadline worker records results worker') :
    ∀ result ∈ results, ∀ e, result ≠ .error (.record e) := by
  induction h with
  | nil => exact fun _ hmem => by contradiction
  | cons hrecord _ ih =>
    rw [List.forall_mem_cons] at hrecords ⊢
    refine ⟨?_, ih hrecords.2⟩
    rintro e rfl
    exact processRecord_readable hrecords.1 hrecord

/-- The body of the message is the text of a value that is not nested too deeply for the worker. -/
def Shallow (python : JsonLoads runtime) (message : SendMessageInput) : Prop :=
  ∃ value : Json, value.Distinct ∧
    message.messageBody = String.ofList (stringify runtime.number value) ∧
    value.depth ≤ python.depthLimit

theorem SentFor.readable {message : SendMessageInput} {input : PublishTaskInput}
    (h : SentFor runtime environment message input) (hshallow : Shallow python message)
    (messageId : String) : Readable python.loads (sqsRecord messageId message) := by
  obtain ⟨event, draw, config, hs, rfl⟩ := h
  obtain ⟨value, hd, htext, hdepth⟩ := hshallow
  have hloads := python.reads value hd hdepth
  rw [← htext] at hloads
  exact ⟨_, _, input.taskType, taskOfRecord_messageOf hs hloads messageId, text?_reread rfl⟩

theorem identified_batchRecords {records : List (String × SendMessageInput)}
    (h : ∀ record ∈ records, record.1 ≠ "") :
    List.Forall₂ Identified (records.map Prod.fst) (batchRecords records) := by
  unfold batchRecords
  rw [List.forall₂_map_left_iff, List.forall₂_map_right_iff, List.forall₂_same]
  exact fun record hrecord => ⟨rfl, h record hrecord⟩

variable (python idempotency clock handlers) in
/-- The answer to a batch of messages, and the attempts that it made. -/
theorem lambdaHandler_batch (deadline : Option ℕ) (worker : Worker W)
    {records : List (String × SendMessageInput)} (h : ∀ record ∈ records, record.1 ≠ "") :
    ∃ results worker', Attempts idempotency clock python.loads handlers deadline worker
        (batchRecords records) results worker' ∧
      lambdaHandler idempotency clock python.loads handlers deadline (batchEvent records) worker =
        (.ok (batchResponse (failedIds (records.map Prod.fst) results)), worker') := by
  obtain ⟨results, worker', hattempts, hrecords⟩ := processRecords_identified idempotency clock
    python.loads handlers deadline (identified_batchRecords h) [] worker
  refine ⟨results, worker', hattempts, ?_⟩
  have hevent : (batchEvent records).lookup "Records" =
      some (.array ((batchRecords records).map Json.object)) := rfl
  unfold lambdaHandler
  rw [hevent]
  simp only [hrecords, List.nil_append]

theorem System.Asked.mono {s s' : System W} {idempotencyKey : String}
    (h : s.Asked runtime environment idempotencyKey) (hsub : ∀ m ∈ s.sent, m ∈ s'.sent) :
    s'.Asked runtime environment idempotencyKey := by
  obtain ⟨message, hmessage, input, hfor, hkey⟩ := h
  exact ⟨message, hsub message hmessage, input, hfor, hkey⟩

/-- What a batch of messages adds was asked for. -/
theorem System.Inv.asked_batch
    {s : System W} (hi : s.Inv runtime environment idempotency clock) (deadline : Option ℕ)
    {records : List (String × SendMessageInput)}
    (hrecords : ∀ record ∈ records, record.1 ≠ "" ∧ record.2 ∈ s.sent) :
    ∀ i ∈ (lambdaHandler idempotency clock python.loads handlers deadline (batchEvent records)
        s.worker).2.invocations, s.Asked runtime environment i.idempotencyKey := by
  obtain ⟨results, worker', hattempts, hhandler⟩ := lambdaHandler_batch python idempotency
    clock handlers deadline s.worker fun record hrecord => (hrecords record hrecord).1
  rw [hhandler]
  refine attempts_keys (fun record hrecord task idempotencyKey htask => ?_) hattempts hi.asked
  obtain ⟨⟨messageId, message⟩, hmem, rfl⟩ := List.mem_map.mp hrecord
  have hsent := (hrecords _ hmem).2
  obtain ⟨input, hfor⟩ := hi.sent message hsent
  exact ⟨message, hsent, input, hfor, hfor.key htask⟩

theorem inv_deliver (loads : String → Option Json) (handlers : TaskHandlers ε W)
    {worker : Worker W} (hi : worker.Inv idempotency clock) (delivery : Delivery) :
    (Execution.deliver idempotency clock loads handlers worker delivery).Inv idempotency clock := by
  have hstep : DeliveryStep idempotency clock loads handlers worker delivery
      (Execution.deliver idempotency clock loads handlers worker delivery) := rfl
  exact inv_step hi hstep

theorem System.Inv.step {s s' : System W} {label : Label runtime}
    (hi : s.Inv runtime environment idempotency clock)
    (h : Step runtime environment python idempotency clock handlers s label s') :
    s'.Inv runtime environment idempotency clock := by
  cases h with
  | request request draw answer =>
    refine ⟨fun message hmessage => ?_, hi.worker, fun i hmem => ?_⟩
    · obtain hmessage | hmessage := List.mem_append.mp hmessage
      · exact hi.sent message hmessage
      · obtain ⟨input, config, hs, hmessage, -⟩ := sendable_of_sent hmessage
        exact ⟨input, request.event, draw, config, hs, hmessage⟩
    · exact (hi.asked i hmem).mono fun m hm => List.mem_append_left _ hm
  | @deliver deadline records hrecords =>
    have hw := inv_deliver python.loads handlers hi.worker (.batch deadline (batchEvent records))
    exact ⟨hi.sent, hw, hi.asked_batch deadline hrecords⟩
  | expire removed =>
    -- the table only drops records
    have hw := inv_deliver python.loads handlers hi.worker (.expire removed)
    exact ⟨hi.sent, hw, hi.asked⟩

theorem System.inv_of_initial {s : System W} (h : s.Initial) :
    s.Inv runtime environment idempotency clock := by
  refine ⟨fun message hmessage => ?_, inv_initial h.2, fun i hi => ?_⟩
  · rw [h.1] at hmessage
    contradiction
  · rw [h.2.2] at hi
    contradiction

/-- Whatever clients ask for, however often SQS delivers it, and whatever else is asked for
meanwhile: the worker processes nothing that no client has asked for, it does not process a key
again before the record of its completion has expired, and no batch of messages fails for a record
that cannot be read. -/
theorem submissions_processed {s : System W} (h : Reachable System.Initial
      (Step runtime environment python idempotency clock handlers) s) :
    (∀ i ∈ s.worker.invocations, s.Asked runtime environment i.idempotencyKey) ∧
    s.worker.invocations.Pairwise Worker.Separated ∧
    ∀ (deadline : Option ℕ) (records : List (String × SendMessageInput)),
      (∀ record ∈ records, record.1 ≠ "" ∧ record.2 ∈ s.sent ∧ Shallow python record.2) →
      ∃ results worker', Attempts idempotency clock python.loads handlers deadline s.worker
          (batchRecords records) results worker' ∧
        lambdaHandler idempotency clock python.loads handlers deadline (batchEvent records)
          s.worker = (.ok (batchResponse (failedIds (records.map Prod.fst) results)), worker') ∧
        ∀ result ∈ results, ∀ e, result ≠ .error (.record e) := by
  have hi : s.Inv runtime environment idempotency clock :=
    h.invariant (fun _ hinitial => System.inv_of_initial hinitial) fun _ _ _ hi hstep =>
      hi.step hstep
  refine ⟨hi.asked, hi.worker.separated, fun deadline records hrecords => ?_⟩
  obtain ⟨results, worker', hattempts, hhandler⟩ := lambdaHandler_batch python idempotency
    clock handlers deadline s.worker fun record hrecord => (hrecords record hrecord).1
  refine ⟨results, worker', hattempts, hhandler,
    attempts_readable (fun record hrecord => ?_) hattempts⟩
  obtain ⟨⟨messageId, message⟩, hmem, rfl⟩ := List.mem_map.mp hrecord
  obtain ⟨-, hsent, hshallow⟩ := hrecords _ hmem
  obtain ⟨input, hfor⟩ := hi.sent message hsent
  exact hfor.readable hshallow messageId

end Runs

theorem shallow_checkout :
    Shallow plainPython (messageOf plainNode checkoutConfig checkoutInput checkoutDraw) := by
  have hw := wellFormed_of_parsePublishTaskRequest parsed_checkout
  refine ⟨_, distinct_messageOf hw checkoutConfig checkoutDraw, rfl, ?_⟩
  decide

def queuedCheckout : System ExecutionWorld :=
  ⟨[messageOf plainNode checkoutConfig checkoutInput checkoutDraw], idleWorker⟩

theorem queuedCheckout_processed : ∃ results worker',
    Attempts dailyRuntime secondsClock plainPython.loads taskHandlers none idleWorker
      (batchRecords [("m", messageOf plainNode checkoutConfig checkoutInput checkoutDraw)])
      results worker' ∧
    ∀ result ∈ results, ∀ e, result ≠ .error (.record e) := by
  have hreachable : Reachable System.Initial (Step plainNode checkoutEnvironment plainPython
      dailyRuntime secondsClock taskHandlers) queuedCheckout := by
    have hstep :
        Step plainNode checkoutEnvironment plainPython dailyRuntime secondsClock taskHandlers
        ⟨[], idleWorker⟩ (.request checkoutRequest checkoutDraw (.thrown "timeout"))
          queuedCheckout := by
      have hqueue : queuedCheckout = { (⟨[], idleWorker⟩ : System ExecutionWorld) with
          sent := [] ++ (handler plainNode checkoutEnvironment checkoutEvent checkoutDraw
            (.thrown "timeout")).2 } := by
        rw [sent_checkout]
        rfl
      rw [hqueue]
      exact .request _ _ _ _
    exact ⟨⟨[], idleWorker⟩, _, ⟨rfl, rfl, rfl⟩, .single hstep⟩
  obtain ⟨-, -, hbatches⟩ := submissions_processed hreachable
  obtain ⟨results, worker', hattempts, -, hread⟩ := hbatches none
    [("m", messageOf plainNode checkoutConfig checkoutInput checkoutDraw)] fun record hrecord => by
      obtain rfl := List.mem_singleton.mp hrecord
      exact ⟨by decide, List.mem_singleton_self _, shallow_checkout⟩
  exact ⟨results, worker', hattempts, hread⟩

end OpsFlow.TaskPublisher
