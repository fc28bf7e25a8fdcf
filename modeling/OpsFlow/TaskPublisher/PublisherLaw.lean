import OpsFlow.TaskPublisher.Publisher
import OpsFlow.Execution.BatchLaw

namespace OpsFlow.TaskPublisher
open Contracts Execution Patterns

variable {runtime : NodeRuntime} {environment : String → Option String} {event : HttpEvent}
  {draw : EnvelopeDraw} {answer : SendAnswer} {input : PublishTaskInput} {config : PublisherConfig}
  {envelope : TaskEnvelope} {producerName : String} {reread : ℚ → Json} {message : SendMessageInput}

/-! ## What the contract asks of a request -/

/-- What is left to check when a request has been parsed; the other rules of the contract hold of
every envelope that the publisher creates. -/
structure Publishable (input : PublishTaskInput) (producerName : String) : Prop where
  taskType : ecmaTest taskTypePattern input.taskType = true
  taskTypeLength : 3 ≤ input.taskType.length ∧ input.taskType.length ≤ 120
  producer : ecmaTest producerPattern producerName = true
  producerLength : 1 ≤ producerName.length ∧ producerName.length ≤ 100
  idempotencyKey : ecmaTest idempotencyKeyPattern input.idempotencyKey = true
  idempotencyKeyLength : 1 ≤ input.idempotencyKey.length ∧ input.idempotencyKey.length ≤ 255
  metadata : ∀ entries ∈ input.metadata, entries.length ≤ 20 ∧
    ∀ entry ∈ entries, entry.2.length ≤ 1024

def TaskEnvelope.texts (envelope : TaskEnvelope) : EnvelopeTexts :=
  ⟨envelope.taskId, envelope.taskType, envelope.createdAt, envelope.producer,
    envelope.correlationId, envelope.idempotencyKey⟩

theorem length_pos {s : String} (h : s ≠ "") : 1 ≤ s.length := by
  rw [← String.length_toList]
  exact List.length_pos_of_ne_nil fun hnil => h (String.toList_eq_nil_iff.mp hnil)

theorem lookup_metadata (envelope : TaskEnvelope) : envelope.members.lookup "metadata" =
    envelope.metadata.map fun metadata =>
      .object (metadata.map fun entry => (entry.1, .string entry.2)) := by
  obtain ⟨_, _, _, _, _, _, _, _, metadata⟩ := envelope
  cases metadata with
  | none => rfl
  | some metadata => rfl

theorem mem_envelopeKeys {m : String × Json} (h : m ∈ envelope.members) : m.1 ∈ envelopeKeys := by
  obtain ⟨_, _, _, _, _, _, _, _, metadata⟩ := envelope
  have hnames := List.mem_map_of_mem (f := Prod.fst) h
  cases metadata with
  | none => exact List.mem_of_mem_take (i := 10) hnames
  | some metadata => exact hnames

theorem read_members (hw : input.WellFormed) (h : Publishable input producerName) :
    (createTaskEnvelope input producerName draw).texts.Read
      (createTaskEnvelope input producerName draw).members where
  taskId := rfl
  kind := rfl
  taskType := rfl
  taskTypeLength := h.taskTypeLength
  schemaVersion := rfl
  createdAt := rfl
  producer := rfl
  producerLength := h.producerLength
  correlationId := rfl
  correlationIdLength := by
    apply length_pos
    change input.correlationId.getD draw.correlationId.str ≠ ""
    cases hcorrelation : input.correlationId with
    | none => exact fun h => absurd (congrArg String.length h) (by simp [Uuid.str])
    | some s => exact hw.correlationId s hcorrelation
  causationId := by
    intro value hvalue
    have hjson : (createTaskEnvelope input producerName draw).causationIdJson = value :=
      Option.some.inj hvalue
    unfold TaskEnvelope.causationIdJson createTaskEnvelope at hjson
    cases hcausation : input.causationId with
    | none =>
      simp only [hcausation] at hjson
      exact .inr hjson.symm
    | some causationId =>
      cases causationId with
      | none =>
        simp only [hcausation] at hjson
        exact .inr hjson.symm
      | some s =>
        simp only [hcausation] at hjson
        exact .inl ⟨s, hjson.symm, length_pos (hw.causationId s hcausation)⟩
  idempotencyKey := rfl
  idempotencyKeyLength := h.idempotencyKeyLength
  payload := ⟨input.payload, rfl⟩
  metadata := by
    intro value hvalue
    rw [lookup_metadata] at hvalue
    obtain ⟨metadata, hmetadata, rfl⟩ := Option.map_eq_some_iff.mp hvalue
    obtain ⟨hlength, hentries⟩ := h.metadata metadata hmetadata
    refine ⟨_, rfl, by rwa [List.length_map], fun entry hentry => ?_⟩
    obtain ⟨entry, hmem, rfl⟩ := List.mem_map.mp hentry
    exact ⟨entry.2, rfl, hentries entry hmem⟩
  closed := fun m hm => mem_envelopeKeys hm

theorem publishable_of_valid
    (h : Contracts.TaskPublisher.validateTaskEnvelope
      (.object (createTaskEnvelope input producerName draw).members) = true) :
    Publishable input producerName := by
  obtain ⟨members, t, hmembers, hread, hchecked⟩ := taskEnvelopeSchema_iff.mp h
  obtain rfl := Json.object.inj hmembers
  have htaskType : input.taskType = t.taskType := Json.string.inj (Option.some.inj hread.taskType)
  have hproducer : producerName = t.producer := Json.string.inj (Option.some.inj hread.producer)
  have hkey : input.idempotencyKey = t.idempotencyKey :=
    Json.string.inj (Option.some.inj hread.idempotencyKey)
  refine ⟨?_, ?_, ?_, ?_, ?_, ?_, fun metadata hmetadata => ?_⟩
  · rw [htaskType]
    exact hchecked.taskType
  · rw [htaskType]
    exact hread.taskTypeLength
  · rw [hproducer]
    exact hchecked.producer
  · rw [hproducer]
    exact hread.producerLength
  · rw [hkey]
    exact hchecked.idempotencyKey
  · rw [hkey]
    exact hread.idempotencyKeyLength
  · have hlookup := lookup_metadata (createTaskEnvelope input producerName draw)
    have hinput : (createTaskEnvelope input producerName draw).metadata = some metadata := hmetadata
    rw [hinput, Option.map_some] at hlookup
    obtain ⟨entries, hentries, hlength, hstrings⟩ := hread.metadata _ hlookup
    obtain rfl := Json.object.inj hentries
    rw [List.length_map] at hlength
    refine ⟨hlength, fun entry hentry => ?_⟩
    obtain ⟨s, hs, hle⟩ := hstrings _ (List.mem_map_of_mem hentry)
    rw [Json.string.inj hs]
    exact hle

theorem ajv_uuid {s : String} (h : rfcFormat .uuid s = true) : ajv.format .uuid s = true :=
  Bool.or_eq_true_iff.mpr (.inl h)

theorem ajv_dateTime {s : String} (h : ajvFormat .dateTime s = true) :
    ajv.format .dateTime s = true := h

/-- A parsed request is refused for its texts and its metadata only. -/
theorem valid_iff (hw : input.WellFormed) (hnow : InIsoYears draw.now) :
    Contracts.TaskPublisher.validateTaskEnvelope
        (.object (createTaskEnvelope input producerName draw).members) = true ↔
      Publishable input producerName := by
  refine ⟨publishable_of_valid, fun h => ?_⟩
  have htexts : (createTaskEnvelope input producerName draw).texts =
      ⟨draw.taskId.str, input.taskType, toISOString draw.now, producerName,
        input.correlationId.getD draw.correlationId.str, input.idempotencyKey⟩ := rfl
  have hchecked : (createTaskEnvelope input producerName draw).texts.Checked ajv := by
    rw [htexts]
    exact ⟨ajv_uuid (rfcFormat_str draw.taskId), h.taskType,
      ajv_dateTime (ajvFormat_toISOString hnow), h.producer, h.idempotencyKey⟩
  exact taskEnvelopeSchema_iff.mpr ⟨_, _, rfl, read_members hw h, hchecked⟩

/-! ## The answers of the endpoint -/

/-- The envelope nests one level deeper than its payload. -/
theorem depth_members (envelope : TaskEnvelope) :
    (Json.object envelope.members).depth = (Json.object envelope.payload).depth + 1 := by
  have hstrings (metadata : List (String × String)) :
      depthMembers (metadata.map fun entry => (entry.1, Json.string entry.2)) = 0 := by
    induction metadata with
    | nil => rfl
    | cons entry metadata ih =>
      rw [List.map_cons, depthMembers, ih]
      rfl
  obtain ⟨_, _, _, _, _, causationId, _, payload, metadata⟩ := envelope
  have hcausation (envelope : TaskEnvelope) : envelope.causationIdJson.depth = 0 := by
    unfold TaskEnvelope.causationIdJson
    split
    · rfl
    · rfl
  cases metadata with
  | none =>
    simp [TaskEnvelope.members, TaskEnvelope.metadataMembers, Json.depth, depthMembers, hcausation]
  | some metadata =>
    simp [TaskEnvelope.members, TaskEnvelope.metadataMembers, Json.depth, depthMembers, hcausation,
      hstrings]

def messageOf (runtime : NodeRuntime) (config : PublisherConfig) (input : PublishTaskInput)
    (draw : EnvelopeDraw) : SendMessageInput :=
  sendMessageInput runtime config (createTaskEnvelope input config.producerName draw)

/-- The request can be read, the endpoint is configured, and the envelope is one that
can be sent. -/
structure Sendable (runtime : NodeRuntime) (environment : String → Option String)
    (event : HttpEvent)
    (draw : EnvelopeDraw) (input : PublishTaskInput) (config : PublisherConfig) : Prop where
  parsed : parsePublishTaskRequest runtime event = .ok input
  configured : loadPublisherConfig environment = .ok config
  valid : Contracts.TaskPublisher.validateTaskEnvelope
    (.object (createTaskEnvelope input config.producerName draw).members) = true
  shallow : (Json.object input.payload).depth < runtime.stackDepth

def SendAnswer.Taken (answer : SendAnswer) : Prop := ∃ messageId, messageId ≠ "" ∧
  answer = .response (some messageId)

/-- One request is unreadable or unfit for the contract, or is not sent for another reason, or is
sent once. -/
theorem handler_cases (runtime : NodeRuntime) (environment : String → Option String)
    (event : HttpEvent) (draw : EnvelopeDraw) (answer : SendAnswer) :
    (∃ message, handler runtime environment event draw answer = (badRequest message, []) ∧
      ((∃ e, parsePublishTaskRequest runtime event = .error e) ∨
        ∃ input config, parsePublishTaskRequest runtime event = .ok input ∧
          loadPublisherConfig environment = .ok config ∧
          Contracts.TaskPublisher.validateTaskEnvelope
            (.object (createTaskEnvelope input config.producerName draw).members) = false)) ∨
    (handler runtime environment event draw answer = (publishFailed, []) ∧
      ∃ input, parsePublishTaskRequest runtime event = .ok input ∧
        ((∃ e, loadPublisherConfig environment = .error e) ∨
          ∃ config, loadPublisherConfig environment = .ok config ∧
            Contracts.TaskPublisher.validateTaskEnvelope
              (.object (createTaskEnvelope input config.producerName draw).members) = true ∧
            runtime.stackDepth ≤ (Json.object input.payload).depth)) ∨
    ∃ input config, Sendable runtime environment event draw input config ∧
      ((answer.Taken ∧ handler runtime environment event draw answer =
          (accepted (createTaskEnvelope input config.producerName draw),
            [messageOf runtime config input draw])) ∨
        (¬ answer.Taken ∧ handler runtime environment event draw answer =
          (publishFailed, [messageOf runtime config input draw]))) := by
  unfold handler
  cases hparse : parsePublishTaskRequest runtime event with
  | error e => exact .inl ⟨e.message, rfl, .inl ⟨e, rfl⟩⟩
  | ok input =>
    unfold publishTask
    cases hconfig : loadPublisherConfig environment with
    | error e => exact .inr (.inl ⟨rfl, input, rfl, .inl ⟨e, rfl⟩⟩)
    | ok config =>
      cases hvalid : Contracts.TaskPublisher.validateTaskEnvelope
        (.object (createTaskEnvelope input config.producerName draw).members) with
      | false => exact .inl ⟨"Task envelope does not satisfy the v1 contract", by simp only [hvalid,
          Bool.not_false, if_true], .inr ⟨input, config, rfl, rfl, hvalid⟩⟩
      | true =>
        have hdepth :
            (Json.object (createTaskEnvelope input config.producerName draw).members).depth =
            (Json.object input.payload).depth + 1 := depth_members _
        by_cases hdeep : runtime.stackDepth ≤ (Json.object input.payload).depth
        · refine .inr (.inl ⟨?_, input, rfl, .inr ⟨config, rfl, hvalid, hdeep⟩⟩)
          simp only [hvalid, hdepth, Bool.not_true, Bool.false_eq_true, if_false,
            if_pos (by omega : runtime.stackDepth < (Json.object input.payload).depth + 1)]
        · refine .inr (.inr ⟨input, config, ⟨hparse, hconfig, hvalid, by omega⟩, ?_⟩)
          simp only [hvalid, hdepth, Bool.not_true, Bool.false_eq_true, if_false,
            if_neg (by omega : ¬ runtime.stackDepth < (Json.object input.payload).depth + 1)]
          match answer with
          | .thrown error =>
            refine .inr ⟨?_, rfl⟩
            rintro ⟨_, -, h⟩
            contradiction
          | .response none =>
            refine .inr ⟨?_, rfl⟩
            rintro ⟨_, -, h⟩
            cases SendAnswer.response.inj h
          | .response (some messageId) =>
            by_cases hempty : messageId = ""
            · refine .inr ⟨?_, by simp only [if_pos hempty]; rfl⟩
              rintro ⟨id, hne, h⟩
              obtain rfl := Option.some.inj (SendAnswer.response.inj h)
              exact hne hempty
            · exact .inl ⟨⟨messageId, hempty, rfl⟩, by simp only [if_neg hempty]; rfl⟩

/-- The request as the caller sees it: it can be read, and fits the contract and the stack. -/
structure Acceptable (runtime : NodeRuntime) (environment : String → Option String)
    (event : HttpEvent) (input : PublishTaskInput) (config : PublisherConfig) : Prop where
  parsed : parsePublishTaskRequest runtime event = .ok input
  configured : loadPublisherConfig environment = .ok config
  publishable : Publishable input config.producerName
  shallow : (Json.object input.payload).depth < runtime.stackDepth

theorem sendable_iff (hnow : InIsoYears draw.now) :
    Sendable runtime environment event draw input config ↔
      Acceptable runtime environment event input config := by
  constructor
  · intro h
    exact ⟨h.parsed, h.configured, publishable_of_valid h.valid, h.shallow⟩
  · intro h
    have hw := wellFormed_of_parsePublishTaskRequest h.parsed
    exact ⟨h.parsed, h.configured, (valid_iff hw hnow).mpr h.publishable, h.shallow⟩

theorem Acceptable.unique {input' : PublishTaskInput} {config' : PublisherConfig}
    (h : Acceptable runtime environment event input config)
    (h' : Acceptable runtime environment event input' config') :
    input = input' ∧ config = config' :=
  ⟨Except.ok.inj (h.parsed.symm.trans h'.parsed),
    Except.ok.inj (h.configured.symm.trans h'.configured)⟩

/-- The request cannot be read, or the endpoint is configured and the request does not fit the
contract. -/
def Bad (runtime : NodeRuntime) (environment : String → Option String) (event : HttpEvent) : Prop :=
  (∃ e, parsePublishTaskRequest runtime event = .error e) ∨
    ∃ input config, parsePublishTaskRequest runtime event = .ok input ∧
      loadPublisherConfig environment = .ok config ∧ ¬ Publishable input config.producerName

theorem Acceptable.not_bad (h : Acceptable runtime environment event input config) :
    ¬ Bad runtime environment event := by
  rintro (⟨e, he⟩ | ⟨input', config', hparsed, hconfigured, hnot⟩)
  · rw [h.parsed] at he
    contradiction
  · rw [h.parsed] at hparsed
    rw [h.configured] at hconfigured
    obtain rfl := Except.ok.inj hparsed
    obtain rfl := Except.ok.inj hconfigured
    exact hnot h.publishable

/-- The message of an acceptable request is sent. -/
theorem Acceptable.handled (hnow : InIsoYears draw.now)
    (h : Acceptable runtime environment event input config) (answer : SendAnswer) :
    (answer.Taken ∧ handler runtime environment event draw answer =
        (accepted (createTaskEnvelope input config.producerName draw),
          [messageOf runtime config input draw])) ∨
      (¬ answer.Taken ∧ handler runtime environment event draw answer =
        (publishFailed, [messageOf runtime config input draw])) := by
  have hsendable := (sendable_iff hnow).mpr h
  obtain ⟨_, -, hwhy⟩ | ⟨-, input', hparsed, hwhy⟩ | ⟨input', config', hsendable', hsent⟩ :=
    handler_cases runtime environment event draw answer
  · obtain ⟨e, he⟩ | ⟨input', config', hparsed, hconfigured, hinvalid⟩ := hwhy
    · rw [h.parsed] at he
      contradiction
    · obtain rfl := Except.ok.inj (h.parsed.symm.trans hparsed)
      obtain rfl := Except.ok.inj (h.configured.symm.trans hconfigured)
      rw [hsendable.valid] at hinvalid
      contradiction
  · obtain rfl := Except.ok.inj (h.parsed.symm.trans hparsed)
    obtain ⟨e, he⟩ | ⟨config', -, -, hdeep⟩ := hwhy
    · rw [h.configured] at he
      contradiction
    · exact absurd h.shallow (by omega)
  · obtain ⟨rfl, rfl⟩ := h.unique ((sendable_iff hnow).mp hsendable')
    exact hsent

/-- Any other request is answered without a message. -/
theorem handled_of_not_acceptable (hnow : InIsoYears draw.now)
    (h : ∀ input config, ¬ Acceptable runtime environment event input config) :
    (Bad runtime environment event ∧ ∃ message,
        handler runtime environment event draw answer = (badRequest message, [])) ∨
      (¬ Bad runtime environment event ∧
        handler runtime environment event draw answer = (publishFailed, [])) := by
  obtain ⟨message, hhandler, hwhy⟩ | ⟨hhandler, input, hparsed, hwhy⟩ |
    ⟨input, config, hsendable, -⟩ := handler_cases runtime environment event draw answer
  · refine .inl ⟨hwhy.imp_right ?_, message, hhandler⟩
    rintro ⟨input, config, hparsed, hconfigured, hinvalid⟩
    refine ⟨input, config, hparsed, hconfigured, fun hfits => ?_⟩
    rw [(valid_iff (wellFormed_of_parsePublishTaskRequest hparsed) hnow).mpr hfits] at hinvalid
    contradiction
  · refine .inr ⟨?_, hhandler⟩
    rintro (⟨e, he⟩ | ⟨input', config', hparsed', hconfigured', hunfit⟩)
    · rw [hparsed] at he
      contradiction
    · obtain rfl := Except.ok.inj (hparsed.symm.trans hparsed')
      obtain ⟨e, he⟩ | ⟨config, hconfigured, hvalid, -⟩ := hwhy
      · rw [hconfigured'] at he
        contradiction
      · obtain rfl := Except.ok.inj (hconfigured.symm.trans hconfigured')
        exact hunfit (publishable_of_valid hvalid)
  · exact absurd ((sendable_iff hnow).mp hsendable) (h input config)

/-- A request is accepted exactly if it is acceptable and SQS takes its message, and is refused
as a bad one exactly if it cannot be read or a configured endpoint finds it unfit for the
contract. Its message is sent if and only if it is acceptable, once, and an acceptance names the
envelope in it. -/
theorem publication_outcome (runtime : NodeRuntime) (environment : String → Option String)
    (request : PublishRequest runtime) (draw : EnvelopeDraw) (answer : SendAnswer)
    (hnow : InIsoYears draw.now) :
    ((handler runtime environment request.event draw answer).1.statusCode = 202 ↔
      (∃ input config, Acceptable runtime environment request.event input config) ∧ answer.Taken) ∧
    ((handler runtime environment request.event draw answer).1.statusCode = 400 ↔
      Bad runtime environment request.event) ∧
    ((handler runtime environment request.event draw answer).1.statusCode ∉ [202, 400] →
      (handler runtime environment request.event draw answer).1 = publishFailed) ∧
    ((∀ input config, ¬ Acceptable runtime environment request.event input config) →
      (handler runtime environment request.event draw answer).2 = []) ∧
    ∀ input config, Acceptable runtime environment request.event input config →
      (handler runtime environment request.event draw answer).2 =
        [messageOf runtime config input draw] ∧
      (answer.Taken → (handler runtime environment request.event draw answer).1 =
        accepted (createTaskEnvelope input config.producerName draw)) := by
  by_cases hacceptable : ∃ input config, Acceptable runtime environment request.event input config
  · obtain ⟨input, config, h⟩ := hacceptable
    have hbad := h.not_bad
    obtain ⟨htaken, hhandler⟩ | ⟨htaken, hhandler⟩ := h.handled hnow answer
    · rw [hhandler]
      refine ⟨iff_of_true rfl ⟨⟨input, config, h⟩, htaken⟩, iff_of_false (by simp) hbad,
        fun hstatus => absurd (by simp) hstatus, fun hnot => absurd h (hnot input config),
        fun input' config' h' => ?_⟩
      obtain ⟨rfl, rfl⟩ := h.unique h'
      exact ⟨rfl, fun _ => rfl⟩
    · rw [hhandler]
      refine ⟨iff_of_false (by simp) fun hstatus => htaken hstatus.2, iff_of_false (by simp) hbad,
        fun _ => rfl, fun hnot => absurd h (hnot input config), fun input' config' h' => ?_⟩
      obtain ⟨rfl, rfl⟩ := h.unique h'
      exact ⟨rfl, fun htaken' => absurd htaken' htaken⟩
  · have hnot : ∀ input config, ¬ Acceptable runtime environment request.event input config :=
      fun input config h => hacceptable ⟨input, config, h⟩
    obtain ⟨hbad, message, hhandler⟩ | ⟨hbad, hhandler⟩ := handled_of_not_acceptable hnow hnot
    · rw [hhandler]
      exact ⟨iff_of_false (by simp) fun h => hacceptable h.1, iff_of_true rfl hbad,
        fun hstatus => absurd (by simp) hstatus, fun _ => rfl,
        fun input config h => absurd h (hnot input config)⟩
    · rw [hhandler]
      exact ⟨iff_of_false (by simp) fun h => hacceptable h.1, iff_of_false (by simp) hbad,
        fun _ => rfl, fun _ => rfl, fun input config h => absurd h (hnot input config)⟩

/-! ## A request with a space in its task type -/

/-- No number is written here, so that any text will do for one. -/
def plainNode : NodeRuntime := ⟨fun body => body, fun _ => ['n', 'u', 'l', 'l'], 5000⟩

theorem writesNumbers_plain : WritesNumbers plainNode.number fun _ => .null :=
  ⟨fun _ _ _ _ => rfl⟩

def checkoutDocument : Json := .object
  [("task_type", .string " a.b "), ("idempotency_key", .string "k"), ("payload", .object [])]

def checkoutEvent : HttpEvent :=
  ⟨some (String.ofList (stringify plainNode.number checkoutDocument)), false⟩

def checkoutInput : PublishTaskInput := ⟨"a.b", "k", [], none, none, none⟩

def checkoutEnvironment (name : String) : Option String :=
  if name = "TASK_QUEUE_URL" then some "queue" else none

def checkoutConfig : PublisherConfig := ⟨"queue", "opsflow-task-publisher"⟩

def checkoutDraw : EnvelopeDraw := ⟨1, 2, 0⟩

theorem jsonParse_checkout :
    jsonParse (String.ofList (stringify plainNode.number checkoutDocument)) =
      some checkoutDocument := by
  have hdistinct : checkoutDocument.Distinct :=
    ⟨by decide, trivial, trivial, ⟨List.nodup_nil, trivial⟩, trivial⟩
  have hindex : isArrayIndex "task_type" = false ∧ isArrayIndex "idempotency_key" = false ∧
      isArrayIndex "payload" = false := by decide
  rw [jsonParse, parse?_stringify_of_distinct writesNumbers_plain hdistinct, Option.map_some]
  simp [checkoutDocument, Json.reread, rereadMembers, ordered, orderedMembers, ownEntries, hindex]

theorem decoded_checkout : decodeRequestBody plainNode checkoutEvent =
    .ok (String.ofList (stringify plainNode.number checkoutDocument)) := by
  have hne : String.ofList (stringify plainNode.number checkoutDocument) ≠ "" := by
    intro h
    have htext := congrArg String.toList h
    rw [String.toList_ofList] at htext
    simp [checkoutDocument, stringify] at htext
  simp [decodeRequestBody, checkoutEvent, hne]

theorem paired_checkout {text : String}
    (h : decodeRequestBody plainNode checkoutEvent = .ok text) :
    surrogatesPaired text.toList = true := by
  rw [decoded_checkout] at h
  rw [← Except.ok.inj h, String.toList_ofList]
  apply surrogatesPaired_of_plain
  simp [checkoutDocument, plainNode, stringify, stringifyMembers, stringifyString, stringifyChar,
    List.intercalate]

def checkoutRequest : PublishRequest plainNode := ⟨checkoutEvent, fun _ => paired_checkout⟩

theorem event_checkoutRequest : checkoutRequest.event = checkoutEvent := rfl

theorem parsed_checkout : parsePublishTaskRequest plainNode checkoutEvent = .ok checkoutInput := by
  have htype : stripped jsSpace " a.b " = "a.b" := by decide
  have hkey : stripped jsSpace "k" = "k" := by decide
  rw [parsePublishTaskRequest, decoded_checkout]
  simp only [bind, Except.bind, jsonParse_checkout]
  simp [checkoutDocument, allowedFields, readFields, requireNonEmptyString, htype, hkey,
    requirePayload, parseCorrelationId, parseCausationId, parseMetadata, checkoutInput, bind,
    Except.bind, List.lookup_cons]

theorem acceptable_checkout :
    Acceptable plainNode checkoutEnvironment checkoutEvent checkoutInput checkoutConfig where
  parsed := parsed_checkout
  configured := by rfl
  publishable := ⟨by decide, by decide, by decide +kernel, by decide, by decide, by decide,
    fun _ h => by contradiction⟩
  shallow := by decide

/-- The request is accepted under the trimmed type. -/
theorem checkout_accepted : (handler plainNode checkoutEnvironment checkoutEvent checkoutDraw
    (.response (some "m"))).1.statusCode = 202 := by
  have houtcome := publication_outcome plainNode checkoutEnvironment checkoutRequest checkoutDraw
    (.response (some "m")) ⟨by decide, by decide⟩
  rw [event_checkoutRequest] at houtcome
  exact houtcome.1.mpr ⟨⟨_, _, acceptable_checkout⟩, "m", by decide, rfl⟩

end OpsFlow.TaskPublisher
