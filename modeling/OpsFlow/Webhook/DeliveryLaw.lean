import OpsFlow.Webhook.Delivery

namespace OpsFlow.Webhook
open OpsFlow.Contracts OpsFlow.Notifier

/-! ## What the contract says about a notification -/

variable {platform : Platform} {dependencies : WebhookBatchDependencies} {value : Json}
  {members : List (String × Json)} {key s : String} {engine : Engine}

theorem flat_of_string (h : ∃ value, members.lookup key = some value) {keywords : List Schema}
    (hschema : Schema.property key (.all (.type [.string] :: keywords)) engine (.object members) =
      true) : ∃ value, members.lookup key = some value ∧ value.flat := by
  obtain ⟨s, hs, -⟩ := (property_string h).mp hschema
  exact ⟨_, hs, trivial⟩

theorem flat_of_const (h : ∃ value, members.lookup key = some value)
    (hschema : Schema.property key (.const s) engine (.object members) = true) :
    members.lookup key = some (.string s) := by
  obtain ⟨value, hvalue⟩ := h
  rw [hvalue, const_iff.mp ((property_of_lookup hvalue).mp hschema)]

/-- The fields of a valid notification are texts, but for one that may be null. -/
structure Described (members : List (String × Json)) : Prop where
  type : members.lookup "type" = some (.string "incident.updated")
  schemaVersion : members.lookup "schema_version" = some (.string "1.0")
  eventId : ∃ s, members.lookup "event_id" = some (.string s)
  closed : ∀ m ∈ members, m.1 ∈ updatedKeys
  flat : ∀ key ∈ updatedKeys, ∃ value, members.lookup key = some value ∧ value.flat

theorem described_of_valid (h : incidentUpdatedSchema engine value = true) :
    ∃ members, value = .object members ∧ Described members := by
  unfold incidentUpdatedSchema at h
  simp only [all_cons, all_nil, and_true] at h
  obtain ⟨hobject, hclosed, hrequired, htype, hversion, heventId, hincidentId, htaskId,
    hcorrelationId, hstatus, hacknowledgedAt, hoccurredAt⟩ := h
  obtain ⟨members, rfl⟩ := type_object.mp hobject
  rw [required_object] at hrequired
  have hpresent (key : String) (h : key ∈ updatedKeys) := hrequired key h
  have htype' := flat_of_const (hpresent "type" (by decide)) htype
  have hversion' := flat_of_const (hpresent "schema_version" (by decide)) hversion
  obtain ⟨eventId, heventId', -⟩ := (property_string (hpresent "event_id" (by decide))).mp heventId
  obtain ⟨acknowledged, hacknowledged⟩ := hpresent "acknowledged_at" (by decide)
  -- each of the two alternatives for this field is flat
  have hacknowledged' : acknowledged.flat := by
    rw [property_of_lookup hacknowledged] at hacknowledgedAt
    cases acknowledged with
    | null => trivial
    | string s => trivial
    | _ => exact absurd hacknowledgedAt (by simp [Schema.oneOf, Schema.all, Schema.type, jsonType])
  refine ⟨members, rfl, htype', hversion', ⟨eventId, heventId'⟩, fun m hm => ?_, fun key hkey => ?_⟩
  · obtain hm | hm := additional_object.mp hclosed m hm
    · exact hm
    · contradiction
  · have hkey' := hkey
    simp only [updatedKeys, List.mem_cons, List.not_mem_nil, or_false] at hkey
    obtain rfl | rfl | rfl | rfl | rfl | rfl | rfl | rfl | rfl := hkey
    · exact ⟨_, htype', trivial⟩
    · exact ⟨_, hversion', trivial⟩
    · exact ⟨_, heventId', trivial⟩
    · exact flat_of_string (hpresent _ hkey') hincidentId
    · exact flat_of_string (hpresent _ hkey') htaskId
    · exact flat_of_string (hpresent _ hkey') hcorrelationId
    · exact flat_of_string (hpresent _ hkey') hstatus
    · exact ⟨_, hacknowledged, hacknowledged'⟩
    · exact flat_of_string (hpresent _ hkey') hoccurredAt

theorem lookup_of_mem {m : String × Json} (hnodup : (members.map Prod.fst).Nodup)
    (hm : m ∈ members) :
    members.lookup m.1 = some m.2 := by
  induction members with
  | nil => contradiction
  | cons first members ih =>
    rw [List.map_cons, List.nodup_cons] at hnodup
    rw [List.lookup_cons]
    obtain rfl | hm := List.mem_cons.mp hm
    · simp
    · have hne : m.1 ≠ first.1 := fun heq => hnodup.1 (heq ▸ List.mem_map_of_mem hm)
      rw [beq_false_of_ne hne]
      exact ih hnodup.2 hm

/-- A notification that was read is written as a text that reads as the same notification. -/
theorem parse?_payload_of_parse? {body : String} {notification : IncidentUpdatedNotification}
    (h : Json.parse? body = some notification.value) (runtime : Runtime) :
    Json.parse? (payload runtime notification.value) = some notification.value := by
  obtain ⟨members, hvalue, hdescribed⟩ := described_of_valid notification.valid
  rw [hvalue] at h ⊢
  have hnodup := nodup_of_parse? h
  refine parse?_stringify ?_ (fun m hm => ?_) hnodup
  · rintro rfl
    have htype := hdescribed.type
    contradiction
  · obtain ⟨value, hlookup, hflat⟩ := hdescribed.flat m.1 (hdescribed.closed m hm)
    rw [lookup_of_mem hnodup hm] at hlookup
    rwa [Option.some.inj hlookup]

/-- A text of the notification is the one that its headers carry. -/
theorem string?_eq_text (notification : IncidentUpdatedNotification) :
    ∀ key ∈ ["event_id", "type", "schema_version"],
      string? notification.value key = some (notification.text key) := by
  obtain ⟨members, hvalue, hdescribed⟩ := described_of_valid notification.valid
  obtain ⟨eventId, heventId⟩ := hdescribed.eventId
  have htext {key s : String} (h : members.lookup key = some (.string s)) :
      string? notification.value key = some (notification.text key) := by
    unfold IncidentUpdatedNotification.text string?
    rw [hvalue]
    simp [h]
  simp only [List.mem_cons, List.not_mem_nil, or_false]
  rintro key (rfl | rfl | rfl)
  · exact htext heventId
  · exact htext hdescribed.type
  · exact htext hdescribed.schemaVersion

/-! ## What a request is to be -/

namespace Exchange

def successful (exchange : Exchange) : Bool :=
  match exchange.outcome with
  | .response status => 200 ≤ status ∧ status ≤ 299
  | _ => false

/-- The timestamp and the signature of a request are accepted, in time, for its body
and no other. -/
structure Verifies (hmac : String → String → Vector UInt8 32) (secret : String) (t : ℚ)
    (request : WebhookHttpRequest) (signature : String) : Prop where
  timestamp : isSafeInteger t = true ∧ 0 < t
  timestampHeader : request.headers.lookup "x-opsflow-webhook-timestamp" = some (integerText t)
  signatureHeader : request.headers.lookup "x-opsflow-webhook-signature" = some signature
  verified : ∀ now tolerance, isSafeInteger now = true → 0 < now → isSafeInteger tolerance = true →
    |now - t| ≤ tolerance →
      verifyWebhookSignature hmac ⟨⟨request.body, t, secret⟩, signature, now, tolerance⟩ =
      .ok true ∧ ∀ body, NoCollision hmac secret (buildSignaturePayload t request.body)
        (buildSignaturePayload t body) →
          verifyWebhookSignature hmac ⟨⟨body, t, secret⟩, signature, now, tolerance⟩ =
            .ok (decide (body = request.body))

def Carries (request : WebhookHttpRequest) (notification : Json) (header key : String) : Prop :=
  ∃ s, request.headers.lookup header = some s ∧ string? notification key = some s

/-- The request is a POST of the notification in the record, to the target, under its signature. -/
structure Delivers (platform : Platform) (dependencies : WebhookBatchDependencies) (run : RecordRun)
    (exchange : Exchange) : Prop where
  method : exchange.request.method = "POST"
  target : ∃ url, platform.parseUrl (stripped jsSpace dependencies.targetUrl) = some url ∧
    url.protocol = "https:" ∧ exchange.request.url = url.href
  notification : ∃ notification, Json.parse? run.record.body = some notification ∧
    incidentUpdatedSchema ajv notification = true ∧
    Json.parse? exchange.request.body = some notification ∧
    Carries exchange.request notification "x-opsflow-event-id" "event_id" ∧
    Carries exchange.request notification "x-opsflow-event-type" "type" ∧
    Carries exchange.request notification "x-opsflow-schema-version" "schema_version"
  signature : ∃ signature, Verifies platform.hmac dependencies.signingSecret run.nowSeconds
    exchange.request signature
  outcome : exchange.outcome = run.outcome

end Exchange

/-! ## What one record does -/

variable {run : RecordRun} {request : WebhookHttpRequest} {t : ℚ} {secret targetUrl url : String}
  {notification : IncidentUpdatedNotification}

theorem validateTargetUrl_eq_ok (h : validateTargetUrl platform targetUrl = .ok url) :
    ∃ parsed, platform.parseUrl (stripped jsSpace targetUrl) = some parsed ∧
      parsed.protocol = "https:" ∧ url = parsed.href := by
  unfold validateTargetUrl at h
  dsimp only at h
  split at h
  · cases h
  · split at h
    · cases h
    · rename_i parsed hparsed
      split at h
      · cases h
      · rename_i hprotocol
        split at h
        · cases h
        · exact ⟨parsed, hparsed, not_not.mp hprotocol, (Except.ok.inj h).symm⟩

/-- Whatever is signed had a secret and a timestamp that verify. -/
theorem createWebhookSignature_eq_ok {hmac : String → String → Vector UInt8 32}
    {body signature : String} (h : createWebhookSignature hmac ⟨body, t, secret⟩ = .ok signature) :
    32 ≤ secret.utf8ByteSize ∧ isSafeInteger t = true ∧ 0 < t ∧
      signature = signatureFor hmac secret (buildSignaturePayload t body) := by
  cases hsecret : validateSecret secret with
  | error e =>
    simp [createWebhookSignature, calculateDigest, hsecret, bind, Except.bind] at h
  | ok =>
    cases ht : validateTimestamp t with
    | error e =>
      simp [createWebhookSignature, calculateDigest, hsecret, ht, bind, Except.bind] at h
    | ok =>
      have hlong := validateSecret_eq_ok.mp hsecret
      obtain ⟨hsafe, hpos⟩ := validateTimestamp_eq_ok.mp ht
      rw [createWebhookSignature_eq hlong hsafe hpos] at h
      exact ⟨hlong, hsafe, hpos, (Except.ok.inj h).symm⟩

/-- A request that was built delivers its notification. -/
theorem delivers_of_buildWebhookRequest
    (hparse : Json.parse? run.record.body = some notification.value)
    (h : buildWebhookRequest platform notification dependencies.targetUrl dependencies.signingSecret
      run.nowSeconds = .ok request) :
    Exchange.Delivers platform dependencies run ⟨request, run.outcome⟩ := by
  unfold buildWebhookRequest at h
  obtain ⟨url, hurl, h⟩ := bind_eq_ok.mp h
  obtain ⟨signature, hsignature, h⟩ := bind_eq_ok.mp h
  obtain ⟨parsed, hparsed, hprotocol, rfl⟩ := validateTargetUrl_eq_ok hurl
  obtain rfl := Except.ok.inj h
  obtain ⟨hsecret, hsafe, hpos, rfl⟩ := createWebhookSignature_eq_ok (mapError_eq_ok.mp hsignature)
  have htext := string?_eq_text notification
  refine
    { method := rfl
      target := ⟨parsed, hparsed, hprotocol, rfl⟩
      notification := ⟨notification.value, hparse, notification.valid,
        parse?_payload_of_parse? hparse platform.toRuntime,
        ⟨_, rfl, htext "event_id" (by simp)⟩, ⟨_, rfl, htext "type" (by simp)⟩,
        ⟨_, rfl, htext "schema_version" (by simp)⟩⟩
      signature :=
        ⟨_, ⟨hsafe, hpos⟩, rfl, rfl, fun now tolerance hnow hnowPos htolerance hintime => ?_⟩
      outcome := rfl }
  -- what is sent is what was signed, so that a receiver recomputes the same code
  have hnonneg : 0 ≤ tolerance := (abs_nonneg _).trans hintime
  have hsigned {body : String} (hcollision : NoCollision platform.hmac dependencies.signingSecret
      (buildSignaturePayload run.nowSeconds (payload platform.toRuntime notification.value))
      (buildSignaturePayload run.nowSeconds body)) :=
    verifyWebhookSignature_signed hsecret hsafe hpos hsafe hpos hnow hnowPos htolerance hnonneg
      hintime
      hcollision
  constructor
  · rw [hsigned fun _ => rfl]
    simp
  · intro body hcollision
    rw [hsigned hcollision]
    simp

theorem deliveryResult_isOk (timeoutMs : ℚ) (exchange : Exchange) :
    (deliveryResult timeoutMs exchange.outcome).isOk = exchange.successful := by
  unfold deliveryResult Exchange.successful classifyWebhookHttpStatus
  cases exchange.outcome with
  | response status =>
    by_cases hstatus : 200 ≤ status ∧ status ≤ 299
    · simp [hstatus, Except.isOk, Except.toBool]
    · simp [hstatus, Except.isOk, Except.toBool]
  | rejected => rfl
  | aborted => rfl

theorem isOk_mapError {α ε ε' : Type} (f : ε → ε') (result : Except ε α) :
    (result.mapError f).isOk = result.isOk := by
  cases result with
  | ok a => rfl
  | error e => rfl

/-- A record sends one request that delivers it, or none; and it is done where the request
succeeds. -/
theorem processRecord_cases (platform : Platform) (dependencies : WebhookBatchDependencies)
    (run : RecordRun) :
    ((processRecord platform dependencies run).1 = [] ∧
      (processRecord platform dependencies run).2.isOk = false) ∨
    ∃ exchange, (processRecord platform dependencies run).1 = [exchange] ∧
      (processRecord platform dependencies run).2.isOk = exchange.successful ∧
      exchange.Delivers platform dependencies run := by
  unfold processRecord
  split
  · exact .inl ⟨rfl, rfl⟩
  · rename_i parsed hparse
    split
    · exact .inl ⟨rfl, rfl⟩
    · rename_i notification hvalid
      split
      · exact .inl ⟨rfl, rfl⟩
      · rename_i request hbuilt
        have hvalue : notification.value = parsed := by
          unfold validateWebhookNotification at hvalid
          split at hvalid
          · rw [← Except.ok.inj hvalid]
          · contradiction
        unfold sendWebhookRequest
        split
        · exact .inl ⟨rfl, rfl⟩
        · refine .inr ⟨⟨request, run.outcome⟩, rfl, ?_,
            delivers_of_buildWebhookRequest (hvalue ▸ hparse) hbuilt⟩
          dsimp only
          rw [isOk_mapError, isOk_mapError]
          exact deliveryResult_isOk _ ⟨request, run.outcome⟩

/-! ## What a batch does -/

variable {runs : List RecordRun} {done : BatchRun}

def exchangesOf (platform : Platform) (dependencies : WebhookBatchDependencies) (run : RecordRun) :
    List Exchange :=
  (processRecord platform dependencies run).1

def logOf (platform : Platform) (dependencies : WebhookBatchDependencies) (run : RecordRun) :
    LogLine :=
  match (processRecord platform dependencies run).2 with
  | .ok () => .delivered run.record.messageId
  | .error error =>
    .deliveryFailed run.record.messageId (describeError "Unknown webhook delivery error" error)

def unanswered (platform : Platform) (dependencies : WebhookBatchDependencies) (run : RecordRun) :
    Bool :=
  !(exchangesOf platform dependencies run).any Exchange.successful

theorem unanswered_eq (platform : Platform) (dependencies : WebhookBatchDependencies)
    (run : RecordRun) :
    unanswered platform dependencies run = !(processRecord platform dependencies run).2.isOk := by
  unfold unanswered exchangesOf
  obtain ⟨hnone, herror⟩ | ⟨exchange, hone, hresult, -⟩ :=
    processRecord_cases platform dependencies run
  · rw [hnone, herror]
    rfl
  · rw [hone, hresult]
    simp

/-- Each record adds its requests and its line, and its identifier if it was not answered. -/
theorem handleRecords_eq : handleRecords platform dependencies runs done =
    { batchItemFailures := done.batchItemFailures ++
        (runs.filter (unanswered platform dependencies)).map fun run => ⟨run.record.messageId⟩
      exchanges := done.exchanges ++ runs.flatMap (exchangesOf platform dependencies)
      log := done.log ++ runs.map (logOf platform dependencies) } := by
  induction runs generalizing done with
  | nil => simp [handleRecords]
  | cons run runs ih =>
    have hunanswered := unanswered_eq platform dependencies run
    rw [handleRecords]
    cases hresult : (processRecord platform dependencies run).2 with
    | ok =>
      rw [hresult] at hunanswered
      have hlog : logOf platform dependencies run = .delivered run.record.messageId := by
        rw [logOf, hresult]
      rw [List.filter_cons_of_neg (by simp [hunanswered, Except.isOk, Except.toBool]),
        List.flatMap_cons, List.map_cons, hlog]
      dsimp only
      rw [ih]
      simp [exchangesOf]
    | error error =>
      rw [hresult] at hunanswered
      have hlog : logOf platform dependencies run = .deliveryFailed run.record.messageId
          (describeError "Unknown webhook delivery error" error) := by
        rw [logOf, hresult]
      rw [List.filter_cons_of_pos (by simp [hunanswered, Except.isOk, Except.toBool]),
        List.flatMap_cons, List.map_cons, List.map_cons, hlog]
      dsimp only
      rw [ih]
      simp [exchangesOf]

/-- A record leads to at most one request, which delivers its notification under a signature of the
body that is sent; and the failures that are reported are the records, in order, that were not
answered by a status of success. No string of a body has a lone surrogate here: a body that escapes
one, which `JSON.parse` would read, counts as unreadable. -/
theorem handleWebhookBatch_exact (platform : Platform) (dependencies : WebhookBatchDependencies)
    (runs : List RecordRun) :
    (handleWebhookBatch platform dependencies runs).exchanges =
      runs.flatMap (exchangesOf platform dependencies) ∧
    (∀ run, (exchangesOf platform dependencies run).length ≤ 1 ∧
      ∀ exchange ∈ exchangesOf platform dependencies run,
        exchange.Delivers platform dependencies run) ∧
    (handleWebhookBatch platform dependencies runs).batchItemFailures =
      (runs.filter fun run =>
        !(exchangesOf platform dependencies run).any Exchange.successful).map fun run =>
          ⟨run.record.messageId⟩ := by
  unfold handleWebhookBatch
  rw [handleRecords_eq]
  refine ⟨List.nil_append _, fun run => ?_, List.nil_append _⟩
  unfold exchangesOf
  obtain ⟨hnone, -⟩ | ⟨exchange, hone, -, hdelivers⟩ :=
    processRecord_cases platform dependencies run
  · rw [hnone]
    exact ⟨Nat.zero_le _, nofun⟩
  · rw [hone]
    refine ⟨le_rfl, fun exchange' hmem => ?_⟩
    rwa [List.mem_singleton.mp hmem]

end OpsFlow.Webhook
