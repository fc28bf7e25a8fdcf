import OpsFlow.Notifier.FanoutLaw
import Mathlib.Data.List.Nodup

namespace OpsFlow.Notifier
open OpsFlow.Contracts

/-! ## The handler of an SQS event -/

structure ParsedSqsRecord where
  messageId : String
  body : String

def parseSqsRecord (value : Json) : Except Thrown ParsedSqsRecord :=
  match value with
  | .object members =>
    match members.lookup "messageId" with
    | some (.string messageId) =>
      if messageId = "" then .error (.error "Error" "SQS record must contain messageId")
      else
        match members.lookup "body" with
        | some (.string body) => .ok ⟨messageId, body⟩
        | _ => .error (.error "Error" "SQS record must contain body")
    | _ => .error (.error "Error" "SQS record must contain messageId")
  | _ => .error (.error "Error" "SQS record must be an object")

def InvalidNotificationError.toThrown (e : InvalidNotificationError) : Thrown :=
  .error "InvalidNotificationError" e.message

/-- A record, and what the dispatcher meets with if it is called for it. -/
structure Delivery (ω : Type) where
  record : Json
  world : ω

structure BatchItemFailure where
  itemIdentifier : String
  deriving DecidableEq

structure SqsRun where
  result : Except Thrown (List BatchItemFailure)
  dispatched : List IncidentTaskCompletedEvent

/-- `messageId` when the `try` block ends, the event that was dispatched in it, and how it ends. -/
structure Tried where
  messageId : String
  dispatched : Option IncidentTaskCompletedEvent
  outcome : Except Thrown Unit

section

variable {ω : Type} (other : String → Bool)
  (dispatchNotification : IncidentTaskCompletedEvent → ω → Except Thrown Unit)

def tryRecord (delivery : Delivery ω) : Tried :=
  match parseSqsRecord delivery.record with
  | .error error => ⟨"unknown", none, .error error⟩
  | .ok record =>
    match parseIncidentTaskCompletedEvent other record.body with
    | .error error => ⟨record.messageId, none, .error error.toThrown⟩
    | .ok notification =>
      ⟨record.messageId, some notification, dispatchNotification notification delivery.world⟩

/-- The loop; the last two arguments are `batchItemFailures` and what has been dispatched. -/
def handleRecords : List (Delivery ω) → List BatchItemFailure → List IncidentTaskCompletedEvent →
    SqsRun
  | [], batchItemFailures, dispatched => ⟨.ok batchItemFailures, dispatched⟩
  | delivery :: deliveries, batchItemFailures, dispatched =>
    let tried := tryRecord other dispatchNotification delivery
    match tried.outcome with
    | .ok () => handleRecords deliveries batchItemFailures (dispatched ++ tried.dispatched.toList)
    | .error error =>
      if tried.messageId ≠ "unknown" then
        handleRecords deliveries (batchItemFailures ++ [⟨tried.messageId⟩])
          (dispatched ++ tried.dispatched.toList)
      else ⟨.error error, dispatched ++ tried.dispatched.toList⟩

def handleSqsEvent (deliveries : List (Delivery ω)) : SqsRun :=
  handleRecords other dispatchNotification deliveries [] []

def defaultDispatchNotification (runtime : Runtime) (event : IncidentTaskCompletedEvent)
    (dependencies : DispatcherDependencies) : Except Thrown Unit :=
  (dispatchIncidentTaskCompletedEvent runtime event dependencies).result.mapError
    DispatchError.toThrown

/-! ## What isolates the records of an event -/

def string? (record : Json) (key : String) : Option String :=
  match record with
  | .object members =>
    match members.lookup key with
    | some (.string s) => some s
    | _ => none
  | _ => none

def messageId? (record : Json) : Option String := (string? record "messageId").filter (· ≠ "")

def body? (record : Json) : Option String := string? record "body"

def notification? (record : Json) : Option IncidentTaskCompletedEvent :=
  (body? record).bind fun body => (parseIncidentTaskCompletedEvent other body).toOption

/-- The record has a valid event, and its dispatch resolves. -/
def succeeds (delivery : Delivery ω) : Bool :=
  match notification? other delivery.record with
  | none => false
  | some notification => (dispatchNotification notification delivery.world).isOk

/-- The identifiers of the records that have failed, in order. -/
def reported (deliveries : List (Delivery ω)) : List BatchItemFailure :=
  (deliveries.filter fun delivery => !succeeds other dispatchNotification delivery).filterMap
    fun delivery => (messageId? delivery.record).map BatchItemFailure.mk

/-- SQS delivers the message again: the handler has rejected, or has reported its identifier. -/
def Redelivered (run : SqsRun) (record : Json) : Prop :=
  ∀ batchItemFailures, run.result = .ok batchItemFailures →
    ∃ failure ∈ batchItemFailures, messageId? record = some failure.itemIdentifier

/-- The handler resolves with the identifiers of the records that have failed, every record is
tried, and none is delivered again but those. -/
structure IsolatedRecords (deliveries : List (Delivery ω)) (run : SqsRun) : Prop where
  resolves : run.result = .ok (reported other dispatchNotification deliveries)
  dispatched : run.dispatched =
    deliveries.filterMap fun delivery => notification? other delivery.record
  redelivered : (deliveries.map fun delivery => messageId? delivery.record).Nodup →
    ∀ delivery ∈ deliveries, Redelivered run delivery.record ↔
      succeeds other dispatchNotification delivery = false

/-- The body is a string, and the sentinel is not the identifier of a record that fails. -/
def Handled (delivery : Delivery ω) : Prop :=
  (body? delivery.record).isSome ∧
    (messageId? delivery.record = some "unknown" →
      succeeds other dispatchNotification delivery = true)

end

variable {ω : Type} {other : String → Bool} {record : Json} {messageId body : String}
  {dispatchNotification : IncidentTaskCompletedEvent → ω → Except Thrown Unit}
  {delivery : Delivery ω} {deliveries : List (Delivery ω)}
  {batchItemFailures : List BatchItemFailure} {dispatched : List IncidentTaskCompletedEvent}

/-! ## One record -/

theorem string?_eq_some {key s : String} : string? record key = some s ↔
    ∃ members, record = .object members ∧ members.lookup key = some (.string s) := by
  unfold string?
  split
  · rename_i members
    split
    · rename_i t ht
      simp [ht]
    · rename_i hnot
      simp only [reduceCtorEq, Json.object.injEq, exists_eq_left', false_iff]
      exact hnot s
  · rename_i hnot
    simp only [reduceCtorEq, false_iff]
    rintro ⟨members, rfl, -⟩
    exact hnot members rfl

/-- The parser takes a record if and only if it has both members. -/
theorem parseSqsRecord_eq_ok {parsed : ParsedSqsRecord} : parseSqsRecord record = .ok parsed ↔
    messageId? record = some parsed.messageId ∧ body? record = some parsed.body := by
  obtain ⟨messageId, body⟩ := parsed
  unfold messageId? body?
  rw [Option.filter_eq_some_iff, string?_eq_some, string?_eq_some]
  unfold parseSqsRecord
  constructor
  · intro h
    split at h
    · rename_i members
      split at h
      · rename_i hid
        split_ifs at h with hne
        split at h
        · rename_i hbody
          cases h
          exact ⟨⟨⟨members, rfl, hid⟩, by simpa using hne⟩, members, rfl, hbody⟩
        · contradiction
      · contradiction
    · contradiction
  · rintro ⟨⟨⟨members, rfl, hid⟩, hne⟩, _, hsame, hbody⟩
    obtain rfl := Json.object.inj hsame
    have hne' : messageId ≠ "" := by simpa using hne
    simp only [hid, hbody, if_neg hne']

/-- Where the body is a string, the record is tried under its own identifier. -/
theorem tryRecord_of_body (hid : messageId? delivery.record = some messageId)
    (hbody : (body? delivery.record).isSome) :
    (tryRecord other dispatchNotification delivery).messageId = messageId ∧
      (tryRecord other dispatchNotification delivery).dispatched =
        notification? other delivery.record ∧
      ((tryRecord other dispatchNotification delivery).outcome.isOk =
        succeeds other dispatchNotification delivery) := by
  obtain ⟨body, hbody⟩ := Option.isSome_iff_exists.mp hbody
  have hparse : parseSqsRecord delivery.record = .ok ⟨messageId, body⟩ :=
    parseSqsRecord_eq_ok.mpr ⟨hid, hbody⟩
  unfold tryRecord succeeds notification?
  rw [hparse, hbody, Option.bind_some]
  dsimp only
  cases parseIncidentTaskCompletedEvent other body with
  | error e => exact ⟨rfl, rfl, rfl⟩
  | ok notification => exact ⟨rfl, rfl, rfl⟩

/-- Where it is not, the record is tried under the sentinel, and fails. -/
theorem tryRecord_of_no_body (hbody : body? delivery.record = none) :
    (tryRecord other dispatchNotification delivery).messageId = "unknown" ∧
      ∃ error, (tryRecord other dispatchNotification delivery).outcome = .error error := by
  unfold tryRecord
  cases hparse : parseSqsRecord delivery.record with
  | error error => exact ⟨rfl, error, rfl⟩
  | ok parsed =>
    rw [(parseSqsRecord_eq_ok.mp hparse).2] at hbody
    contradiction

/-! ## The loop -/

/-- A record that is handled is reported if it fails, and the loop goes on. -/
theorem handleRecords_cons (hid : messageId? delivery.record = some messageId)
    (h : Handled other dispatchNotification delivery) :
    handleRecords other dispatchNotification (delivery :: deliveries) batchItemFailures dispatched =
      handleRecords other dispatchNotification deliveries
        (batchItemFailures ++ reported other dispatchNotification [delivery])
        (dispatched ++ (notification? other delivery.record).toList) := by
  obtain ⟨htried, hdispatched, houtcome⟩ := tryRecord_of_body hid h.1
  rw [handleRecords, htried, hdispatched]
  cases hresult : (tryRecord other dispatchNotification delivery).outcome with
  | ok u =>
    rw [hresult] at houtcome
    have hreported : reported other dispatchNotification [delivery] = [] := by
      simp [reported, ← houtcome, Except.isOk, Except.toBool]
    rw [hreported, List.append_nil]
  | error error =>
    rw [hresult] at houtcome
    have hfails : succeeds other dispatchNotification delivery = false := houtcome.symm
    have hreported : reported other dispatchNotification [delivery] = [⟨messageId⟩] := by
      simp [reported, hfails, hid]
    -- a record that is called like the sentinel is handled only if it succeeds
    have hsentinel : messageId ≠ "unknown" := by
      rintro rfl
      rw [h.2 hid] at hfails
      contradiction
    rw [hreported]
    exact if_pos hsentinel

/-- A record that is not handled ends the loop. -/
theorem handleRecords_of_not_handled (hid : messageId? delivery.record = some messageId)
    (h : ¬ Handled other dispatchNotification delivery) : ∃ error,
    (handleRecords other dispatchNotification (delivery :: deliveries) batchItemFailures
      dispatched).result = .error error := by
  rw [handleRecords]
  cases hbody : body? delivery.record with
  | none =>
    obtain ⟨htried, error, herror⟩ := @tryRecord_of_no_body ω other dispatchNotification _ hbody
    simp only [htried, herror, ne_eq, not_true_eq_false, if_false]
    exact ⟨error, rfl⟩
  | some body =>
    have hsome : (body? delivery.record).isSome := Option.isSome_iff_exists.mpr ⟨body, hbody⟩
    obtain ⟨htried, -, houtcome⟩ := @tryRecord_of_body ω other _ dispatchNotification _ hid hsome
    obtain ⟨hsentinel, hfails⟩ := Classical.not_imp.mp fun himp => h ⟨hsome, himp⟩
    obtain rfl := Option.some.inj (hid.symm.trans hsentinel)
    cases hresult : (tryRecord other dispatchNotification delivery).outcome with
    | ok u =>
      rw [hresult] at houtcome
      exact absurd houtcome.symm hfails
    | error error =>
      simp only [htried, ne_eq, not_true_eq_false, if_false]
      exact ⟨error, rfl⟩

theorem reported_cons (delivery : Delivery ω) (deliveries : List (Delivery ω)) :
    reported other dispatchNotification (delivery :: deliveries) =
    reported other dispatchNotification [delivery] ++
      reported other dispatchNotification deliveries := by
  unfold reported
  rw [← List.filterMap_append, ← List.filter_append, List.singleton_append]

theorem handleRecords_eq (hids : ∀ d ∈ deliveries, (messageId? d.record).isSome)
    (h : ∀ d ∈ deliveries, Handled other dispatchNotification d) :
    handleRecords other dispatchNotification deliveries batchItemFailures dispatched =
      ⟨.ok (batchItemFailures ++ reported other dispatchNotification deliveries),
        dispatched ++ deliveries.filterMap fun d => notification? other d.record⟩ := by
  induction deliveries generalizing batchItemFailures dispatched with
  | nil => simp [handleRecords, reported]
  | cons delivery deliveries ih =>
    rw [List.forall_mem_cons] at hids h
    obtain ⟨messageId, hid⟩ := Option.isSome_iff_exists.mp hids.1
    rw [handleRecords_cons hid h.1, ih hids.2 h.2, reported_cons delivery deliveries,
      List.append_assoc, List.append_assoc, List.filterMap_cons]
    cases notification? other delivery.record with
    | none => rfl
    | some notification => rfl

theorem handleRecords_rejects (hids : ∀ d ∈ deliveries, (messageId? d.record).isSome)
    (h : ¬ ∀ d ∈ deliveries, Handled other dispatchNotification d) : ∃ error,
    (handleRecords other dispatchNotification deliveries batchItemFailures dispatched).result =
      .error error := by
  induction deliveries generalizing batchItemFailures dispatched with
  | nil => exact absurd (fun _ hmem => by contradiction) h
  | cons delivery deliveries ih =>
    rw [List.forall_mem_cons] at hids h
    obtain ⟨messageId, hid⟩ := Option.isSome_iff_exists.mp hids.1
    by_cases hhead : Handled other dispatchNotification delivery
    · rw [handleRecords_cons hid hhead]
      exact ih hids.2 fun htail => h ⟨hhead, htail⟩
    · exact handleRecords_of_not_handled hid hhead

/-! ## When the records of an event are isolated -/

/-- Under identifiers of their own, exactly the records that fail come again. -/
theorem redelivered_iff {run : SqsRun}
    (hresult : run.result = .ok (reported other dispatchNotification deliveries))
    (hids : ∀ d ∈ deliveries, (messageId? d.record).isSome)
    (hnodup : (deliveries.map fun d => messageId? d.record).Nodup) (hmem : delivery ∈ deliveries) :
    Redelivered run delivery.record ↔ succeeds other dispatchNotification delivery = false := by
  have hmemReported {failure : BatchItemFailure} :
      failure ∈ reported other dispatchNotification deliveries ↔
        ∃ d ∈ deliveries, succeeds other dispatchNotification d = false ∧
          messageId? d.record = some failure.itemIdentifier := by
    unfold reported
    rw [List.mem_filterMap]
    constructor
    · rintro ⟨d, hd, hfailure⟩
      obtain ⟨hd, hfails⟩ := List.mem_filter.mp hd
      obtain ⟨id, hid, rfl⟩ := Option.map_eq_some_iff.mp hfailure
      exact ⟨d, hd, by simpa using hfails, hid⟩
    · rintro ⟨d, hd, hfails, hid⟩
      exact ⟨d, List.mem_filter.mpr ⟨hd, by simp [hfails]⟩, by rw [hid, Option.map_some]⟩
  constructor
  · intro hagain
    obtain ⟨failure, hfailure, hid⟩ := hagain _ hresult
    obtain ⟨d, hd, hfails, hid'⟩ := hmemReported.mp hfailure
    -- the record that has been reported under this identifier is no other one
    obtain rfl := List.inj_on_of_nodup_map hnodup hd hmem (hid'.trans hid.symm)
    exact hfails
  · intro hfails failures hfailures
    obtain rfl := Except.ok.inj (hresult.symm.trans hfailures)
    obtain ⟨messageId, hid⟩ := Option.isSome_iff_exists.mp (hids delivery hmem)
    exact ⟨⟨messageId⟩, hmemReported.mpr ⟨delivery, hmem, hfails, hid⟩, hid⟩

theorem isolatedRecords_of_handled (hids : ∀ d ∈ deliveries, (messageId? d.record).isSome)
    (hhandled : ∀ d ∈ deliveries, Handled other dispatchNotification d) :
    IsolatedRecords other dispatchNotification deliveries
      (handleSqsEvent other dispatchNotification deliveries) := by
  have hrun : handleSqsEvent other dispatchNotification deliveries = _ :=
    handleRecords_eq hids hhandled
  have hresult : (handleSqsEvent other dispatchNotification deliveries).result =
      .ok (reported other dispatchNotification deliveries) := congrArg SqsRun.result hrun
  exact
    { resolves := hresult
      dispatched := congrArg SqsRun.dispatched hrun
      redelivered := fun hnodup _ hmem => redelivered_iff hresult hids hnodup hmem }

/-- Every record with an identifier: the batch is isolated if and only if each body is a string, and
no record that fails goes by the sentinel. -/
theorem sqs_batch_isolated_iff (other : String → Bool)
    (dispatchNotification : IncidentTaskCompletedEvent → ω → Except Thrown Unit)
    (deliveries : List (Delivery ω)) (hids : ∀ d ∈ deliveries, (messageId? d.record).isSome) :
    IsolatedRecords other dispatchNotification deliveries
        (handleSqsEvent other dispatchNotification deliveries) ↔
      ∀ d ∈ deliveries, Handled other dispatchNotification d := by
  constructor
  · intro hisolated
    by_contra hnot
    obtain ⟨error, herror⟩ := @handleRecords_rejects ω other dispatchNotification _ [] [] hids hnot
    have hresolves := hisolated.resolves
    rw [handleSqsEvent, herror] at hresolves
    contradiction
  · exact isolatedRecords_of_handled hids

/-! ## What a message that does not come again has reached -/

section Reached
variable {runtime : Runtime} {event : IncidentTaskCompletedEvent}
  {dependencies : DispatcherDependencies} {sent : Delivery DispatcherDependencies}
  {batch : List (Delivery DispatcherDependencies)} {connection : ConnectionRecord}

theorem validEvent_of_resolved
    (h : (dispatchIncidentTaskCompletedEvent runtime event dependencies).result = .ok ()) :
    ValidEvent event := by
  by_contra hinvalid
  have hrefused : ∃ error, validateRealtimeIncidentMessage runtime
      (buildRealtimeIncidentMessage event) = .error error := ⟨_, if_neg hinvalid⟩
  obtain ⟨error, herror⟩ := hrefused
  unfold dispatchIncidentTaskCompletedEvent at h
  simp only [herror, reduceCtorEq] at h

theorem dispatch_of_succeeds
    (h : succeeds other (defaultDispatchNotification runtime) sent = true) :
    ∃ event, notification? other sent.record = some event ∧
      (dispatchIncidentTaskCompletedEvent runtime event sent.world).result = .ok () := by
  unfold succeeds at h
  split at h
  · contradiction
  · rename_i event hevent
    refine ⟨event, hevent, ?_⟩
    unfold defaultDispatchNotification at h
    cases hresult : (dispatchIncidentTaskCompletedEvent runtime event sent.world).result with
    | ok u => rfl
    | error error =>
      rw [hresult] at h
      contradiction

/-- A message that does not come again carries an event that every connection which is listed and
not gone has received. -/
theorem received_of_not_redelivered (hids : ∀ d ∈ batch, (messageId? d.record).isSome)
    (hnodup : (batch.map fun d => messageId? d.record).Nodup)
    (hhandled : ∀ d ∈ batch, Handled other (defaultDispatchNotification runtime) d)
    (hmem : sent ∈ batch)
    (h : ¬ Redelivered (handleSqsEvent other (defaultDispatchNotification runtime) batch)
      sent.record) (halive : ListedAlive sent.world connection) :
    ∃ event, notification? other sent.record = some event ∧
      Received runtime event sent.world connection := by
  have hisolated := isolatedRecords_of_handled hids hhandled
  have hsucceeds : succeeds other (defaultDispatchNotification runtime) sent = true := by
    by_contra hfails
    exact h ((hisolated.redelivered hnodup sent hmem).mpr (by simpa using hfails))
  obtain ⟨event, hevent, hresolved⟩ := dispatch_of_succeeds hsucceeds
  exact ⟨event, hevent, received_of_resolved (validEvent_of_resolved hresolved) hresolved halive⟩

end Reached

/-! ## A malformed body, and a missing one -/

def coveredBody : String := String.ofList (dumps noNumber (.object (eventMembers coveredEvent)))

/-- A record of a valid event, and whether the dispatcher reaches anybody. -/
def coveredDelivery (messageId : String) (reached : Bool) : Delivery Bool :=
  ⟨.object [("messageId", .string messageId), ("body", .string coveredBody)], reached⟩

def malformedDelivery : Delivery Bool :=
  ⟨.object [("messageId", .string "message-bad"), ("body", .string "\x7binvalid-json")], true⟩

def bodilessDelivery : Delivery Unit := ⟨.object [("messageId", .string "message-1")], ()⟩

def dispatchReaching (_ : IncidentTaskCompletedEvent) (reached : Bool) : Except Thrown Unit :=
  if reached then .ok () else .error (.error "Error" "Nobody has been reached")

theorem notification?_covered (messageId : String) (reached : Bool) :
    notification? (fun _ => false) (coveredDelivery messageId reached).record =
      some coveredEvent := by
  have hbody : body? (coveredDelivery messageId reached).record = some coveredBody := rfl
  unfold notification?
  rw [hbody, Option.bind_some, coveredBody, coveredEvent_parsed]
  rfl

theorem succeeds_of_notification
    {dispatchNotification : IncidentTaskCompletedEvent → ω → Except Thrown Unit}
    {delivery : Delivery ω} {event : IncidentTaskCompletedEvent}
    (h : notification? other delivery.record = some event) :
    succeeds other dispatchNotification delivery =
      (dispatchNotification event delivery.world).isOk := by
  unfold succeeds
  rw [h]

theorem succeeds_covered (messageId : String) (reached : Bool) :
    succeeds (fun _ => false) dispatchReaching (coveredDelivery messageId reached) = reached := by
  rw [succeeds_of_notification (notification?_covered messageId reached)]
  cases reached with
  | _ => rfl

/-- A record that succeeds, one with a malformed body, and one whose dispatch fails: the last two
are reported. -/
theorem malformed_isolated : IsolatedRecords (fun _ => false) dispatchReaching
      [coveredDelivery "message-1" true, malformedDelivery, coveredDelivery "message-3" false]
      (handleSqsEvent (fun _ => false) dispatchReaching
        [coveredDelivery "message-1" true, malformedDelivery, coveredDelivery "message-3" false]) ∧
    reported (fun _ => false) dispatchReaching
      [coveredDelivery "message-1" true, malformedDelivery, coveredDelivery "message-3" false] =
        [⟨"message-bad"⟩, ⟨"message-3"⟩] := by
  constructor
  · refine (sqs_batch_isolated_iff _ _ _ fun d hd => ?_).mpr fun d hd => ?_
    · simp only [List.mem_cons, List.not_mem_nil, or_false] at hd
      obtain rfl | rfl | rfl := hd
      all_goals rfl
    · simp only [List.mem_cons, List.not_mem_nil, or_false] at hd
      obtain rfl | rfl | rfl := hd
      all_goals exact ⟨rfl, fun h => absurd h (by decide)⟩
  · have hmalformed : succeeds (fun _ => false) dispatchReaching malformedDelivery = false := by
      decide
    unfold reported
    rw [List.filter_cons_of_neg (by simp [succeeds_covered]),
      List.filter_cons_of_pos (by simp [hmalformed]),
      List.filter_cons_of_pos (by simp [succeeds_covered]), List.filter_nil]
    rfl

/-- A record without a body rejects the whole event. -/
theorem bodiless_not_isolated : ¬ ∀ (other : String → Bool)
    (dispatchNotification : IncidentTaskCompletedEvent → Unit → Except Thrown Unit)
    (deliveries : List (Delivery Unit)), (∀ d ∈ deliveries, (messageId? d.record).isSome) →
      IsolatedRecords other dispatchNotification deliveries
        (handleSqsEvent other dispatchNotification deliveries) := by
  intro h
  have hisolated := h (fun _ => false) (fun _ _ => .ok ()) [bodilessDelivery] fun d hd => by
    rw [List.mem_singleton.mp hd]
    rfl
  cases hisolated.resolves

end OpsFlow.Notifier
