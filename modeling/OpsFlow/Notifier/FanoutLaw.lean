import OpsFlow.Notifier.EventContract
import OpsFlow.Notifier.Fanout

namespace OpsFlow.Notifier
open OpsFlow.Contracts

/-! ## What a fan-out is to do -/

/-- The contract allows the message that the event makes. -/
def ValidEvent (event : IncidentTaskCompletedEvent) : Prop :=
  incidentUpdatedSchema ajv (buildRealtimeIncidentMessage event) = true

namespace Attempt

def onChannel (targetChannel : String) (attempt : Attempt) : Bool :=
  attempt.connection.channel = targetChannel

def gone (attempt : Attempt) : Bool :=
  match attempt.post with
  | .ok () => false
  | .error error => isGoneException error

def failure? (attempt : Attempt) : Option RealtimeConnectionDeliveryFailure :=
  match attempt.post with
  | .ok () => none
  | .error error =>
    if isGoneException error then none
    else some ⟨attempt.connection.connectionId, describeDeliveryError error⟩

end Attempt

def Action.post? : Action → Option PostToConnection
  | .post command => some command
  | _ => none

def Action.delete? : Action → Option String
  | .delete connectionId => some connectionId
  | _ => none

def failuresOf (targetChannel : String) (attempts : List Attempt) :
    List RealtimeConnectionDeliveryFailure :=
  (attempts.filter (Attempt.onChannel targetChannel)).filterMap Attempt.failure?

section Spec
variable (runtime : Runtime) (event : IncidentTaskCompletedEvent)

/-- Each connection of the channel is posted to once, in order, with one payload; the gone ones are
deleted; and the other failures are what the broadcast rejects with. -/
structure FannedOut (targetChannel : String) (attempts : List Attempt) (run : Broadcast) :
    Prop where
  posts : run.actions.filterMap Action.post? =
    (attempts.filter (Attempt.onChannel targetChannel)).map fun attempt =>
      postToConnection attempt.connection (payload runtime (buildRealtimeIncidentMessage event))
  deletes : run.actions.filterMap Action.delete? =
    ((attempts.filter (Attempt.onChannel targetChannel)).filter Attempt.gone).map fun attempt =>
      attempt.connection.connectionId
  resolves : failuresOf targetChannel attempts = [] → run.result = .ok ()
  rejects : failuresOf targetChannel attempts ≠ [] →
    run.result = .error (.fanout ⟨event.eventId, failuresOf targetChannel attempts⟩)

/-- Both channels are tried, and the dispatch rejects if and only if one of them has failed. -/
structure Dispatched (dependencies : DispatcherDependencies) (run : Dispatch) : Prop where
  broadcasts : run.broadcasts =
    [broadcastIncidentTaskCompletedEvent runtime event dependencies.broadcast]
  handoffs : run.handoffs = [(buildRealtimeIncidentMessage event,
    (enqueueWebhookNotification runtime (buildRealtimeIncidentMessage event)
      dependencies.webhook).2)]
  sent : ∀ queueUrl,
    requireWebhookNotificationQueueUrl dependencies.webhook.queueUrl = .ok queueUrl →
      (enqueueWebhookNotification runtime (buildRealtimeIncidentMessage event)
        dependencies.webhook).2 =
          [⟨queueUrl, payload runtime (buildRealtimeIncidentMessage event)⟩]
  rejects : run.result ≠ .ok () ↔
    (broadcastIncidentTaskCompletedEvent runtime event dependencies.broadcast).result ≠ .ok () ∨
      (enqueueWebhookNotification runtime (buildRealtimeIncidentMessage event)
        dependencies.webhook).1 ≠ .ok ()

/-- The connection is listed on the target channel, and no delivery to it finds it gone. -/
def ListedAlive (dependencies : DispatcherDependencies) (connection : ConnectionRecord) : Prop :=
  ∃ attempts, dependencies.broadcast = .ok ⟨connection.channel, .ok attempts⟩ ∧
    (∃ attempt ∈ attempts, attempt.connection = connection) ∧
    ∀ attempt ∈ attempts, attempt.connection = connection → attempt.gone = false

/-- A post to the connection is made and accepted, and its data read as a message of the event. -/
def Received (dependencies : DispatcherDependencies) (connection : ConnectionRecord) : Prop :=
  ∃ targetChannel attempts attempt data members,
    dependencies.broadcast = .ok ⟨targetChannel, .ok attempts⟩ ∧
    attempt ∈ attempts ∧ attempt.connection = connection ∧ attempt.post = .ok () ∧
    (∃ broadcast ∈ (dispatchIncidentTaskCompletedEvent runtime event dependencies).broadcasts,
      .post (postToConnection connection data) ∈ broadcast.actions) ∧
    Json.parse? data = some (.object members) ∧
    members.lookup "event_id" = some (.string event.eventId)

end Spec

/-! ## One connection after the other -/

def Attempt.actions (targetChannel payload : String) (attempt : Attempt) : List Action :=
  if attempt.onChannel targetChannel then
    .post (postToConnection attempt.connection payload) ::
      (if attempt.gone then
        .delete attempt.connection.connectionId ::
          (match attempt.cleanup with
          | .ok () => []
          | .error error =>
            [.cleanupFailed attempt.connection.connectionId (describeDeliveryError error)])
      else [])
  else [.skipped attempt.connection targetChannel]

variable {runtime : Runtime} {event : IncidentTaskCompletedEvent} {targetChannel data : String}
  {attempts : List Attempt} {failures : List RealtimeConnectionDeliveryFailure}
  {actions : List Action} {dependencies : DispatcherDependencies} {connection : ConnectionRecord}

theorem failuresOf_cons (attempt : Attempt) : failuresOf targetChannel (attempt :: attempts) =
    (if attempt.onChannel targetChannel then attempt.failure?.toList else []) ++
      failuresOf targetChannel attempts := by
  unfold failuresOf
  rw [List.filter_cons]
  split
  · cases hfailure : attempt.failure? with
    | none => simp [hfailure]
    | some failure => simp [hfailure]
  · rfl

/-- One connection: what fails of it is kept, and the loop goes on. -/
theorem deliverAll_cons (attempt : Attempt) :
    deliverAll targetChannel data (attempt :: attempts) failures actions =
      deliverAll targetChannel data attempts
        (failures ++ if attempt.onChannel targetChannel then attempt.failure?.toList else [])
        (actions ++ attempt.actions targetChannel data) := by
  obtain ⟨connection, post, cleanup⟩ := attempt
  by_cases hchannel : connection.channel = targetChannel
  · cases post with
    | ok u => simp [deliverAll, hchannel, Attempt.onChannel, Attempt.actions, Attempt.gone,
        Attempt.failure?]
    | error error =>
      cases hgone : isGoneException error with
      | false => simp [deliverAll, hchannel, hgone, Attempt.onChannel, Attempt.actions,
          Attempt.gone, Attempt.failure?]
      | true =>
        -- whatever becomes of the cleanup, nothing is added to the failures
        cases cleanup with
        | ok u => simp [deliverAll, hchannel, hgone, Attempt.onChannel, Attempt.actions,
            Attempt.gone, Attempt.failure?]
        | error cleanupError => simp [deliverAll, hchannel, hgone, Attempt.onChannel,
            Attempt.actions, Attempt.gone, Attempt.failure?]
  · simp [deliverAll, hchannel, Attempt.onChannel, Attempt.actions]

theorem deliverAll_eq : deliverAll targetChannel data attempts failures actions =
    (failures ++ failuresOf targetChannel attempts,
      actions ++ attempts.flatMap (Attempt.actions targetChannel data)) := by
  induction attempts generalizing failures actions with
  | nil => simp [deliverAll, failuresOf]
  | cons attempt attempts ih =>
    rw [deliverAll_cons, ih, failuresOf_cons, List.flatMap_cons, List.append_assoc,
      List.append_assoc]

/-- Where every element yields one thing or nothing, a list yields those of the elements
that yield. -/
theorem filterMap_flatMap {α β γ : Type} {f : α → List β} {g : β → Option γ} {p : α → Bool}
    {h : α → γ} (hf : ∀ a, (f a).filterMap g = if p a then [h a] else []) (l : List α) :
    (l.flatMap f).filterMap g = (l.filter p).map h := by
  induction l with
  | nil => rfl
  | cons a l ih =>
    rw [List.flatMap_cons, List.filterMap_append, hf, ih, List.filter_cons]
    split
    · rfl
    · rfl

theorem post?_actions (attempt : Attempt) :
    (attempt.actions targetChannel data).filterMap Action.post? =
      if attempt.onChannel targetChannel then [postToConnection attempt.connection data]
      else [] := by
  unfold Attempt.actions
  split
  · split
    · cases attempt.cleanup with | ok u | error error => rfl
    · rfl
  · rfl

theorem delete?_actions (attempt : Attempt) :
    (attempt.actions targetChannel data).filterMap Action.delete? =
      if attempt.gone && attempt.onChannel targetChannel then [attempt.connection.connectionId]
      else [] := by
  unfold Attempt.actions
  split
  · rename_i hchannel
    rw [hchannel, Bool.and_true]
    split
    · cases attempt.cleanup with | ok u | error error => rfl
    · rfl
  · rename_i hchannel
    rw [Bool.not_eq_true] at hchannel
    rw [hchannel, Bool.and_false]
    rfl

/-! ## The broadcast and the dispatch -/

theorem validate_of_valid (h : ValidEvent event) :
    validateRealtimeIncidentMessage runtime (buildRealtimeIncidentMessage event) =
      .ok (buildRealtimeIncidentMessage event) := if_pos h

theorem broadcast_eq (h : ValidEvent event) :
    broadcastIncidentTaskCompletedEvent runtime event (.ok ⟨targetChannel, .ok attempts⟩) =
      ⟨if failuresOf targetChannel attempts = [] then .ok ()
        else .error (.fanout ⟨event.eventId, failuresOf targetChannel attempts⟩),
      attempts.flatMap (Attempt.actions targetChannel
        (payload runtime (buildRealtimeIncidentMessage event)))⟩ := by
  unfold broadcastIncidentTaskCompletedEvent
  simp only [validate_of_valid h, deliverAll_eq, List.nil_append]
  cases failuresOf targetChannel attempts with
  | nil => rfl
  | cons failure failures => rfl

theorem broadcast_fannedOut (h : ValidEvent event) (targetChannel : String)
    (attempts : List Attempt) : FannedOut runtime event targetChannel attempts
      (broadcastIncidentTaskCompletedEvent runtime event (.ok ⟨targetChannel, .ok attempts⟩)) := by
  rw [broadcast_eq h]
  exact
    { posts := filterMap_flatMap post?_actions attempts
      deletes := by
        rw [List.filter_filter]
        exact filterMap_flatMap delete?_actions attempts
      resolves := fun hnone => if_pos hnone
      rejects := fun hsome => if_neg hsome }

theorem rejection_eq_nil {channel : NotificationDispatchChannel} {result : Except Thrown Unit} :
    rejection channel result = [] ↔ result = .ok () := by
  cases result with
  | ok u => exact iff_of_true rfl rfl
  | error error => exact iff_of_false (List.cons_ne_nil _ _) (by simp)

theorem mapError_eq_ok {α ε ε' : Type} {f : ε → ε'} {result : Except ε α} {a : α} :
    result.mapError f = .ok a ↔ result = .ok a := by
  cases result with
  | ok b => simp [Except.mapError]
  | error error => exact iff_of_false (by simp [Except.mapError]) (by simp)

/-- A dispatch resolves if and only if both channels do. -/
theorem dispatch_eq_ok (h : ValidEvent event) :
    (dispatchIncidentTaskCompletedEvent runtime event dependencies).result = .ok () ↔
      (broadcastIncidentTaskCompletedEvent runtime event dependencies.broadcast).result = .ok () ∧
      (enqueueWebhookNotification runtime (buildRealtimeIncidentMessage event)
        dependencies.webhook).1 = .ok () := by
  unfold dispatchIncidentTaskCompletedEvent
  simp only [validate_of_valid h]
  rw [← mapError_eq_ok (f := BroadcastError.toThrown), ← @rejection_eq_nil .websocket,
    ← @rejection_eq_nil .webhook, ← List.append_eq_nil_iff]
  split
  · rename_i hnone
    exact iff_of_true rfl hnone
  · rename_i hsome
    exact iff_of_false (by simp) hsome

theorem dispatch_dispatched (h : ValidEvent event) (dependencies : DispatcherDependencies) :
    Dispatched runtime event dependencies
      (dispatchIncidentTaskCompletedEvent runtime event dependencies) where
  broadcasts := by simp only [dispatchIncidentTaskCompletedEvent, validate_of_valid h]
  handoffs := by simp only [dispatchIncidentTaskCompletedEvent, validate_of_valid h]
  sent queueUrl hurl := by simp only [enqueueWebhookNotification, hurl, validate_of_valid h]
  rejects := by rw [ne_eq, dispatch_eq_ok h, not_and_or]

/-! ## The client's side -/

/-- The payload reads as the message, which carries the `event_id`. -/
theorem parse?_payload (runtime : Runtime) (event : IncidentTaskCompletedEvent) : ∃ members,
    Json.parse? (payload runtime (buildRealtimeIncidentMessage event)) = some (.object members) ∧
      members.lookup "event_id" = some (.string event.eventId) := by
  refine ⟨_, parse?_stringify (List.cons_ne_nil _ _) (fun m hm => ?_) (by simp), rfl⟩
  simp only [List.mem_cons, List.not_mem_nil, or_false] at hm
  obtain rfl | rfl | rfl | rfl | rfl | rfl | rfl | rfl | rfl := hm
  case inr.inr.inr.inr.inr.inr.inr.inl =>
    cases event.acknowledgedAt with
    | none => trivial
    | some s => trivial
  all_goals trivial

/-- Where no failure is listed, a delivery that does not find its connection gone is accepted. -/
theorem accepted_of_resolved (hnone : failuresOf targetChannel attempts = []) {attempt : Attempt}
    (hmem : attempt ∈ attempts) (hchannel : attempt.onChannel targetChannel = true)
    (halive : attempt.gone = false) : attempt.post = .ok () := by
  have hfailure := List.filterMap_eq_nil_iff.mp hnone attempt (List.mem_filter.mpr ⟨hmem, hchannel⟩)
  unfold Attempt.failure? at hfailure
  unfold Attempt.gone at halive
  cases hpost : attempt.post with
  | ok u => rfl
  | error error =>
    rw [hpost] at hfailure halive
    dsimp only at hfailure halive
    rw [if_neg (by simp [halive])] at hfailure
    contradiction

theorem received_of_resolved (h : ValidEvent event)
    (hresolved : (dispatchIncidentTaskCompletedEvent runtime event dependencies).result = .ok ())
    (halive : ListedAlive dependencies connection) :
    Received runtime event dependencies connection := by
  obtain ⟨attempts, hlisted, ⟨attempt, hmem, hconnection⟩, hgone⟩ := halive
  have hbroadcast := ((dispatch_eq_ok h).mp hresolved).1
  have hbroadcasts := (dispatch_dispatched h dependencies : Dispatched runtime event _ _).broadcasts
  rw [hlisted] at hbroadcast hbroadcasts
  have hfanned : FannedOut runtime event connection.channel attempts _ :=
    broadcast_fannedOut h connection.channel attempts
  -- a failure that is not "gone" would have rejected the broadcast
  have hnone : failuresOf connection.channel attempts = [] := by
    by_contra hsome
    rw [hfanned.rejects hsome] at hbroadcast
    contradiction
  have hchannel : attempt.onChannel connection.channel = true := by
    rw [Attempt.onChannel, hconnection, decide_eq_true rfl]
  have haccepted := accepted_of_resolved hnone hmem hchannel (hgone attempt hmem hconnection)
  have hposted : .post (postToConnection connection
      (payload runtime (buildRealtimeIncidentMessage event))) ∈
        (broadcastIncidentTaskCompletedEvent runtime event
          (.ok ⟨connection.channel, .ok attempts⟩)).actions := by
    have hpost : postToConnection connection
        (payload runtime (buildRealtimeIncidentMessage event)) ∈
          (broadcastIncidentTaskCompletedEvent runtime event
            (.ok ⟨connection.channel, .ok attempts⟩)).actions.filterMap Action.post? := by
      rw [hfanned.posts]
      exact List.mem_map.mpr ⟨attempt, List.mem_filter.mpr ⟨hmem, hchannel⟩, by rw [hconnection]⟩
    -- among the actions, only a post is counted as one
    obtain ⟨action, haction, hsame⟩ := List.mem_filterMap.mp hpost
    cases action with
    | post command =>
      obtain rfl := Option.some.inj hsame
      exact haction
    | delete | cleanupFailed | skipped => contradiction
  obtain ⟨members, hparse, heventId⟩ := parse?_payload runtime event
  refine ⟨_, attempts, attempt, _, members, hlisted, hmem, hconnection, haccepted, ?_, hparse,
    heventId⟩
  rw [hbroadcasts]
  exact ⟨_, List.mem_singleton_self _, hposted⟩

/-- A valid event is fanned out to its channel and handed off; a source record whose last delivery
succeeds has reached every connection that was there all along. -/
theorem notification_fan_out (runtime : Runtime) (event : IncidentTaskCompletedEvent)
    (h : ValidEvent event) :
    (∀ targetChannel attempts, FannedOut runtime event targetChannel attempts
      (broadcastIncidentTaskCompletedEvent runtime event (.ok ⟨targetChannel, .ok attempts⟩))) ∧
    (∀ dependencies, Dispatched runtime event dependencies
      (dispatchIncidentTaskCompletedEvent runtime event dependencies)) ∧
    ∀ (deliveries : List DispatcherDependencies) (last : DispatcherDependencies),
      deliveries.getLast? = some last →
      (dispatchIncidentTaskCompletedEvent runtime event last).result = .ok () →
      ∀ connection, (∀ delivery ∈ deliveries, ListedAlive delivery connection) →
        ∃ delivery ∈ deliveries, Received runtime event delivery connection := by
  refine ⟨broadcast_fannedOut h, dispatch_dispatched h, ?_⟩
  intro deliveries last hlast hresolved connection halive
  have hmem : last ∈ deliveries := List.mem_of_getLast? hlast
  exact ⟨last, hmem, received_of_resolved h hresolved (halive last hmem)⟩

/-! ## A delivery that fails, and one that succeeds -/

theorem coveredEvent_valid : ValidEvent coveredEvent := by
  have hoccurredAt : readDateTime coveredEvent.occurredAt.toList =
      some ⟨2026, 9, 21, 16, 0, 1, [], .utc⟩ := by decide
  exact incidentUpdatedSchema_build
    { coveredEvent_checked with
      eventId := by decide
      incidentId := by decide
      taskId := by decide
      acknowledgedAt := fun _ h => by contradiction
      occurredAt := ajvFormat_of_readDateTime hoccurredAt (by decide) (by decide) (by decide) }

def plainRuntime : Runtime := ⟨noNumber, fun _ => "unknown contract violation"⟩

def slowConnection : ConnectionRecord := ⟨"incidents", "B", "ws.example.com", "prod"⟩

/-- Three connections, of which one is gone and another one is answered as the argument says. -/
def deliveryTo (slow : Except Thrown Unit) : DispatcherDependencies where
  broadcast := .ok ⟨"incidents", .ok
    [⟨⟨"incidents", "A", "ws.example.com", "prod"⟩, .error (.object (some "GoneException")),
        .error .primitive⟩,
      ⟨slowConnection, slow, .ok ()⟩,
      ⟨⟨"audit", "C", "ws.example.com", "prod"⟩, .ok (), .ok ()⟩]⟩
  webhook := ⟨some "https://sqs.example.com/webhooks", .ok ()⟩

theorem deliveryTo_resolved :
    (dispatchIncidentTaskCompletedEvent plainRuntime coveredEvent (deliveryTo (.ok ()))).result =
      .ok () := by
  have hurl : requireWebhookNotificationQueueUrl (deliveryTo (.ok ())).webhook.queueUrl =
      .ok "https://sqs.example.com/webhooks" := by decide
  refine (dispatch_eq_ok coveredEvent_valid).mpr
    ⟨(broadcast_fannedOut coveredEvent_valid _ _).resolves rfl, ?_⟩
  simp only [enqueueWebhookNotification, hurl, validate_of_valid coveredEvent_valid]
  rfl

theorem slowConnection_listed {slow : Except Thrown Unit}
    (h : slow = .ok () ∨ slow = .error .primitive) :
    ListedAlive (deliveryTo slow) slowConnection := by
  refine ⟨_, rfl, ⟨_, List.mem_cons_of_mem _ List.mem_cons_self, rfl⟩, ?_⟩
  obtain rfl | rfl := h
  · decide
  · decide

theorem slowConnection_received :
    ∃ delivery ∈ [deliveryTo (.error .primitive), deliveryTo (.ok ())],
      Received plainRuntime coveredEvent delivery slowConnection := by
  refine (notification_fan_out plainRuntime coveredEvent coveredEvent_valid).2.2 _ _ rfl
    deliveryTo_resolved slowConnection fun delivery hdelivery => ?_
  obtain rfl | rfl := List.mem_pair.mp hdelivery
  · exact slowConnection_listed (.inr rfl)
  · exact slowConnection_listed (.inl rfl)

end OpsFlow.Notifier
