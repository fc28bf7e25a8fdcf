import OpsFlow.Notifier.ConnectionRuns

namespace OpsFlow.Notifier
open OpsFlow.Contracts LaggingStore Transition

variable {config : RealtimeNotifierConfig} {runtime : Runtime} {s s' : System} {label : Label}
  {before labels : List Label} {record record' : StoredConnection} {connectionId : String} {i : ℕ}
  {event : IncidentTaskCompletedEvent} {failures : List RealtimeConnectionDeliveryFailure}
  {actions : List Action} {opened : ConnectionRecord → Prop} {held : List (String × Item)}

/-! ## A broadcast at its end -/

def Valid (s : System) : Prop :=
  ∀ i process, s.processes i = some process → ValidEvent process.event

theorem valid_step (hvalid : Valid s) (hstep : Step config runtime s label s') : Valid s' := by
  intro i process hprocess
  have hset {j : ℕ} {event : IncidentTaskCompletedEvent} {phase : Phase}
      (hprocess : Function.update s.processes j (some ⟨event, phase⟩) i = some process)
      (hevent : ValidEvent event) : ValidEvent process.event := by
    by_cases hj : i = j
    · subst hj
      rw [Function.update_self] at hprocess
      obtain rfl := Option.some.inj hprocess
      exact hevent
    · rw [Function.update_of_ne hj] at hprocess
      exact hvalid i process hprocess
  cases hstep with
  | webSocket answer hevent hcommand =>
    rw [write_processes] at hprocess
    exact hvalid i process hprocess
  | broadcast hnew hevent => exact hset hprocess hevent
  | page hphase hview hpage => exact hset hprocess (hvalid _ _ hphase)
  | pageFailed error hphase => exact hset hprocess (hvalid _ _ hphase)
  | skip hphase hchannel => exact hset hprocess (hvalid _ _ hphase)
  | post answer hphase hchannel => exact hset hprocess (hvalid _ _ hphase)
  | cleanup answer hphase =>
    unfold System.setPhase at hprocess
    rw [write_processes] at hprocess
    exact hset hprocess (hvalid _ _ hphase)
  | _ => exact hvalid i process hprocess

theorem run_valid (h : Run (Step config runtime) .init labels s) : Valid s := by
  have hinit : Valid .init := fun i process hprocess => by contradiction
  exact h.invariant (fun _ _ _ hvalid hstep => valid_step hvalid hstep) hinit

/-- The calls that a broadcast has made are those of the loop over what it has listed. -/
theorem broadcast_at_end (hvalid : ValidEvent event)
    (h : Phase.Meets config.websocketChannel (payload runtime (buildRealtimeIncidentMessage event))
      (Listing opened held) (Listed opened held) (.delivering [] failures actions)) :
    ∃ connections attempts, Listed opened held connections ∧
      attempts.map Attempt.connection = connections.map StoredConnection.connection ∧
      broadcastIncidentTaskCompletedEvent runtime event
        (.ok ⟨config.websocketChannel, .ok attempts⟩) =
        ⟨if failures = [] then .ok ()
          else .error (.fanout ⟨event.eventId, failures⟩), actions⟩ := by
  obtain ⟨connections, attempts, hlisted, hsplit, hloop⟩ := h
  rw [deliverAll_eq, List.nil_append, List.nil_append] at hloop
  obtain ⟨rfl, rfl⟩ := Prod.mk.inj hloop
  rw [List.map_nil, List.append_nil] at hsplit
  exact ⟨connections, attempts, hlisted, hsplit, broadcast_eq hvalid⟩

theorem connectionIds_ascending {connections : List StoredConnection}
    (h : Listed opened held connections) :
    (connections.map StoredConnection.connection).Pairwise fun a b =>
      a.connectionId < b.connectionId := by
  have hascending := h.ascending
  rw [List.pairwise_map] at hascending ⊢
  exact hascending

/-- However invocations interleave, and however far reads lag behind, a stored connection is never
found to be broken, and a broadcast does what the loop does over connections that are all different
and that clients have opened. -/
theorem connections_of_run (h : Run (Step config runtime) .init labels s) :
    (∀ connectionId item, s.table.Readable connectionId (some item) → ∃ record,
      toConnectionRecord item = .ok record ∧ record.connection.connectionId = connectionId ∧
        Opened config labels record.connection) ∧
    ∀ i event failures actions,
      s.processes i = some ⟨event, .delivering [] failures actions⟩ → ∃ attempts : List Attempt,
        (attempts.map fun attempt => attempt.connection.connectionId).Pairwise (· < ·) ∧
        (∀ attempt ∈ attempts, Opened config labels attempt.connection) ∧
        broadcastIncidentTaskCompletedEvent runtime event
            (.ok ⟨config.websocketChannel, .ok attempts⟩) =
          ⟨if failures = [] then .ok ()
            else .error (.fanout ⟨event.eventId, failures⟩), actions⟩ := by
  obtain ⟨hsound, hlists⟩ := run_kept h
  refine ⟨fun connectionId item hitem => ?_, fun i event failures actions hdone => ?_⟩
  · obtain ⟨record, rfl, hid, hstored, hopened⟩ := hsound connectionId item hitem
    exact ⟨record, toConnectionRecord_item hstored, hid, hopened⟩
  · obtain ⟨connections, attempts, hlisted, hsame, hbroadcast⟩ :=
      broadcast_at_end (run_valid h i _ hdone) (hlists i _ hdone)
    refine ⟨attempts, ?_, fun attempt hattempt => ?_, hbroadcast⟩
    · have hascending := connectionIds_ascending hlisted
      rw [← hsame, List.pairwise_map] at hascending
      exact List.pairwise_map.mpr hascending
    · have hmem := List.mem_map_of_mem (f := Attempt.connection) hattempt
      rw [hsame] at hmem
      obtain ⟨record, hrecord, heq⟩ := List.mem_map.mp hmem
      exact heq ▸ hlisted.opened record hrecord

/-! ## A connection that is there throughout -/

theorem item_inj (h : record.item = record'.item) : record = record' := by
  obtain ⟨⟨channel, connectionId, domainName, stage⟩, connectedAt, expiresAt⟩ := record
  obtain ⟨⟨channel', connectionId', domainName', stage'⟩, connectedAt', expiresAt'⟩ := record'
  simpa [StoredConnection.item, and_assoc] using h

/-- As long as nothing writes the item and it has not expired, every broadcast that begins in the
meantime lists it. -/
theorem run_held (hbefore : Run (Step config runtime) .init before s)
    (hheld : s.table.Held connectionId (some record.item)) (hnew : s.processes i = none)
    (hrun : Run (Step config runtime) s labels s')
    (huntouched : ∀ label ∈ labels, ¬ label.touches connectionId)
    (hnow : (s'.now : ℚ) ≤ record.expiresAt * 1000) :
    s'.table.Held connectionId (some record.item) ∧ Sound config (before ++ labels) s'.table ∧
      Lists config runtime (before ++ labels) [(connectionId, record.item)] s' i := by
  induction hrun with
  | nil =>
    rw [List.append_nil]
    refine ⟨hheld, (run_kept hbefore).1, fun process hprocess => ?_⟩
    rw [hnew] at hprocess
    contradiction
  | snoc hrun hstep ih =>
    rw [List.forall_mem_append, List.forall_mem_singleton] at huntouched
    have hearlier : (_ : ℚ) ≤ record.expiresAt * 1000 :=
      (Nat.cast_le.mpr (now_step hstep)).trans hnow
    obtain ⟨hheld', hsound, hlists⟩ := ih huntouched.1 hearlier
    rw [← List.append_assoc]
    exact ⟨held_step hheld' huntouched.2 hearlier hstep, sound_step hsound hstep,
      lists_step hsound hlists (by simpa using hheld') hstep⟩

theorem filter_eq_singleton {α β : Type} [Preorder β] [DecidableEq β] {key : α → β} {l : List α}
    {a : α} (hascending : l.Pairwise fun x y => key x < key y) (ha : a ∈ l) :
    l.filter (fun x => key x = key a) = [a] := by
  induction l with
  | nil => contradiction
  | cons x l ih =>
    obtain ⟨hfirst, hascending⟩ := List.pairwise_cons.mp hascending
    obtain rfl | ha := List.mem_cons.mp ha
    · have hnone : l.filter (fun x => key x = key a) = [] := by
        refine List.filter_eq_nil_iff.mpr fun y hy => ?_
        simpa using (hfirst y hy).ne'
      rw [List.filter_cons_of_pos (by simp), hnone]
    · rw [List.filter_cons_of_neg (by simpa using (hfirst a ha).ne), ih hascending ha]

/-- A client whose connection is stored, and stays so, gets the message of every broadcast exactly
once. -/
theorem held_connection_notified (hbefore : Run (Step config runtime) .init before s)
    (hheld : s.table.Held connectionId (some record.item)) (hnew : s.processes i = none)
    (hrun : Run (Step config runtime) s labels s')
    (huntouched : ∀ label ∈ labels, ¬ label.touches connectionId)
    (hnow : (s'.now : ℚ) ≤ record.expiresAt * 1000)
    (hdone : s'.processes i = some ⟨event, .delivering [] failures actions⟩) :
    (actions.filterMap Action.post?).filter (fun command => command.connectionId = connectionId) =
      [postToConnection record.connection
        (payload runtime (buildRealtimeIncidentMessage event))] := by
  have hvalid := run_valid (hbefore.append hrun) i _ hdone
  obtain ⟨hheld', hsound, hlists⟩ := run_held hbefore hheld hnew hrun huntouched hnow
  obtain ⟨record', hitem, rfl, -, -⟩ := hsound connectionId record.item (.inl hheld'.newest.symm)
  obtain rfl := item_inj hitem
  obtain ⟨connections, attempts, hlisted, hsame, hbroadcast⟩ :=
    broadcast_at_end hvalid (hlists _ hdone)
  have hfanned : FannedOut runtime event config.websocketChannel attempts _ :=
    broadcast_fannedOut hvalid config.websocketChannel attempts
  have hdelivered := hfanned.posts
  rw [hbroadcast] at hdelivered
  -- the channel of every connection that was opened is the one of the broadcast
  have hon : attempts.filter (Attempt.onChannel config.websocketChannel) = attempts := by
    refine List.filter_eq_self.mpr fun attempt hattempt => decide_eq_true ?_
    have hmem := List.mem_map_of_mem (f := Attempt.connection) hattempt
    rw [hsame] at hmem
    obtain ⟨record, hrecord, heq⟩ := List.mem_map.mp hmem
    exact heq ▸ (hlisted.opened record hrecord).1
  have hposts : actions.filterMap Action.post? =
      (connections.map StoredConnection.connection).map fun connection =>
        postToConnection connection (payload runtime (buildRealtimeIncidentMessage event)) := by
    rw [hon] at hdelivered
    rw [← hsame, List.map_map]
    exact hdelivered
  obtain ⟨stored, hstored, hentry⟩ :=
    List.mem_map.mp (hlisted.complete _ (List.mem_singleton.mpr rfl))
  obtain rfl := item_inj (Prod.mk.inj hentry).2
  have hmem : stored.connection ∈ connections.map StoredConnection.connection :=
    List.mem_map_of_mem hstored
  rw [hposts, List.filter_map]
  have hfilter := filter_eq_singleton (connectionIds_ascending hlisted) hmem
  exact congrArg (List.map _) hfilter

/-! ## A run -/

def incidentsConfig : RealtimeNotifierConfig :=
  ⟨"connections", 7200, "incidents", by decide, by decide, by decide⟩

def routeEvent (routeKey connectionId : String) : Json :=
  .object [("requestContext", .object [("routeKey", .string routeKey),
    ("connectionId", .string connectionId), ("domainName", .string "ws.example.com"),
    ("stage", .string "prod")])]

def closedConnection : ConnectionRecord := ⟨"incidents", "A", "ws.example.com", "prod"⟩

def closedRecord : StoredConnection := ⟨closedConnection, toISOString 0, 7200⟩

def slowRecord : StoredConnection := ⟨slowConnection, toISOString 0, 7200⟩

theorem closedRecord_wellStored : WellStored closedRecord :=
  ⟨by decide, by decide, by decide, by decide, toISOString_ne_empty 0⟩

theorem slowRecord_wellStored : WellStored slowRecord :=
  ⟨by decide, by decide, by decide, by decide, toISOString_ne_empty 0⟩

def holding (table : Store String Item) : System := { System.init with table := table }

def bothStored : Store String Item :=
  (((Store.empty.write "A" (some closedRecord.item)).settle "A").write "B"
    (some slowRecord.item)).settle "B"

/-- Every read returns the slow connection, and a read may still return the closed one. -/
def connected : System := holding (bothStored.write "A" none)

def connecting : List Label :=
  [.webSocket (routeEvent "$connect" "A") .done, .settle "A",
    .webSocket (routeEvent "$connect" "B") .done, .settle "B",
    .webSocket (routeEvent "$disconnect" "A") .done]

theorem webSocket_done (table : Store String Item) {event : Json} {command : TableCommand}
    (hevent : isSqsEvent event = false)
    (hcommand : (handleWebSocketEvent incidentsConfig 0 event (.ok ())).2 = some command) :
    Step incidentsConfig runtime (holding table) (.webSocket event .done)
      ((holding table).write command .done) :=
  .webSocket .done hevent hcommand

theorem run_connecting : Run (Step incidentsConfig runtime) .init connecting connected := by
  have hopen : (handleWebSocketEvent incidentsConfig 0 (routeEvent "$connect" "A") (.ok ())).2 =
      some (saveConnection incidentsConfig 0 ⟨"A", "ws.example.com", "prod"⟩) := rfl
  have hslow : (handleWebSocketEvent incidentsConfig 0 (routeEvent "$connect" "B") (.ok ())).2 =
      some (saveConnection incidentsConfig 0 ⟨"B", "ws.example.com", "prod"⟩) := rfl
  have hclose : (handleWebSocketEvent incidentsConfig 0 (routeEvent "$disconnect" "A") (.ok ())).2 =
      some (deleteConnection incidentsConfig "A") := rfl
  refine .cons (webSocket_done .empty rfl hopen) (.cons (.settle _ "A") ?_)
  refine .cons (webSocket_done _ rfl hslow) (.cons (.settle _ "B") (.single ?_))
  exact webSocket_done bothStored rfl hclose

theorem connected_held : connected.table.Held "B" (some slowRecord.item) :=
  (Store.held_settle _ "B").write_of_ne (by decide)

theorem connected_absent {k : String} (hclosed : k ≠ "A") (hslow : k ≠ "B") :
    connected.table.Readable k none := by
  refine .inl ?_
  simp [connected, holding, bothStored, Store.settle, Store.write, Store.empty, hclosed, hslow]

/-- A query that lags behind sees the closed connection. -/
theorem view_lagging :
    View connected.table [("A", closedRecord.item), ("B", slowRecord.item)] where
  ascending := List.pairwise_pair.mpr (by decide)
  readable := by
    intro item hitem
    obtain rfl | rfl := List.mem_pair.mp hitem
    · exact .inr List.mem_cons_self
    · exact .inl rfl
  absent := fun k hk => connected_absent (fun h => hk _ List.mem_cons_self h.symm)
    (fun h => hk _ (List.mem_cons_of_mem _ List.mem_cons_self) h.symm)

theorem view_newest : View connected.table [("B", slowRecord.item)] where
  ascending := List.pairwise_singleton _ _
  readable := by
    intro item hitem
    obtain rfl := List.mem_singleton.mp hitem
    exact .inl rfl
  absent := by
    intro k hk
    have hslow : k ≠ "B" := fun h => hk _ List.mem_cons_self h.symm
    by_cases hclosed : k = "A"
    · subst hclosed
      exact .inl rfl
    · exact connected_absent hclosed hslow

theorem afterPage_singleton {listed : List StoredConnection} (h : WellStored record) :
    (∀ key, afterPage listed [(connectionId, record.item)] (some key) =
      .listing (some key) (listed ++ [record])) ∧
    afterPage listed [(connectionId, record.item)] none =
      .delivering (listed ++ [record]) [] [] := by
  have hrecords : [(connectionId, record.item)].mapM (fun item => toConnectionRecord item.2) =
      .ok [record] := by
    simp [toConnectionRecord_item h, pure, Except.pure, bind, Except.bind]
  refine ⟨fun key => ?_, ?_⟩
  · rw [afterPage, hrecords]
  · rw [afterPage, hrecords]

/-- Two pages, the first of which lags behind; the closed connection is found to be gone. -/
def notifying : List Label :=
  [.broadcast 0 coveredEvent, .page 0, .page 0,
    .post 0 (.error (.object (some "GoneException"))), .cleanup 0 "A" .done, .post 0 (.ok ())]

def notifyingActions (runtime : Runtime) : List Action :=
  [.post (postToConnection closedConnection
      (payload runtime (buildRealtimeIncidentMessage coveredEvent))),
    .delete "A",
    .post (postToConnection slowConnection
      (payload runtime (buildRealtimeIncidentMessage coveredEvent)))]

def cleaned : System := connected.write (deleteConnection incidentsConfig "A") .done

def notified (runtime : Runtime) : System :=
  cleaned.setPhase 0 coveredEvent (.delivering [] [] (notifyingActions runtime))

theorem run_listing : Run (Step incidentsConfig runtime) connected
    [.broadcast 0 coveredEvent, .page 0, .page 0]
    (connected.setPhase 0 coveredEvent (.delivering [closedRecord, slowRecord] [] [])) := by
  have hfirst : Step incidentsConfig runtime (connected.setPhase 0 coveredEvent (.listing none []))
      (.page 0) (connected.setPhase 0 coveredEvent (.listing (some "A") [closedRecord])) := by
    have hpage : Page [("A", closedRecord.item), ("B", slowRecord.item)] none
        [("A", closedRecord.item)] (some "A") :=
      ⟨⟨_, rfl⟩, fun h => by contradiction, by simp⟩
    have hstep : Step incidentsConfig runtime _ (.page 0) _ :=
      .page (setPhase_processes connected 0 coveredEvent (.listing none [])) view_lagging hpage
    rwa [setPhase_setPhase, (afterPage_singleton closedRecord_wellStored).1] at hstep
  have hsecond : Step incidentsConfig runtime
      (connected.setPhase 0 coveredEvent (.listing (some "A") [closedRecord])) (.page 0)
      (connected.setPhase 0 coveredEvent (.delivering [closedRecord, slowRecord] [] [])) := by
    have hafter : after (some "A") [("B", slowRecord.item)] = [("B", slowRecord.item)] := rfl
    have hpage : Page [("B", slowRecord.item)] (some "A") [("B", slowRecord.item)] none :=
      ⟨hafter ▸ List.prefix_refl _, fun _ => hafter.symm, by simp⟩
    have hstep : Step incidentsConfig runtime _ (.page 0) _ :=
      .page (setPhase_processes connected 0 coveredEvent (.listing (some "A") [closedRecord]))
        view_newest
        hpage
    rwa [setPhase_setPhase, (afterPage_singleton slowRecord_wellStored).2] at hstep
  exact .cons (.broadcast rfl coveredEvent_valid) (.cons hfirst (.single hsecond))

theorem run_delivering : Run (Step incidentsConfig runtime)
    (connected.setPhase 0 coveredEvent (.delivering [closedRecord, slowRecord] [] []))
    [.post 0 (.error (.object (some "GoneException"))), .cleanup 0 "A" .done, .post 0 (.ok ())]
    (notified runtime) := by
  have hgone : Step incidentsConfig runtime
      (connected.setPhase 0 coveredEvent (.delivering [closedRecord, slowRecord] [] []))
      (.post 0 (.error (.object (some "GoneException"))))
      (connected.setPhase 0 coveredEvent (.cleaning closedRecord [slowRecord] []
        ((notifyingActions runtime).take 1))) := by
    have hstep :
        Step incidentsConfig runtime _ (.post 0 (.error (.object (some "GoneException")))) _ :=
      .post _
        (setPhase_processes connected 0 coveredEvent (.delivering [closedRecord, slowRecord] [] []))
        rfl
    rwa [setPhase_setPhase] at hstep
  have hcleanup : Step incidentsConfig runtime
      (connected.setPhase 0 coveredEvent (.cleaning closedRecord [slowRecord] []
        ((notifyingActions runtime).take 1))) (.cleanup 0 "A" .done)
      (cleaned.setPhase 0 coveredEvent (.delivering [slowRecord] []
        ((notifyingActions runtime).take 2))) := by
    have hstep : Step incidentsConfig runtime _ (.cleanup 0 "A" .done) _ :=
      .cleanup .done (setPhase_processes connected 0 coveredEvent
        (.cleaning closedRecord [slowRecord] [] ((notifyingActions runtime).take 1)))
    have hwrite (phase : Phase) : (connected.setPhase 0 coveredEvent phase).write
        (deleteConnection incidentsConfig "A") .done = cleaned.setPhase 0 coveredEvent phase := rfl
    rwa [show closedRecord.connection.connectionId = "A" from rfl, hwrite, setPhase_setPhase]
      at hstep
  have hpost : Step incidentsConfig runtime
      (cleaned.setPhase 0 coveredEvent (.delivering [slowRecord] []
        ((notifyingActions runtime).take 2))) (.post 0 (.ok ())) (notified runtime) := by
    have hstep : Step incidentsConfig runtime _ (.post 0 (.ok ())) _ :=
      .post (.ok ()) (setPhase_processes cleaned 0 coveredEvent (.delivering [slowRecord] []
        ((notifyingActions runtime).take 2))) rfl
    rwa [setPhase_setPhase] at hstep
  exact .cons hgone (.cons hcleanup (.single hpost))

theorem run_notifying :
    Run (Step incidentsConfig runtime) connected notifying (notified runtime) :=
  run_listing.append run_delivering

theorem notified_done (runtime : Runtime) : (notified runtime).processes 0 =
    some ⟨coveredEvent, .delivering [] [] (notifyingActions runtime)⟩ :=
  setPhase_processes cleaned 0 coveredEvent _

theorem connections_of_notifying :
    (∀ connectionId item, (notified plainRuntime).table.Readable connectionId (some item) →
      ∃ record, toConnectionRecord item = .ok record ∧
        record.connection.connectionId = connectionId ∧
        Opened incidentsConfig (connecting ++ notifying) record.connection) ∧
    ∃ attempts : List Attempt,
      (attempts.map fun attempt => attempt.connection.connectionId).Pairwise (· < ·) ∧
      (∀ attempt ∈ attempts,
        Opened incidentsConfig (connecting ++ notifying) attempt.connection) ∧
      broadcastIncidentTaskCompletedEvent plainRuntime coveredEvent
          (.ok ⟨"incidents", .ok attempts⟩) =
        ⟨.ok (), notifyingActions plainRuntime⟩ := by
  have hrun : Run (Step incidentsConfig plainRuntime) .init (connecting ++ notifying)
      (notified plainRuntime) := run_connecting.append run_notifying
  obtain ⟨hreadable, hbroadcasts⟩ := connections_of_run hrun
  obtain ⟨attempts, hascending, hopened, hbroadcast⟩ :=
    hbroadcasts 0 coveredEvent [] _ (notified_done plainRuntime)
  rw [if_pos rfl] at hbroadcast
  exact ⟨hreadable, attempts, hascending, hopened, hbroadcast⟩

theorem slowConnection_notified :
    ((notifyingActions plainRuntime).filterMap Action.post?).filter
      (fun command => command.connectionId = "B") =
      [postToConnection slowRecord.connection
        (payload plainRuntime (buildRealtimeIncidentMessage coveredEvent))] := by
  have huntouched : ∀ label ∈ notifying, ¬ label.touches "B" := by
    simp [notifying, Label.touches]
  have hnow : ((notified plainRuntime).now : ℚ) ≤ slowRecord.expiresAt * 1000 := by
    change ((0 : ℕ) : ℚ) ≤ 7200 * 1000
    norm_num
  exact held_connection_notified run_connecting connected_held rfl run_notifying huntouched hnow
    (notified_done plainRuntime)

end OpsFlow.Notifier
