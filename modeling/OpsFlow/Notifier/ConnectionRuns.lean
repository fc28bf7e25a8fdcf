import OpsFlow.Notifier.Connections

namespace OpsFlow.Notifier
open OpsFlow.Contracts LaggingStore Transition

variable {config : RealtimeNotifierConfig} {runtime : Runtime} {s s' : System} {label : Label}
  {labels : List Label} {record : StoredConnection} {connection : ConnectionRecord}

/-! ## What is written and what is read -/

/-- Nothing that is read back as a string is empty. -/
structure WellStored (record : StoredConnection) : Prop where
  channel : record.connection.channel ≠ ""
  connectionId : record.connection.connectionId ≠ ""
  domainName : record.connection.domainName ≠ ""
  stage : record.connection.stage ≠ ""
  connectedAt : record.connectedAt ≠ ""

theorem requireStoredString_string {s field : String} (h : s ≠ "") :
    requireStoredString (some (.string s)) field = .ok s := if_neg h

/-- What has been written is read back. -/
theorem toConnectionRecord_item (h : WellStored record) :
    toConnectionRecord record.item = .ok record := by
  have hchannel : record.item.lookup "channel" = some (.string record.connection.channel) := rfl
  have hconnectionId :
      record.item.lookup "connection_id" = some (.string record.connection.connectionId) := rfl
  have hdomainName :
      record.item.lookup "domain_name" = some (.string record.connection.domainName) := rfl
  have hstage : record.item.lookup "stage" = some (.string record.connection.stage) := rfl
  have hconnectedAt : record.item.lookup "connected_at" = some (.string record.connectedAt) := rfl
  have hexpiresAt : record.item.lookup "expires_at" = some (.number record.expiresAt) := rfl
  unfold toConnectionRecord
  rw [hchannel, hconnectionId, hdomainName, hstage, hconnectedAt, hexpiresAt,
    requireStoredString_string h.channel, requireStoredString_string h.connectionId,
    requireStoredString_string h.domainName, requireStoredString_string h.stage,
    requireStoredString_string h.connectedAt]
  rfl

theorem requireContextString_eq_ok {context : List (String × Json)} {field s : String}
    (h : requireContextString context field = .ok s) : s ≠ "" := by
  unfold requireContextString at h
  split at h
  · obtain ⟨hne, heq⟩ := ite_error_eq_ok.mp h
    rw [← Except.ok.inj heq]
    exact hne
  · contradiction

/-- Every member of a context that is parsed says something. -/
theorem parseWebSocketEvent_ne_empty {event : Json} {context : RequestContext}
    (h : parseWebSocketEvent event = .ok context) :
    context.connectionId ≠ "" ∧ context.domainName ≠ "" ∧ context.stage ≠ "" := by
  unfold parseWebSocketEvent at h
  split at h
  · split at h
    · simp only [bind_eq_ok] at h
      obtain ⟨_, -, _, hconnectionId, _, hdomainName, _, hstage, heq⟩ := h
      obtain rfl := Except.ok.inj heq
      exact ⟨requireContextString_eq_ok hconnectionId, requireContextString_eq_ok hdomainName,
        requireContextString_eq_ok hstage⟩
    · contradiction
  · contradiction

/-! ## Where a stored connection comes from -/

/-- A client has opened this connection, and the handler was told so. -/
def Opened (config : RealtimeNotifierConfig) (labels : List Label) (connection : ConnectionRecord) :
    Prop :=
  connection.channel = config.websocketChannel ∧ ∃ event answer, .webSocket event answer ∈ labels ∧
    parseWebSocketEvent event =
      .ok ⟨"$connect", connection.connectionId, connection.domainName, connection.stage⟩

theorem Opened.snoc (h : Opened config labels connection) (label : Label) :
    Opened config (labels ++ [label]) connection := by
  obtain ⟨hchannel, event, answer, hmem, hparse⟩ := h
  exact ⟨hchannel, event, answer, List.mem_append_left _ hmem, hparse⟩

def Sound (config : RealtimeNotifierConfig) (labels : List Label) (table : Store String Item) :
    Prop :=
  ∀ connectionId item, table.Readable connectionId (some item) → ∃ record : StoredConnection,
    record.item = item ∧ record.connection.connectionId = connectionId ∧ WellStored record ∧
      Opened config labels record.connection

/-- The commands of a WebSocket event, route by route. -/
theorem handleWebSocketEvent_command {now : ℕ} {event : Json} {answer : Except Thrown Unit}
    {command : TableCommand}
    (h : (handleWebSocketEvent config now event answer).2 = some command) :
    ∃ context, parseWebSocketEvent event = .ok context ∧
      ((context.routeKey = "$connect" ∧ command = saveConnection config now
        ⟨context.connectionId, context.domainName, context.stage⟩) ∨
      (context.routeKey = "$disconnect" ∧
        command = deleteConnection config context.connectionId)) := by
  unfold handleWebSocketEvent at h
  cases hparse : parseWebSocketEvent event with
  | error error =>
    rw [hparse] at h
    contradiction
  | ok context =>
    rw [hparse] at h
    dsimp only at h
    refine ⟨context, rfl, ?_⟩
    split_ifs at h with hconnect hdisconnect
    · exact .inl ⟨hconnect, (Option.some.inj h).symm⟩
    · exact .inr ⟨hdisconnect, (Option.some.inj h).symm⟩

theorem Sound.write_none {table : Store String Item} (h : Sound config labels table)
    (connectionId : String) : Sound config labels (table.write connectionId none) := by
  intro connectionId' item hitem
  obtain ⟨-, heq⟩ | hitem := Store.readable_write.mp hitem
  · contradiction
  · exact h connectionId' item hitem

theorem Sound.write_record {table : Store String Item} (h : Sound config labels table)
    (hstored : WellStored record) (hopened : Opened config labels record.connection) :
    Sound config labels (table.write record.connection.connectionId (some record.item)) := by
  intro connectionId item hitem
  obtain ⟨rfl, heq⟩ | hitem := Store.readable_write.mp hitem
  · exact ⟨record, (Option.some.inj heq).symm, rfl, hstored, hopened⟩
  · exact h connectionId item hitem

theorem Sound.snoc {table : Store String Item} (h : Sound config labels table) (label : Label) :
    Sound config (labels ++ [label]) table := by
  intro connectionId item hitem
  obtain ⟨record, hrecord, hid, hstored, hopened⟩ := h connectionId item hitem
  exact ⟨record, hrecord, hid, hstored, hopened.snoc label⟩

@[simp] theorem write_processes (s : System) (command : TableCommand) (answer : WriteAnswer) :
    (s.write command answer).processes = s.processes := by
  unfold System.write
  split
  · split
    · rfl
    · rfl
  · rfl

@[simp] theorem setPhase_processes (s : System) (i : ℕ) (event : IncidentTaskCompletedEvent)
    (phase : Phase) : (s.setPhase i event phase).processes i = some ⟨event, phase⟩ := by
  simp [System.setPhase]

@[simp] theorem setPhase_setPhase (s : System) (i : ℕ) (event : IncidentTaskCompletedEvent)
    (phase phase' : Phase) :
    (s.setPhase i event phase).setPhase i event phase' = s.setPhase i event phase' := by
  simp [System.setPhase]

theorem write_delete (s : System) (connectionId : String) (answer : WriteAnswer) :
    (s.write (deleteConnection config connectionId) answer).table =
      if answer.applied then s.table.write connectionId none else s.table := by
  unfold System.write deleteConnection
  split
  · rfl
  · rfl

theorem Sound.delete (h : Sound config labels s.table) (connectionId : String)
    (answer : WriteAnswer) :
    Sound config labels (s.write (deleteConnection config connectionId) answer).table := by
  rw [write_delete]
  split
  · exact h.write_none connectionId
  · exact h

theorem sound_step (h : Sound config labels s.table) (hstep : Step config runtime s label s') :
    Sound config (labels ++ [label]) s'.table := by
  have hsnoc := h.snoc label
  cases hstep with
  | webSocket answer hevent hcommand =>
    obtain ⟨context, hparse, ⟨hconnect, rfl⟩ | ⟨hdisconnect, rfl⟩⟩ :=
      handleWebSocketEvent_command hcommand
    · obtain ⟨hconnectionId, hdomainName, hstage⟩ := parseWebSocketEvent_ne_empty hparse
      unfold System.write saveConnection
      split
      · refine hsnoc.write_record ⟨config.websocketChannel_ne, hconnectionId, hdomainName, hstage,
          toISOString_ne_empty _⟩ ⟨rfl, _, answer, List.mem_append_right _ List.mem_cons_self, ?_⟩
        rw [hparse, ← hconnect]
      · exact hsnoc
    · exact hsnoc.delete context.connectionId answer
  | expire hitem hexpires hexpired => exact hsnoc.write_none _
  | settle connectionId => exact fun id item hitem => hsnoc id item hitem.of_settle
  | cleanup answer hphase => exact hsnoc.delete _ answer
  | _ => exact hsnoc

/-! ## The calls of a broadcast are those of the loop -/

/-- The connections that are left, and what the loop has done for the others. -/
structure Progress (channel data : String) (connections remaining : List StoredConnection)
    (failures : List RealtimeConnectionDeliveryFailure) (actions : List Action)
    (attempts : List Attempt) : Prop where
  split : attempts.map Attempt.connection ++ remaining.map StoredConnection.connection =
    connections.map StoredConnection.connection
  loop : deliverAll channel data attempts [] [] = (failures, actions)

/-- What is known of the pages while a broadcast lists, and of the whole list from then on. -/
def Phase.Meets (channel data : String) (listing : Option String → List StoredConnection → Prop)
    (listed : List StoredConnection → Prop) : Phase → Prop
  | .listing start connections => listing start connections
  | .delivering remaining failures actions => ∃ connections attempts, listed connections ∧
      Progress channel data connections remaining failures actions attempts
  | .cleaning connection remaining failures actions =>
    ∃ connections attempts before error, listed connections ∧ isGoneException error = true ∧
      connection.connection.channel = channel ∧
      actions = before ++ [.post (postToConnection connection.connection data)] ∧
      Progress channel data connections (connection :: remaining) failures before attempts
  | .thrown _ => True

variable {channel data : String} {listing : Option String → List StoredConnection → Prop}
  {listed : List StoredConnection → Prop} {stored : StoredConnection}
  {remaining connections : List StoredConnection}
    {failures : List RealtimeConnectionDeliveryFailure}
  {actions : List Action} {attempts : List Attempt}

/-- One more round of the loop. -/
theorem Progress.next
    (h : Progress channel data connections (stored :: remaining) failures actions attempts)
    (attempt : Attempt) (hconnection : attempt.connection = stored.connection) :
    Progress channel data connections remaining
      (failures ++ if attempt.onChannel channel then attempt.failure?.toList else [])
      (actions ++ attempt.actions channel data) (attempts ++ [attempt]) := by
  have hloop := h.loop
  rw [deliverAll_eq, List.nil_append, List.nil_append] at hloop
  obtain ⟨rfl, rfl⟩ := Prod.mk.inj hloop
  refine ⟨?_, ?_⟩
  · rw [← h.split, List.map_append, List.map_singleton, hconnection]
    simp
  · have hlast : failuresOf channel (attempts ++ [attempt]) = failuresOf channel attempts ++
        if attempt.onChannel channel then attempt.failure?.toList else [] := by
      have hnil : failuresOf channel [] = [] := rfl
      have hcons : failuresOf channel [attempt] =
          (if attempt.onChannel channel then attempt.failure?.toList else []) ++
            failuresOf channel [] :=
        failuresOf_cons attempt
      rw [hnil, List.append_nil] at hcons
      rw [← hcons]
      simp [failuresOf]
    rw [deliverAll_eq, List.nil_append, List.nil_append, hlast, List.flatMap_append,
      List.flatMap_singleton]

theorem meets_skip
    (h : Phase.Meets channel data listing listed
      (.delivering (stored :: remaining) failures actions))
    (hchannel : stored.connection.channel ≠ channel) :
    Phase.Meets channel data listing listed (.delivering remaining failures
      (actions ++ [.skipped stored.connection channel])) := by
  obtain ⟨connections, attempts, hlisted, hprogress⟩ := h
  have hnext := hprogress.next ⟨stored.connection, .ok (), .ok ()⟩ rfl
  have hoff : Attempt.onChannel channel ⟨stored.connection, .ok (), .ok ()⟩ = false :=
    decide_eq_false hchannel
  rw [hoff, if_neg Bool.false_ne_true, List.append_nil, Attempt.actions, hoff,
    if_neg Bool.false_ne_true] at hnext
  exact ⟨connections, _, hlisted, hnext⟩

theorem meets_post
    (h : Phase.Meets channel data listing listed
      (.delivering (stored :: remaining) failures actions))
    (hchannel : stored.connection.channel = channel) (answer : Except Thrown Unit) :
    Phase.Meets channel data listing listed
      (afterPost data stored remaining failures actions answer) := by
  obtain ⟨connections, attempts, hlisted, hprogress⟩ := h
  have hnext := hprogress.next ⟨stored.connection, answer, .ok ()⟩ rfl
  have hon : Attempt.onChannel channel ⟨stored.connection, answer, .ok ()⟩ = true :=
    decide_eq_true hchannel
  rw [hon, if_pos rfl, Attempt.actions, hon, if_pos rfl] at hnext
  unfold afterPost
  cases answer with
  | ok u =>
    simp only [Attempt.failure?, Attempt.gone, Option.toList_none, List.append_nil] at hnext
    exact ⟨connections, _, hlisted, hnext⟩
  | error error =>
    dsimp only
    by_cases hgone : isGoneException error = true
    · -- the round of a connection that is gone ends with its cleanup
      rw [if_pos hgone]
      exact ⟨connections, attempts, actions, error, hlisted, hgone, hchannel, rfl, hprogress⟩
    · rw [if_neg hgone]
      simp only [Attempt.failure?, Attempt.gone, hgone, if_false, Bool.false_eq_true,
        Option.toList_some] at hnext
      exact ⟨connections, _, hlisted, hnext⟩

theorem meets_cleanup
    (h : Phase.Meets channel data listing listed (.cleaning stored remaining failures actions))
    (answer : Except Thrown Unit) :
    Phase.Meets channel data listing listed
      (afterCleanup stored remaining failures actions answer) := by
  obtain ⟨connections, attempts, before, error, hlisted, hgone, hchannel, rfl, hprogress⟩ := h
  have hnext := hprogress.next ⟨stored.connection, .error error, answer⟩ rfl
  have hon : Attempt.onChannel channel ⟨stored.connection, .error error, answer⟩ = true :=
    decide_eq_true hchannel
  rw [hon, if_pos rfl, Attempt.actions, hon, if_pos rfl] at hnext
  simp only [Attempt.failure?, Attempt.gone, hgone, if_true, Option.toList_none, List.append_nil]
    at hnext
  unfold afterCleanup
  cases answer with
  | ok u =>
    dsimp only
    rw [List.append_assoc]
    exact ⟨connections, _, hlisted, hnext⟩
  | error cleanupError =>
    dsimp only
    rw [List.append_assoc, List.append_assoc]
    exact ⟨connections, _, hlisted, hnext⟩

/-- What is known of the broadcasts holds after a step if it holds after every page. -/
theorem meets_step {listing' : Option String → List StoredConnection → Prop}
    {listed' : List StoredConnection → Prop} {i : ℕ} {process : Process}
    (hall : ∀ process, s.processes i = some process → process.phase.Meets config.websocketChannel
      (payload runtime (buildRealtimeIncidentMessage process.event)) listing listed)
    (hlisting : ∀ start connections, listing start connections → listing' start connections)
    (hlisted : ∀ connections, listed connections → listed' connections)
    (hstart : ∀ event, label = .broadcast i event → listing' none [])
    (hpage : ∀ start connections items page last, listing start connections → View s.table items →
      Page items start page last → (afterPage connections page last).Meets config.websocketChannel
        (payload runtime (buildRealtimeIncidentMessage process.event)) listing' listed')
    (hstep : Step config runtime s label s') (hprocess : s'.processes i = some process) :
    process.phase.Meets config.websocketChannel
      (payload runtime (buildRealtimeIncidentMessage process.event)) listing' listed' := by
  have hmono {phase : Phase} {data : String}
      (h : phase.Meets config.websocketChannel data listing listed) :
      phase.Meets config.websocketChannel data listing' listed' := by
    cases phase with
    | listing start connections => exact hlisting start connections h
    | delivering remaining failures actions =>
      obtain ⟨connections, attempts, hlist, hrest⟩ := h
      exact ⟨connections, attempts, hlisted connections hlist, hrest⟩
    | cleaning stored remaining failures actions =>
      obtain ⟨connections, attempts, before, error, hlist, hrest⟩ := h
      exact ⟨connections, attempts, before, error, hlisted connections hlist, hrest⟩
    | thrown error => trivial
  -- the step of another broadcast leaves this one as it is
  have hset {j : ℕ} {event : IncidentTaskCompletedEvent} {phase : Phase}
      (hprocess : Function.update s.processes j (some ⟨event, phase⟩) i = some process)
      (hphase : j = i → event = process.event → phase.Meets config.websocketChannel
        (payload runtime (buildRealtimeIncidentMessage process.event)) listing' listed') :
      process.phase.Meets config.websocketChannel
        (payload runtime (buildRealtimeIncidentMessage process.event)) listing' listed' := by
    by_cases hj : i = j
    · subst hj
      rw [Function.update_self] at hprocess
      obtain rfl := Option.some.inj hprocess
      exact hphase rfl rfl
    · rw [Function.update_of_ne hj] at hprocess
      exact hmono (hall process hprocess)
  cases hstep with
  | webSocket answer hevent hcommand =>
    rw [write_processes] at hprocess
    exact hmono (hall process hprocess)
  | broadcast hnew hvalid => exact hset hprocess fun hj _ => hstart _ (by rw [hj])
  | page hphase hview hpageOf =>
    refine hset hprocess fun hj hevent => ?_
    subst hj hevent
    exact hpage _ _ _ _ _ (hall _ hphase) hview hpageOf
  | pageFailed error hphase => exact hset hprocess fun _ _ => trivial
  | skip hphase hchannel =>
    refine hset hprocess fun hj hevent => hmono ?_
    subst hj hevent
    exact meets_skip (hall _ hphase) hchannel
  | post answer hphase hchannel =>
    refine hset hprocess fun hj hevent => hmono ?_
    subst hj hevent
    exact meets_post (hall _ hphase) hchannel answer
  | cleanup answer hphase =>
    unfold System.setPhase at hprocess
    rw [write_processes] at hprocess
    refine hset hprocess fun hj hevent => hmono ?_
    subst hj hevent
    exact meets_cleanup (hall _ hphase) answer.result
  | _ => exact hmono (hall process hprocess)

/-! ## The pages of a listing -/

def StoredConnection.entry (record : StoredConnection) : String × Item :=
  (record.connection.connectionId, record.item)

/-- The connections up to the start key, of which none of these entries is left out. -/
structure Listing (opened : ConnectionRecord → Prop) (held : List (String × Item))
    (start : Option String) (connections : List StoredConnection) : Prop where
  scan : Scan start (connections.map StoredConnection.entry)
  opened : ∀ record ∈ connections, opened record.connection
  passed : ∀ entry ∈ held, (∃ key ∈ start, entry.1 ≤ key) →
    entry ∈ connections.map StoredConnection.entry

structure Listed (opened : ConnectionRecord → Prop) (held : List (String × Item))
    (connections : List StoredConnection) : Prop where
  ascending : (connections.map StoredConnection.entry).Pairwise fun a b => a.1 < b.1
  opened : ∀ record ∈ connections, opened record.connection
  complete : ∀ entry ∈ held, entry ∈ connections.map StoredConnection.entry

variable {opened : ConnectionRecord → Prop} {held page items : List (String × Item)}
  {start last : Option String}

/-- No item of a page is missing anything. -/
theorem mapM_toConnectionRecord (h : ∀ item ∈ page, ∃ record : StoredConnection,
      record.entry = item ∧ WellStored record ∧ opened record.connection) :
    ∃ records, (page.mapM fun item => toConnectionRecord item.2) = .ok records ∧
      records.map StoredConnection.entry = page ∧ ∀ record ∈ records, opened record.connection := by
  induction page with
  | nil => exact ⟨[], rfl, rfl, by simp⟩
  | cons item page ih =>
    rw [List.forall_mem_cons] at h
    obtain ⟨⟨record, rfl, hstored, hopened⟩, hpage⟩ := h
    obtain ⟨records, hrecords, rfl, hall⟩ := ih hpage
    have hrecord : toConnectionRecord record.entry.2 = .ok record := toConnectionRecord_item hstored
    refine ⟨record :: records, ?_, rfl, List.forall_mem_cons.mpr ⟨hopened, hall⟩⟩
    rw [List.mapM_cons, hrecord, hrecords]
    rfl

theorem Sound.of_page {table : Store String Item} (h : Sound config labels table)
    (hview : View table items) (hpage : Page items start page last) :
    ∀ item ∈ page, ∃ record : StoredConnection, record.entry = item ∧ WellStored record ∧
      Opened config labels record.connection := by
  rintro ⟨connectionId, item⟩ hitem
  have hmem := (after_sublist start items).subset (hpage.first.sublist.subset hitem)
  obtain ⟨record, rfl, rfl, hstored, hopened⟩ := h _ _ (hview.readable _ hmem)
  exact ⟨record, rfl, hstored, hopened⟩

theorem Listing.afterPage {table : Store String Item} (h : Listing opened held start connections)
    (hview : View table items) (hpage : Page items start page last)
    (hsound : ∀ item ∈ page, ∃ record : StoredConnection, record.entry = item ∧
      WellStored record ∧ opened record.connection)
    (hheld : ∀ entry ∈ held, table.Held entry.1 (some entry.2)) :
    (afterPage connections page last).Meets channel data (Listing opened held)
      (Listed opened held) := by
  obtain ⟨records, hrecords, rfl, hopened⟩ := mapM_toConnectionRecord hsound
  have hall : ∀ record ∈ connections ++ records, opened record.connection := by
    intro record hrecord
    obtain hrecord | hrecord := List.mem_append.mp hrecord
    · exact h.opened record hrecord
    · exact hopened record hrecord
  have hpassed (entry : String × Item) (hentry : entry ∈ held)
      (hlast : ∀ key ∈ last, entry.1 ≤ key) :
      entry ∈ (connections ++ records).map StoredConnection.entry := by
    rw [List.map_append]
    exact mem_of_passed hview hpage (hheld entry hentry) (h.passed entry hentry) hlast
  unfold Notifier.afterPage
  rw [hrecords]
  cases hlast : last with
  | some key =>
    refine ⟨?_, hall, fun entry hentry hkey => hpassed entry hentry ?_⟩
    · rw [List.map_append]
      exact h.scan.next hview hpage hlast
    · simpa [hlast] using hkey
  | none =>
    refine ⟨connections ++ records, [], ⟨?_, hall, fun entry hentry => hpassed entry hentry ?_⟩,
      rfl, rfl⟩
    · rw [List.map_append]
      exact h.scan.ascending_append hview hpage
    · simp [hlast]

theorem Listing.nil (opened : ConnectionRecord → Prop) (held : List (String × Item)) :
    Listing opened held none [] := ⟨.nil, by simp, by simp⟩

theorem Listed.mono {opened' : ConnectionRecord → Prop} (h : Listed opened held connections)
    (hopened : ∀ connection, opened connection → opened' connection) :
    Listed opened' held connections :=
  ⟨h.ascending, fun record hrecord => hopened _ (h.opened record hrecord), h.complete⟩

theorem Listing.mono {opened' : ConnectionRecord → Prop} (h : Listing opened held start connections)
    (hopened : ∀ connection, opened connection → opened' connection) :
    Listing opened' held start connections :=
  ⟨h.scan, fun record hrecord => hopened _ (h.opened record hrecord), h.passed⟩

/-! ## What every run keeps -/

def Lists (config : RealtimeNotifierConfig) (runtime : Runtime) (labels : List Label)
    (held : List (String × Item)) (s : System) (i : ℕ) : Prop :=
  ∀ process, s.processes i = some process → process.phase.Meets config.websocketChannel
    (payload runtime (buildRealtimeIncidentMessage process.event))
    (Listing (Opened config labels) held) (Listed (Opened config labels) held)

theorem lists_step {i : ℕ} (hsound : Sound config labels s.table)
    (hlists : Lists config runtime labels held s i)
    (hheld : ∀ entry ∈ held, s.table.Held entry.1 (some entry.2))
    (hstep : Step config runtime s label s') :
    Lists config runtime (labels ++ [label]) held s' i := by
  have hsnoc (connection : ConnectionRecord) (h : Opened config labels connection) :=
    h.snoc label
  intro process hprocess
  refine meets_step hlists (fun start connections h => h.mono hsnoc)
    (fun connections h => h.mono hsnoc)
    (fun event _ => .nil _ _)
      (fun start connections items page last hlisting hview hpage => ?_) hstep
    hprocess
  refine (hlisting.mono hsnoc).afterPage hview hpage (fun item hitem => ?_) hheld
  obtain ⟨record, hentry, hstored, hopened⟩ := hsound.of_page hview hpage item hitem
  exact ⟨record, hentry, hstored, hsnoc _ hopened⟩

theorem sound_init : Sound config [] System.init.table := by
  intro connectionId item hitem
  exact absurd (Store.readable_empty.mp hitem) (by simp)

def Kept (config : RealtimeNotifierConfig) (runtime : Runtime) (labels : List Label) (s : System) :
    Prop :=
  Sound config labels s.table ∧ ∀ i, Lists config runtime labels [] s i

theorem run_kept (h : Run (Step config runtime) .init labels s) : Kept config runtime labels s := by
  have hinit : Kept config runtime [] .init :=
    ⟨sound_init, fun i process hprocess => by contradiction⟩
  refine h.invariant_trace (fun labels s label s' hkept hstep => ?_) hinit
  exact ⟨sound_step hkept.1 hstep, fun i => lists_step hkept.1 (hkept.2 i) (by simp) hstep⟩

/-! ## A connection that is there throughout -/

/-- The step may write the item of the connection, other than by its time to live. -/
def Label.touches (connectionId : String) : Label → Prop
  | .webSocket event _ => ∃ context, parseWebSocketEvent event = .ok context ∧
      context.connectionId = connectionId ∧
      (context.routeKey = "$connect" ∨ context.routeKey = "$disconnect")
  | .cleanup _ connectionId' _ => connectionId' = connectionId
  | _ => False

theorem held_step {connectionId : String} (hheld : s.table.Held connectionId (some record.item))
    (htouches : ¬ label.touches connectionId) (hnow : (s.now : ℚ) ≤ record.expiresAt * 1000)
    (hstep : Step config runtime s label s') :
    s'.table.Held connectionId (some record.item) := by
  cases hstep with
  | webSocket answer hevent hcommand =>
    obtain ⟨context, hparse, hroute⟩ := handleWebSocketEvent_command hcommand
    have hne : connectionId ≠ context.connectionId := by
      rintro rfl
      exact htouches ⟨context, hparse, rfl, hroute.imp And.left And.left⟩
    unfold System.write
    split
    · obtain ⟨-, rfl⟩ | ⟨-, rfl⟩ := hroute
      · exact hheld.write_of_ne hne
      · exact hheld.write_of_ne hne
    · exact hheld
  | @expire connectionId' item expiresAt hitem hexpires hexpired =>
    refine hheld.write_of_ne ?_
    rintro rfl
    -- the item that expires would be this one, which does not yet
    obtain rfl := Option.some.inj (hitem.symm.trans hheld.newest)
    have hexpiresAt : record.item.lookup "expires_at" = some (.number record.expiresAt) := rfl
    obtain rfl := Json.number.inj (Option.some.inj (hexpires.symm.trans hexpiresAt))
    exact absurd hexpired (not_lt.mpr hnow)
  | settle connectionId' => exact hheld.settle connectionId'
  | cleanup answer hphase =>
    change (s.write _ answer).table.Held connectionId (some record.item)
    rw [write_delete]
    split
    · exact hheld.write_of_ne fun heq => htouches heq.symm
    · exact hheld
  | _ => exact hheld

theorem now_step (hstep : Step config runtime s label s') : s.now ≤ s'.now := by
  have hwrite (command : TableCommand) (answer : WriteAnswer) :
      (s.write command answer).now = s.now := by
    unfold System.write
    split
    · split
      · rfl
      · rfl
    · rfl
  cases hstep with
  | pass ms => exact Nat.le_add_right _ _
  | webSocket answer hevent hcommand => exact (hwrite _ answer).ge
  | cleanup answer hphase => exact (hwrite _ answer).ge
  | _ => exact le_rfl

end OpsFlow.Notifier
