import OpsFlow.Messaging.TaskPublication

namespace OpsFlow.Messaging
open OpsFlow.Contracts Patterns

/-! ## What the worker asks of the arguments -/

def keyFirst : List Char := upper ++ lower ++ digits

def keyChars : List Char := upper ++ lower ++ digits ++ ['.', '_', ':', '/', '-']

/-- The arguments of a call that the contract allows, beyond what `publish` itself asks. -/
structure Publish.Allowed (service : TaskPublicationService) (args : Publish) : Prop where
  taskTypeLength : 3 ≤ (stripped rustSpace args.taskType).length ∧
    (stripped rustSpace args.taskType).length ≤ 120
  taskType : ecmaTest taskTypePattern (stripped rustSpace args.taskType) = true
  producerLength : service.producer.length ≤ 100
  producer : ecmaTest producerPattern service.producer = true
  scopeFirst : ∀ c ∈ (stripped pythonSpace args.scope).toList.head?, c ∈ keyFirst
  segments : ∀ segment ∈ [args.scope, args.resourceId, args.operation],
    ∀ c ∈ (stripped pythonSpace segment).toList, c ∈ keyChars
  keyLength : (stripped pythonSpace args.scope).length +
    (stripped pythonSpace args.resourceId).length + (stripped pythonSpace args.operation).length +
      4 + args.idempotencyVersion.toNat.repr.length ≤ 255
  metadataSize : (args.metadata.getD []).length ≤ 20
  metadataLengths : ∀ entry ∈ args.metadata.getD [], entry.2.length ≤ 1024

/-! ## The texts of a published envelope -/

variable {service : TaskPublicationService} {args : Publish} {draw : PublishDraw}
  {envelope : TaskEnvelope} {s : String}

theorem repr_mem_digits {n : ℕ} {c : Char} (h : c ∈ n.repr.toList) : c ∈ digits := by
  rw [Nat.toList_repr] at h
  have hdigit := Nat.isDigit_of_mem_toDigits (by omega) (by omega) h
  rw [Char.isDigit, Bool.and_eq_true, decide_eq_true_eq, decide_eq_true_eq] at hdigit
  exact (mem_range (by decide)).mpr ⟨hdigit.1, hdigit.2⟩

theorem stripped_newline (h : stripped rustSpace s = s) : endsInNewline s = false := by
  refine decide_eq_false fun hlast => ?_
  have hspace := (trimmed_stripped rustSpace s).2
  rw [h, hlast] at hspace
  exact absurd (hspace '\n' rfl) (by decide)

/-- A trimmed text is read alike by both engines. -/
theorem pythonSearch_of_trimmed {P : RegularExpression Char} (h : stripped rustSpace s = s) :
    pythonSearch P s = true ↔ ecmaTest P s = true := by
  unfold pythonSearch ecmaTest
  rw [stripped_newline h, Bool.false_and, Bool.or_false]

structure TaskEnvelope.Validated (given envelope : TaskEnvelope) : Prop where
  taskId : stripped rustSpace given.taskId = envelope.taskId
  taskType : stripped rustSpace given.taskType = envelope.taskType
  producer : stripped rustSpace given.producer = envelope.producer
  correlationId : stripped rustSpace given.correlationId = envelope.correlationId
  idempotencyKey : stripped rustSpace given.idempotencyKey = envelope.idempotencyKey
  nonEmpty : envelope.producer ≠ "" ∧ envelope.correlationId ≠ "" ∧ envelope.idempotencyKey ≠ ""
  causationId : ∀ causationId ∈ envelope.causationId, causationId ≠ ""
  payload : envelope.payload = given.payload
  metadata : envelope.metadata = given.metadata

theorem mapM_eq_some {causationId : Option String} {result : Option String}
    (h : causationId.mapM nonEmptyTaskString = .ok result) :
    ∀ causationId ∈ result, causationId ≠ "" := by
  cases causationId with
  | none =>
    obtain rfl := Except.ok.inj h
    intro causationId hmem
    contradiction
  | some given =>
    cases hgiven : nonEmptyTaskString given with
    | error e =>
      simp only [Option.mapM_some, hgiven] at h
      contradiction
    | ok text =>
      simp only [Option.mapM_some, hgiven] at h
      obtain rfl := Except.ok.inj h
      intro causationId hmem
      obtain rfl := Option.mem_some_iff.mp hmem
      exact (nonEmptyTaskString_eq_ok.mp hgiven).2

theorem validated_of_ok {given : TaskEnvelope} (h : given.validate = .ok envelope) :
    given.Validated envelope := by
  unfold TaskEnvelope.validate at h
  simp only [bind_eq_ok, nonEmptyTaskString_eq_ok] at h
  obtain ⟨_, ⟨htaskId, -⟩, _, ⟨htaskType, -⟩, _, ⟨hproducer, hproducer'⟩, _,
    ⟨hcorrelationId, hcorrelationId'⟩, _, ⟨hkey, hkey'⟩, _, hcausation, hok⟩ := h
  obtain rfl := Except.ok.inj hok
  exact ⟨htaskId, htaskType, hproducer, hcorrelationId, hkey,
    ⟨hproducer', hcorrelationId', hkey'⟩, mapM_eq_some hcausation, rfl, rfl⟩

structure KeyParts (args : Publish) (key : String) : Prop where
  version : 1 ≤ args.idempotencyVersion
  scopeNonEmpty : stripped pythonSpace args.scope ≠ ""
  text : key.toList = (stripped pythonSpace args.scope).toList ++ ':' ::
    ((stripped pythonSpace args.resourceId).toList ++ ':' ::
      ((stripped pythonSpace args.operation).toList ++ ':' :: 'v' ::
        args.idempotencyVersion.toNat.repr.toList))

theorem keyParts_of_ok {key : String} (h : buildIdempotencyKey args.scope args.resourceId
    args.operation args.idempotencyVersion = .ok key) : KeyParts args key := by
  obtain ⟨s, r, o, hs, hr, ho, hversion, rfl⟩ := buildIdempotencyKey_eq_ok.mp h
  obtain ⟨rfl, hne, -⟩ := normalizeIdentitySegment_eq_ok.mp hs
  obtain ⟨rfl, -, -⟩ := normalizeIdentitySegment_eq_ok.mp hr
  obtain ⟨rfl, -, -⟩ := normalizeIdentitySegment_eq_ok.mp ho
  exact ⟨hversion, hne, by simp⟩

variable {key : String}

theorem KeyParts.length (h : KeyParts args key) : key.length =
    (stripped pythonSpace args.scope).length + (stripped pythonSpace args.resourceId).length +
      (stripped pythonSpace args.operation).length + 4 +
        args.idempotencyVersion.toNat.repr.length := by
  rw [← String.length_toList, h.text]
  simp only [List.length_append, List.length_cons, String.length_toList]
  omega

theorem KeyParts.scope_cons (h : KeyParts args key) : ∃ first rest,
    (OpsFlow.stripped pythonSpace args.scope).toList = first :: rest := by
  refine List.exists_cons_of_ne_nil fun hnil => h.scopeNonEmpty ?_
  rw [← String.ofList_toList (s := OpsFlow.stripped pythonSpace args.scope), hnil]

theorem digits_not_space : ∀ c ∈ digits, rustSpace c = false := by decide

/-- A key needs no trimming: its first segment was trimmed, and it ends in a digit. -/
theorem KeyParts.stripped (h : KeyParts args key) :
    OpsFlow.stripped rustSpace key = key := by
  obtain ⟨first, rest, hscope⟩ := h.scope_cons
  have hscope' := (trimmed_stripped pythonSpace args.scope).mono fun _ => pythonSpace_of_rustSpace
  rw [hscope] at hscope'
  have hversion : args.idempotencyVersion.toNat.repr.toList ≠ [] := by
    rw [Nat.toList_repr]
    exact Nat.toDigits_ne_nil
  refine stripped_of_trimmed ⟨fun c hc => ?_, fun c hc => ?_⟩
  · rw [h.text, hscope] at hc
    exact hscope'.1 c hc
  · have hfront : ∃ front, key.toList = front ++ args.idempotencyVersion.toNat.repr.toList :=
      ⟨(OpsFlow.stripped pythonSpace args.scope).toList ++ ':' ::
        ((OpsFlow.stripped pythonSpace args.resourceId).toList ++ ':' ::
          ((OpsFlow.stripped pythonSpace args.operation).toList ++ [':', 'v'])), by simp [h.text]⟩
    obtain ⟨front, hfront⟩ := hfront
    rw [hfront, List.getLast?_append_of_ne_nil _ hversion] at hc
    exact digits_not_space c (repr_mem_digits (List.mem_of_getLast? hc))

/-- The pattern of the key asks for its first character, and for those of the segments. -/
theorem KeyParts.pattern (h : KeyParts args key) : ecmaTest idempotencyKeyPattern key = true ↔
    (∀ c ∈ (OpsFlow.stripped pythonSpace args.scope).toList.head?, c ∈ keyFirst) ∧
      ∀ segment ∈ [args.scope, args.resourceId, args.operation],
        ∀ c ∈ (OpsFlow.stripped pythonSpace segment).toList, c ∈ keyChars := by
  obtain ⟨first, rest, hscope⟩ := h.scope_cons
  have hfirst : keyFirst ⊆ keyChars := List.subset_append_left _ _
  have hmatch : ecmaTest idempotencyKeyPattern key = true ↔
      ∃ c cs, key.toList = c :: cs ∧ c ∈ keyFirst ∧ ∀ d ∈ cs, d ∈ keyChars :=
    oneOf_mul_star_rmatch
  rw [hmatch, h.text, hscope]
  simp only [List.head?_cons, Option.mem_some_iff, forall_eq', List.forall_mem_cons,
    List.not_mem_nil, hscope, List.cons_append]
  -- the separators and the version match anyway; what may fail are the three segments
  constructor
  · rintro ⟨c, cs, htext, hc, hcs⟩
    obtain ⟨rfl, rfl⟩ := List.cons.inj htext
    refine ⟨hc, ⟨hfirst hc, fun d hd => hcs d ?_⟩, fun d hd => hcs d ?_, fun d hd => hcs d ?_,
      fun _ hnil => hnil.elim⟩
    · simp [hd]
    · simp [hd]
    · simp [hd]
  · rintro ⟨hc, ⟨-, hrest⟩, hresource, hoperation, -⟩
    refine ⟨first, _, rfl, hc, fun d hd => ?_⟩
    simp only [List.mem_append, List.mem_cons] at hd
    obtain hd | rfl | hd | rfl | hd | rfl | rfl | hd := hd
    · exact hrest d hd
    · decide
    · exact hresource d hd
    · decide
    · exact hoperation d hd
    · decide
    · decide
    · have hdigit := repr_mem_digits hd
      simp [keyChars, hdigit]

/-! ## The envelope that is handed over -/

structure Published (service : TaskPublicationService) (args : Publish) (draw : PublishDraw)
    (envelope : TaskEnvelope) : Prop where
  taskId : envelope.taskId = draw.taskId.str
  taskType : envelope.taskType = OpsFlow.stripped rustSpace args.taskType
  producer : envelope.producer = service.producer
  trimmedProducer : OpsFlow.stripped rustSpace service.producer = service.producer
  idempotencyKey : KeyParts args envelope.idempotencyKey
  nonEmpty : envelope.producer ≠ "" ∧ envelope.correlationId ≠ "" ∧ envelope.idempotencyKey ≠ ""
  causationId : ∀ causationId ∈ envelope.causationId, causationId ≠ ""
  metadata : envelope.metadata = args.metadata.getD []

theorem stripped_of_new {producer : String}
    (hservice : TaskPublicationService.new producer = .ok service) :
    OpsFlow.stripped rustSpace service.producer = service.producer := by
  unfold TaskPublicationService.new at hservice
  dsimp only at hservice
  split at hservice
  · contradiction
  · obtain rfl := Except.ok.inj hservice
    exact stripped_stripped producer

theorem published_of_ok {producer : String}
    (hservice : TaskPublicationService.new producer = .ok service)
    (hpublish : service.publish args draw = .ok envelope) :
    Published service args draw envelope := by
  unfold TaskPublicationService.publish at hpublish
  obtain ⟨key, hkey, hvalidate⟩ := bind_eq_ok.mp hpublish
  have hparts := keyParts_of_ok hkey
  have hvalid := validated_of_ok hvalidate
  have hproducer := stripped_of_new hservice
  have hkey' : envelope.idempotencyKey = key := by
    rw [← hvalid.idempotencyKey]
    exact hparts.stripped
  exact
    { taskId := hvalid.taskId.symm.trans (stripped_str (by decide) draw.taskId)
      taskType := hvalid.taskType.symm
      producer := hvalid.producer.symm.trans hproducer
      trimmedProducer := hproducer
      idempotencyKey := hkey' ▸ hparts
      nonEmpty := hvalid.nonEmpty
      causationId := hvalid.causationId
      metadata := hvalid.metadata }

theorem one_le_length (h : s ≠ "") : 1 ≤ s.length := by
  rw [← String.length_toList]
  refine List.length_pos_of_ne_nil fun hnil => h ?_
  rw [← String.ofList_toList (s := s), hnil]

/-- A published envelope is accepted by the worker if and only if the call was allowed. -/
theorem published_accepted_iff (isoformat : Timestamp → String) {producer : String}
    {service : TaskPublicationService} {args : Publish} {draw : PublishDraw}
    {envelope : TaskEnvelope} (hservice : TaskPublicationService.new producer = .ok service)
    (hpublish : service.publish args draw = .ok envelope) :
    (∃ task, TaskWorker.validateTaskEnvelope (envelope.dump isoformat) = .ok task) ↔
      args.Allowed service := by
  have h := published_of_ok hservice hpublish
  have hworker : (∃ task, TaskWorker.validateTaskEnvelope (envelope.dump isoformat) = .ok task) ↔
      taskEnvelopeSchema jsonschema (envelope.dump isoformat) = true := by
    simp [TaskWorker.validateTaskEnvelope_eq_ok]
  have htaskType : OpsFlow.stripped rustSpace envelope.taskType = envelope.taskType := by
    rw [h.taskType]
    exact stripped_of_trimmed (trimmed_stripped rustSpace args.taskType)
  have hproducer : OpsFlow.stripped rustSpace envelope.producer = envelope.producer := by
    rw [h.producer]
    exact h.trimmedProducer
  have hkey := h.idempotencyKey.stripped
  rw [hworker, taskEnvelopeSchema_iff]
  constructor
  · rintro ⟨_, t, hvalue, hread, hchecked⟩
    obtain rfl := Json.object.inj hvalue
    -- the texts that the worker has read are those of the envelope
    have ht : t.taskType = envelope.taskType :=
      (Json.string.inj (Option.some.inj hread.taskType)).symm
    have hp : t.producer = envelope.producer :=
      (Json.string.inj (Option.some.inj hread.producer)).symm
    have hk : t.idempotencyKey = envelope.idempotencyKey :=
      (Json.string.inj (Option.some.inj hread.idempotencyKey)).symm
    have htaskTypeLength := hread.taskTypeLength
    have htaskTypePattern := (pythonSearch_of_trimmed htaskType).mp (ht ▸ hchecked.taskType)
    have hproducerLength := hread.producerLength.2
    have hproducerPattern := (pythonSearch_of_trimmed hproducer).mp (hp ▸ hchecked.producer)
    have hkeyLength := hread.idempotencyKeyLength.2
    have hkeyPattern := (pythonSearch_of_trimmed hkey).mp (hk ▸ hchecked.idempotencyKey)
    obtain ⟨hfirst, hsegments⟩ := h.idempotencyKey.pattern.mp hkeyPattern
    obtain ⟨entries, hentries, hsize, hlengths⟩ := hread.metadata _ rfl
    obtain rfl := Json.object.inj hentries
    rw [ht, h.taskType] at htaskTypeLength
    rw [h.taskType] at htaskTypePattern
    rw [hp, h.producer] at hproducerLength
    rw [h.producer] at hproducerPattern
    rw [hk, h.idempotencyKey.length] at hkeyLength
    rw [List.length_map, h.metadata] at hsize
    refine ⟨htaskTypeLength, htaskTypePattern, hproducerLength, hproducerPattern, hfirst, hsegments,
      hkeyLength, hsize, fun entry hentry => ?_⟩
    rw [← h.metadata] at hentry
    obtain ⟨s, hs, hlength⟩ := hlengths _ (List.mem_map_of_mem hentry)
    rwa [Json.string.inj hs]
  · intro hallowed
    obtain ⟨hproducerText, hcorrelationText, hkeyText⟩ := h.nonEmpty
    have hid : jsonschemaFormat .uuid envelope.taskId = true := by
      rw [h.taskId]
      exact jsonschemaFormat_of_rfcFormat (rfcFormat_str draw.taskId)
    refine ⟨_, ⟨envelope.taskId, envelope.taskType, isoformat envelope.createdAt,
      envelope.producer, envelope.correlationId, envelope.idempotencyKey⟩, rfl,
      { taskId := rfl
        kind := rfl
        taskType := rfl
        taskTypeLength := ?_
        schemaVersion := rfl
        createdAt := rfl
        producer := rfl
        producerLength := ⟨one_le_length hproducerText, ?_⟩
        correlationId := rfl
        correlationIdLength := one_le_length hcorrelationText
        causationId := fun value hvalue => ?_
        idempotencyKey := rfl
        idempotencyKeyLength := ⟨one_le_length hkeyText, ?_⟩
        payload := ⟨envelope.payload, rfl⟩
        metadata := fun value hvalue => ?_
        closed := ?_ },
      EnvelopeTexts.checked_jsonschema.mpr ⟨hid, (pythonSearch_of_trimmed htaskType).mpr ?_,
        (pythonSearch_of_trimmed hproducer).mpr ?_, (pythonSearch_of_trimmed hkey).mpr ?_⟩⟩
    · rw [h.taskType]
      exact hallowed.taskTypeLength
    · rw [h.producer]
      exact hallowed.producerLength
    · obtain rfl := Option.some.inj hvalue
      cases hcausation : envelope.causationId with
      | none => exact .inr rfl
      | some causationId =>
        exact .inl ⟨causationId, rfl, one_le_length (h.causationId causationId hcausation)⟩
    · rw [h.idempotencyKey.length]
      exact hallowed.keyLength
    · obtain rfl := Option.some.inj hvalue
      refine ⟨_, rfl, ?_, fun entry hentry => ?_⟩
      · rw [List.length_map, h.metadata]
        exact hallowed.metadataSize
      · obtain ⟨given, hgiven, rfl⟩ := List.mem_map.mp hentry
        exact ⟨given.2, rfl, hallowed.metadataLengths given (h.metadata ▸ hgiven)⟩
    · simp [envelopeKeys]
    · rw [h.taskType]
      exact hallowed.taskType
    · rw [h.producer]
      exact hallowed.producer
    · exact h.idempotencyKey.pattern.mpr ⟨hallowed.scopeFirst, hallowed.segments⟩

/-! ## Two calls -/

def notificationRequest : Publish where
  taskType := "incident.notify"
  scope := "incident"
  resourceId := "7"
  operation := "notify"
  payload := []
  correlationId := some "c"
  causationId := none
  metadata := some [("workflow", "notify")]
  idempotencyVersion := 1

def backendService : TaskPublicationService := ⟨"backend"⟩

def firstDraw : PublishDraw := ⟨0, 0, 0⟩

theorem backendService_new : TaskPublicationService.new "backend" = .ok backendService := by
  rfl

theorem notificationRequest_published :
    ∃ envelope, backendService.publish notificationRequest firstDraw = .ok envelope :=
  ⟨_, rfl⟩

theorem notificationRequest_allowed : notificationRequest.Allowed backendService where
  taskTypeLength := by decide
  taskType := taskTypePattern_rmatch 'i' "ncident".toList [('n', "otify".toList)]
    (List.cons_ne_nil _ _) (by decide) (by decide) (by decide)
  producerLength := by decide
  producer := by decide
  scopeFirst := by
    intro c hc
    obtain rfl : 'i' = c := Option.some.inj hc
    decide
  segments := by decide
  keyLength := by decide
  metadataSize := by decide
  metadataLengths := by decide

theorem notificationRequest_accepted :
    ∃ envelope, backendService.publish notificationRequest firstDraw = .ok envelope ∧
      ∃ task, TaskWorker.validateTaskEnvelope (envelope.dump Timestamp.isoformat) = .ok task := by
  obtain ⟨envelope, hpublish⟩ := notificationRequest_published
  exact ⟨envelope, hpublish, (published_accepted_iff Timestamp.isoformat backendService_new
    hpublish).mpr notificationRequest_allowed⟩

/-- Nothing in `publish` keeps a space out of the task type. -/
def spacedRequest : Publish := { notificationRequest with
  taskType := "incident notify" }

theorem spacedRequest_published :
    ∃ envelope, backendService.publish spacedRequest firstDraw = .ok envelope ∧
      envelope.taskType = "incident notify" :=
  ⟨_, rfl, rfl⟩

theorem spacedRequest_rejected : ¬ ∀ (producer : String) (service : TaskPublicationService)
    (args : Publish) (draw : PublishDraw) (envelope : TaskEnvelope),
    TaskPublicationService.new producer = .ok service → service.publish args draw = .ok envelope →
      ∃ task, TaskWorker.validateTaskEnvelope (envelope.dump Timestamp.isoformat) = .ok task := by
  intro h
  obtain ⟨envelope, hpublish, htaskType⟩ := spacedRequest_published
  obtain ⟨task, htask⟩ := h _ _ _ _ _ backendService_new hpublish
  obtain ⟨_, t, hvalue, hread, hchecked⟩ := taskEnvelopeSchema_iff.mp
    (TaskWorker.validateTaskEnvelope_eq_ok.mp htask).1
  obtain rfl := Json.object.inj hvalue
  have htext : t.taskType = envelope.taskType :=
    (Json.string.inj (Option.some.inj hread.taskType)).symm
  have hpattern : pythonSearch taskTypePattern "incident notify" = true := by
    rw [← htaskType, ← htext]
    exact hchecked.taskType
  have hspace : ' ' ∉ Patterns.letters taskTypePattern := by decide
  obtain hmatch | hnewline := (Bool.or_eq_true ..).mp hpattern
  · exact hspace (Patterns.mem_letters hmatch (by decide))
  · exact absurd (Bool.and_eq_true_iff.mp hnewline).1 (by decide)

end OpsFlow.Messaging
