import OpsFlow.JsonRoundTrip
import OpsFlow.Text
import OpsFlow.Contracts.Formats

namespace OpsFlow.TaskPublisher
open Contracts (jsSpace)

/-! ## The order of the members of an ECMAScript object -/

/-- Whether the name is an integer index: the decimal text of a number below 2³² - 1. -/
def isArrayIndex (key : String) : Bool :=
  key.toList ≠ [] ∧ key.toList.all Char.isDigit ∧
    (key.toList.head? = some '0' → key.toList = ['0']) ∧ naturalOf key.toList < 4294967295

/-- `Object.entries`: the integer indices come first, in ascending order. -/
def ownEntries (members : List (String × Json)) : List (String × Json) :=
  (members.filter fun m => isArrayIndex m.1).insertionSort
      (fun m m' => naturalOf m.1.toList ≤ naturalOf m'.1.toList) ++
    members.filter fun m => !isArrayIndex m.1

mutual

/-- The value with the members of its objects in their order. -/
def ordered : Json → Json
  | .array elements => .array (orderedElements elements)
  | .object members => .object (ownEntries (orderedMembers members))
  | value => value

def orderedElements : List Json → List Json
  | [] => []
  | element :: elements => ordered element :: orderedElements elements

def orderedMembers : List (String × Json) → List (String × Json)
  | [] => []
  | (key, value) :: members => (key, ordered value) :: orderedMembers members

end

/-- `JSON.parse`; `none` is a syntax error. -/
def jsonParse (text : String) : Option Json := (Json.parse? text).map ordered

/-! ## `httpRequest.ts` -/

/-- What Node.js makes of a body in base64, and how `JSON.stringify` goes about. -/
structure NodeRuntime where
  /-- `Buffer.from(body, "base64").toString("utf8")`. -/
  base64Text : String → String
  number : ℚ → List Char
  /-- how deep a value may be nested before the stack overflows -/
  stackDepth : ℕ

structure HttpEvent where
  body : Option String
  isBase64Encoded : Bool

structure BadRequestError where
  message : String
  deriving DecidableEq

/-- In the causation id, `undefined` and `null` are told apart. -/
structure PublishTaskInput where
  taskType : String
  idempotencyKey : String
  payload : List (String × Json)
  correlationId : Option String
  causationId : Option (Option String)
  metadata : Option (List (String × String))

def requireNonEmptyString (value : Option Json) (fieldName : String) :
    Except BadRequestError String :=
  match value with
  | some (.string s) =>
    if stripped jsSpace s = "" then .error ⟨fieldName ++ " must be a non-empty string"⟩
    else .ok (stripped jsSpace s)
  | _ => .error ⟨fieldName ++ " must be a non-empty string"⟩

/-- The loop over the entries. To set `__proto__` to a string does nothing. -/
def metadataEntries : List (String × Json) → Except BadRequestError (List (String × String))
  | [] => .ok []
  | (key, value) :: entries =>
    match value with
    | .string s => do
      let metadata ← metadataEntries entries
      .ok (if key = "__proto__" then metadata else (key, s) :: metadata)
    | _ => .error ⟨"metadata." ++ key ++ " must be a string"⟩

def parseMetadata (value : Option Json) :
    Except BadRequestError (Option (List (String × String))) :=
  match value with
  | none => .ok none
  | some (.object entries) => do
    let metadata ← metadataEntries entries
    .ok (some metadata)
  | some _ => .error ⟨"metadata must be an object"⟩

def decodeRequestBody (runtime : NodeRuntime) (event : HttpEvent) : Except BadRequestError String :=
  match event.body with
  | none => .error ⟨"Request body is required"⟩
  | some body =>
    if body = "" then .error ⟨"Request body is required"⟩
    else if event.isBase64Encoded then .ok (runtime.base64Text body)
    else .ok body

def allowedFields : List String :=
  ["task_type", "idempotency_key", "payload", "correlation_id", "causation_id", "metadata"]

def requirePayload (value : Option Json) : Except BadRequestError (List (String × Json)) :=
  match value with
  | some (.object payload) => .ok payload
  | _ => .error ⟨"payload must be a JSON object"⟩

def parseCorrelationId (value : Option Json) : Except BadRequestError (Option String) :=
  match value with
  | none => .ok none
  | some value => do
    let correlationId ← requireNonEmptyString (some value) "correlation_id"
    .ok (some correlationId)

def parseCausationId (value : Option Json) : Except BadRequestError (Option (Option String)) :=
  match value with
  | none => .ok none
  | some .null => .ok (some none)
  | some value => do
    let causationId ← requireNonEmptyString (some value) "causation_id"
    .ok (some (some causationId))

def readFields (parsed : List (String × Json)) : Except BadRequestError PublishTaskInput := do
  let taskType ← requireNonEmptyString (parsed.lookup "task_type") "task_type"
  let idempotencyKey ← requireNonEmptyString (parsed.lookup "idempotency_key") "idempotency_key"
  let payload ← requirePayload (parsed.lookup "payload")
  let correlationId ← parseCorrelationId (parsed.lookup "correlation_id")
  let causationId ← parseCausationId (parsed.lookup "causation_id")
  let metadata ← parseMetadata (parsed.lookup "metadata")
  .ok ⟨taskType, idempotencyKey, payload, correlationId, causationId, metadata⟩

def parsePublishTaskRequest (runtime : NodeRuntime) (event : HttpEvent) :
    Except BadRequestError PublishTaskInput := do
  let bodyText ← decodeRequestBody runtime event
  match jsonParse bodyText with
  | none => .error ⟨"Request body must contain valid JSON"⟩
  | some (.object parsed) =>
    match parsed.find? fun m => m.1 ∉ allowedFields with
    | some (field, _) => .error ⟨"Unexpected request field: " ++ field⟩
    | none => readFields parsed
  | some _ => .error ⟨"Request body must be a JSON object"⟩

/-- A request that the texts of this model can follow: `JSON.parse` reads a lone surrogate too, and
`JSON.stringify` writes it again as an escape. -/
structure PublishRequest (runtime : NodeRuntime) where
  event : HttpEvent
  paired : ∀ text, decodeRequestBody runtime event = .ok text → surrogatesPaired text.toList = true

/-! ## Names stay distinct -/

variable {members : List (String × Json)} {value : Json}

theorem ownEntries_perm (members : List (String × Json)) : (ownEntries members).Perm members := by
  have hsplit := List.filter_append_perm (fun m : String × Json => isArrayIndex m.1) members
  exact ((List.perm_insertionSort _ _).append_right _).trans hsplit

theorem map_fst_orderedMembers (members : List (String × Json)) :
    (orderedMembers members).map Prod.fst = members.map Prod.fst := by
  induction members with
  | nil => rfl
  | cons m members ih => rw [orderedMembers, List.map_cons, List.map_cons, ih]

mutual

theorem distinct_ordered : ∀ value : Json, value.Distinct → (ordered value).Distinct
  | .null, _ => trivial
  | .bool _, _ => trivial
  | .number _, _ => trivial
  | .string _, _ => trivial
  | .array elements, h => distinct_orderedElements elements h
  | .object members, h => by
    have hmembers := distinctMembers_iff.mp (distinct_orderedMembers members h.2)
    have hperm := ownEntries_perm (orderedMembers members)
    refine ⟨(hperm.map Prod.fst).nodup_iff.mpr ?_, distinctMembers_iff.mpr fun m hm => ?_⟩
    · rw [map_fst_orderedMembers]
      exact h.1
    · exact hmembers m (hperm.mem_iff.mp hm)

theorem distinct_orderedElements : ∀ elements : List Json, DistinctElements elements →
    DistinctElements (orderedElements elements)
  | [], _ => trivial
  | element :: elements, h =>
    ⟨distinct_ordered element h.1, distinct_orderedElements elements h.2⟩

theorem distinct_orderedMembers : ∀ members : List (String × Json), DistinctMembers members →
    DistinctMembers (orderedMembers members)
  | [], _ => trivial
  | (_, value) :: members, h =>
    ⟨distinct_ordered value h.1, distinct_orderedMembers members h.2⟩

end

theorem distinct_of_jsonParse {text : String} (h : jsonParse text = some value) :
    value.Distinct := by
  obtain ⟨parsed, hparsed, rfl⟩ := Option.map_eq_some_iff.mp h
  exact distinct_ordered parsed (distinct_of_parse? hparsed)

/-! ## What a parsed request is like -/

theorem requireNonEmptyString_eq_ok {value : Option Json} {fieldName s : String}
    (h : requireNonEmptyString value fieldName = .ok s) :
    s ≠ "" ∧ ∃ text, value = some (.string text) ∧ s = stripped jsSpace text := by
  unfold requireNonEmptyString at h
  split at h
  · split at h
    · contradiction
    · rename_i text hne
      obtain rfl := Except.ok.inj h
      exact ⟨hne, text, rfl, rfl⟩
  · contradiction

/-- The entries are the members of the object, but for `__proto__`. -/
theorem metadataEntries_eq_ok {entries : List (String × Json)} {metadata : List (String × String)}
    (h : metadataEntries entries = .ok metadata) :
    (metadata.map fun entry => (entry.1, Json.string entry.2)) =
      entries.filter fun m => m.1 ≠ "__proto__" := by
  induction entries generalizing metadata with
  | nil =>
    obtain rfl := Except.ok.inj h
    rfl
  | cons m entries ih =>
    obtain ⟨key, value⟩ := m
    cases value with
    | string s =>
      rw [metadataEntries, bind_eq_ok] at h
      obtain ⟨rest, hrest, h⟩ := h
      obtain rfl := Except.ok.inj h
      by_cases hproto : key = "__proto__"
      · rw [if_pos hproto, ih hrest, List.filter_cons_of_neg (by simp [hproto])]
      · rw [if_neg hproto, List.map_cons, ih hrest, List.filter_cons_of_pos (by simp [hproto])]
    | _ => contradiction

structure PublishTaskInput.WellFormed (input : PublishTaskInput) : Prop where
  payload : (Json.object input.payload).Distinct
  correlationId : ∀ s ∈ input.correlationId, s ≠ ""
  causationId : ∀ s, input.causationId = some (some s) → s ≠ ""
  metadata : ∀ entries ∈ input.metadata, (entries.map Prod.fst).Nodup

theorem parseCorrelationId_ne_empty {value : Option Json} {correlationId : Option String}
    (h : parseCorrelationId value = .ok correlationId) : ∀ s ∈ correlationId, s ≠ "" := by
  intro s hs
  cases value with
  | none =>
    obtain rfl := Except.ok.inj h
    contradiction
  | some value =>
    rw [parseCorrelationId, bind_eq_ok] at h
    obtain ⟨text, htext, h⟩ := h
    obtain rfl := Except.ok.inj h
    obtain rfl := Option.some.inj hs
    exact (requireNonEmptyString_eq_ok htext).1

theorem parseCausationId_ne_empty {value : Option Json} {causationId : Option (Option String)}
    (h : parseCausationId value = .ok causationId) (s : String)
    (hs : causationId = some (some s)) : s ≠ "" := by
  subst hs
  unfold parseCausationId at h
  split at h
  · cases Except.ok.inj h
  · cases Except.ok.inj h
  · rw [bind_eq_ok] at h
    obtain ⟨text, htext, h⟩ := h
    obtain rfl := Option.some.inj (Option.some.inj (Except.ok.inj h))
    exact (requireNonEmptyString_eq_ok htext).1

theorem parseMetadata_nodup {value : Option Json} {metadata : Option (List (String × String))}
    (hvalue : ∀ v ∈ value, v.Distinct) (h : parseMetadata value = .ok metadata) :
    ∀ entries ∈ metadata, (entries.map Prod.fst).Nodup := by
  intro entries hentries
  unfold parseMetadata at h
  split at h
  · obtain rfl := Except.ok.inj h
    contradiction
  · rename_i members
    rw [bind_eq_ok] at h
    obtain ⟨read, hread, h⟩ := h
    obtain rfl := Except.ok.inj h
    obtain rfl := Option.some.inj hentries
    have hnames := congrArg (List.map Prod.fst) (metadataEntries_eq_ok hread)
    rw [List.map_map] at hnames
    have hsub := (List.filter_sublist (p := fun m : String × Json => m.1 ≠ "__proto__")
      (l := members)).map Prod.fst
    have hnodup := (hvalue _ rfl).1.sublist hsub
    rw [← hnames] at hnodup
    exact hnodup
  · contradiction

theorem distinct_of_lookup {key : String} (hd : DistinctMembers members)
    (h : members.lookup key = some value) : value.Distinct := by
  induction members with
  | nil => contradiction
  | cons m members ih =>
    rw [List.lookup_cons] at h
    split at h
    · obtain rfl := Option.some.inj h
      exact hd.1
    · exact ih hd.2 h

theorem readFields_wellFormed {parsed : List (String × Json)} {input : PublishTaskInput}
    (hd : DistinctMembers parsed) (h : readFields parsed = .ok input) : input.WellFormed := by
  rw [readFields, bind_eq_ok] at h
  obtain ⟨taskType, -, h⟩ := h
  rw [bind_eq_ok] at h
  obtain ⟨idempotencyKey, -, h⟩ := h
  rw [bind_eq_ok] at h
  obtain ⟨payload, hpayload, h⟩ := h
  rw [bind_eq_ok] at h
  obtain ⟨correlationId, hcorrelationId, h⟩ := h
  rw [bind_eq_ok] at h
  obtain ⟨causationId, hcausationId, h⟩ := h
  rw [bind_eq_ok] at h
  obtain ⟨metadata, hmetadata, h⟩ := h
  obtain rfl := Except.ok.inj h
  refine ⟨?_, parseCorrelationId_ne_empty hcorrelationId, parseCausationId_ne_empty hcausationId,
    parseMetadata_nodup (fun _ hvalue => distinct_of_lookup hd hvalue) hmetadata⟩
  unfold requirePayload at hpayload
  split at hpayload
  · rename_i hlookup
    obtain rfl := Except.ok.inj hpayload
    exact distinct_of_lookup hd hlookup
  · contradiction

theorem wellFormed_of_parsePublishTaskRequest {runtime : NodeRuntime} {event : HttpEvent}
    {input : PublishTaskInput} (h : parsePublishTaskRequest runtime event = .ok input) :
    input.WellFormed := by
  rw [parsePublishTaskRequest, bind_eq_ok] at h
  obtain ⟨bodyText, -, h⟩ := h
  split at h
  · contradiction
  · rename_i parsed hparsed
    split at h
    · contradiction
    · exact readFields_wellFormed (distinct_of_jsonParse hparsed).2 h
  · contradiction

end OpsFlow.TaskPublisher
