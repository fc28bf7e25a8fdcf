import OpsFlow.Contracts.Schema

namespace OpsFlow.Contracts
open Patterns RegularExpression

/-! ## `task-envelope-v1.schema.json` -/

def lower : List Char := range 'a' 'z'

def upper : List Char := range 'A' 'Z'

def digits : List Char := range '0' '9'

/-- `^[a-z][a-z0-9]*(?:\.[a-z][a-z0-9_-]*)+$` -/
def taskTypePattern : RegularExpression Char :=
  oneOf lower * star (oneOf (lower ++ digits)) *
    oneOrMore (char '.' * (oneOf lower * star (oneOf (lower ++ digits ++ ['_', '-']))))

/-- A word, and then words that each follow a dot. -/
theorem taskTypePattern_rmatch (c : Char) (cs : List Char) (words : List (Char × List Char))
    (hne : words ≠ []) (hc : c ∈ lower) (hcs : ∀ d ∈ cs, d ∈ lower ++ digits)
    (hwords : ∀ w ∈ words, w.1 ∈ lower ∧ ∀ d ∈ w.2, d ∈ lower ++ digits ++ ['_', '-']) :
    taskTypePattern.rmatch (c :: cs ++ words.flatMap fun w => '.' :: w.1 :: w.2) := by
  have hword (w : Char × List Char) (hw : w ∈ words) :
      (char '.' * (oneOf lower * star (oneOf (lower ++ digits ++ ['_', '-'])))).rmatch
        ('.' :: w.1 :: w.2) := by
    refine (mul_rmatch_iff ..).mpr ⟨['.'], w.1 :: w.2, rfl, (char_rmatch_iff ..).mpr rfl, ?_⟩
    exact oneOf_mul_star_rmatch.mpr ⟨w.1, w.2, rfl, hwords w hw⟩
  refine (mul_rmatch_iff ..).mpr
    ⟨c :: cs, _, rfl, oneOf_mul_star_rmatch.mpr ⟨c, cs, rfl, hc, hcs⟩, ?_⟩
  obtain ⟨w, ws, rfl⟩ := List.exists_cons_of_ne_nil hne
  rw [List.flatMap_cons]
  refine (mul_rmatch_iff ..).mpr ⟨_, _, rfl, hword w List.mem_cons_self, ?_⟩
  refine (star_rmatch_iff ..).mpr ⟨ws.map fun w => '.' :: w.1 :: w.2, List.flatMap_def, ?_⟩
  intro t ht
  obtain ⟨u, hu, rfl⟩ := List.mem_map.mp ht
  exact ⟨List.cons_ne_nil _ _, hword u (List.mem_cons_of_mem w hu)⟩

/-- `^[a-z0-9][a-z0-9._-]*$` -/
def producerPattern : RegularExpression Char :=
  oneOf (lower ++ digits) * star (oneOf (lower ++ digits ++ ['.', '_', '-']))

/-- `^[A-Za-z0-9][A-Za-z0-9._:\/\-]*$` -/
def idempotencyKeyPattern : RegularExpression Char :=
  oneOf (upper ++ lower ++ digits) *
    star (oneOf (upper ++ lower ++ digits ++ ['.', '_', ':', '/', '-']))

def envelopeKeys : List String :=
  ["task_id", "kind", "task_type", "schema_version", "created_at", "producer", "correlation_id",
    "causation_id", "idempotency_key", "payload", "metadata"]

def requiredKeys : List String :=
  ["task_id", "kind", "task_type", "schema_version", "created_at", "producer", "correlation_id",
    "idempotency_key", "payload"]

open Schema in
def causationIdSchema : Schema := anyOf [all [type [.string], minLength 1], type [.null]]

open Schema in
def metadataSchema : Schema := all
  [type [.object], maxProperties 20, additional [] (all [type [.string], maxLength 1024])]

open Schema in
def taskEnvelopeSchema : Schema := all
  [type [.object],
    additional envelopeKeys never,
    required requiredKeys,
    property "task_id" (all [type [.string], format .uuid]),
    property "kind" (const "task"),
    property "task_type" (all [type [.string], minLength 3, maxLength 120,
      pattern taskTypePattern]),
    property "schema_version" (const "1.0"),
    property "created_at" (all [type [.string], format .dateTime]),
    property "producer" (all [type [.string], minLength 1, maxLength 100,
      pattern producerPattern]),
    property "correlation_id" (all [type [.string], minLength 1]),
    property "causation_id" causationIdSchema,
    property "idempotency_key" (all [type [.string], minLength 1, maxLength 255,
      pattern idempotencyKeyPattern]),
    property "payload" (type [.object]),
    property "metadata" metadataSchema]

/-! ## What the schema says -/

/-- The texts of an envelope that have a form of their own. -/
structure EnvelopeTexts where
  taskId : String
  taskType : String
  createdAt : String
  producer : String
  correlationId : String
  idempotencyKey : String

/-- The rules that every validator reads alike. -/
structure EnvelopeTexts.Read (t : EnvelopeTexts) (members : List (String × Json)) : Prop where
  taskId : members.lookup "task_id" = some (.string t.taskId)
  kind : members.lookup "kind" = some (.string "task")
  taskType : members.lookup "task_type" = some (.string t.taskType)
  taskTypeLength : 3 ≤ t.taskType.length ∧ t.taskType.length ≤ 120
  schemaVersion : members.lookup "schema_version" = some (.string "1.0")
  createdAt : members.lookup "created_at" = some (.string t.createdAt)
  producer : members.lookup "producer" = some (.string t.producer)
  producerLength : 1 ≤ t.producer.length ∧ t.producer.length ≤ 100
  correlationId : members.lookup "correlation_id" = some (.string t.correlationId)
  correlationIdLength : 1 ≤ t.correlationId.length
  causationId : ∀ value, members.lookup "causation_id" = some value →
    (∃ s, value = .string s ∧ 1 ≤ s.length) ∨ value = .null
  idempotencyKey : members.lookup "idempotency_key" = some (.string t.idempotencyKey)
  idempotencyKeyLength : 1 ≤ t.idempotencyKey.length ∧ t.idempotencyKey.length ≤ 255
  payload : ∃ payload, members.lookup "payload" = some (.object payload)
  metadata : ∀ value, members.lookup "metadata" = some value →
    ∃ entries, value = .object entries ∧ entries.length ≤ 20 ∧
      ∀ entry ∈ entries, ∃ s, entry.2 = .string s ∧ s.length ≤ 1024
  closed : ∀ m ∈ members, m.1 ∈ envelopeKeys

/-- The rules that an engine has a reading of its own of. -/
structure EnvelopeTexts.Checked (t : EnvelopeTexts) (engine : Engine) : Prop where
  taskId : engine.format .uuid t.taskId = true
  taskType : engine.pattern taskTypePattern t.taskType = true
  createdAt : engine.format .dateTime t.createdAt = true
  producer : engine.pattern producerPattern t.producer = true
  idempotencyKey : engine.pattern idempotencyKeyPattern t.idempotencyKey = true

variable {engine : Engine} {value : Json} {members : List (String × Json)}
  {t t' : EnvelopeTexts}

theorem type_null : Schema.type [.null] engine value = true ↔ value = .null := by
  cases value with
  | null => simp [Schema.type, jsonType]
  | _ => simp [Schema.type, jsonType]

/-- The texts are those of the members. -/
theorem EnvelopeTexts.Read.unique (h : t.Read members) (h' : t'.Read members) : t = t' := by
  have hmember {key s s' : String} (hs : members.lookup key = some (.string s))
      (hs' : members.lookup key = some (.string s')) : s = s' :=
    Json.string.inj (Option.some.inj (hs.symm.trans hs'))
  obtain ⟨taskId, taskType, createdAt, producer, correlationId, idempotencyKey⟩ := t
  obtain rfl := hmember h.taskId h'.taskId
  obtain rfl := hmember h.taskType h'.taskType
  obtain rfl := hmember h.createdAt h'.createdAt
  obtain rfl := hmember h.producer h'.producer
  obtain rfl := hmember h.correlationId h'.correlationId
  obtain rfl := hmember h.idempotencyKey h'.idempotencyKey
  rfl

theorem causationId_iff : causationIdSchema engine value = true ↔
    (∃ s, value = .string s ∧ 1 ≤ s.length) ∨ value = .null := by
  cases value with
  | string s => simp [causationIdSchema, Schema.anyOf, Schema.type, jsonType]
  | null => simp [causationIdSchema, Schema.anyOf, type_null]
  | _ => simp [causationIdSchema, Schema.anyOf, type_null, type_string]

theorem metadata_iff : metadataSchema engine value = true ↔
    ∃ entries, value = .object entries ∧ entries.length ≤ 20 ∧
      ∀ entry ∈ entries, ∃ s, entry.2 = .string s ∧ s.length ≤ 1024 := by
  unfold metadataSchema
  rw [all_cons, type_object]
  constructor
  · rintro ⟨⟨entries, rfl⟩, h⟩
    simp only [all_cons, all_nil, and_true, maxProperties_object, additional_object,
      List.not_mem_nil, false_or, type_string] at h
    refine ⟨entries, rfl, h.1, fun entry hentry => ?_⟩
    obtain ⟨⟨s, hs⟩, hlength⟩ := h.2 entry hentry
    rw [hs, maxLength_string] at hlength
    exact ⟨s, hs, hlength⟩
  · rintro ⟨entries, rfl, hlength, hentries⟩
    refine ⟨⟨entries, rfl⟩, ?_⟩
    simp only [all_cons, all_nil, and_true, maxProperties_object, additional_object,
      List.not_mem_nil, false_or, type_string]
    refine ⟨hlength, fun entry hentry => ?_⟩
    obtain ⟨s, hs, hs'⟩ := hentries entry hentry
    rw [hs]
    exact ⟨⟨s, rfl⟩, maxLength_string.mpr hs'⟩

theorem taskEnvelopeSchema_iff : taskEnvelopeSchema engine value = true ↔
    ∃ members t, value = .object members ∧ EnvelopeTexts.Read t members ∧
      EnvelopeTexts.Checked t engine := by
  unfold taskEnvelopeSchema
  constructor
  · intro h
    simp only [all_cons, all_nil, and_true] at h
    obtain ⟨hobject, hclosed, hrequired, htaskId, hkind, htaskType, hversion, hcreatedAt, hproducer,
      hcorrelation, hcausation, hkey, hpayload, hmetadata⟩ := h
    obtain ⟨members, rfl⟩ := type_object.mp hobject
    rw [required_object] at hrequired
    have hpresent (key : String) (h : key ∈ requiredKeys) := hrequired key h
    obtain ⟨taskId, htaskId, htaskId'⟩ :=
      (property_string (hpresent "task_id" (by decide))).mp htaskId
    obtain ⟨taskType, htaskType, htaskType'⟩ :=
      (property_string (hpresent "task_type" (by decide))).mp htaskType
    obtain ⟨createdAt, hcreatedAt, hcreatedAt'⟩ :=
      (property_string (hpresent "created_at" (by decide))).mp hcreatedAt
    obtain ⟨producer, hproducer, hproducer'⟩ :=
      (property_string (hpresent "producer" (by decide))).mp hproducer
    obtain ⟨correlationId, hcorrelation, hcorrelation'⟩ :=
      (property_string (hpresent "correlation_id" (by decide))).mp hcorrelation
    obtain ⟨key, hkey, hkey'⟩ :=
      (property_string (hpresent "idempotency_key" (by decide))).mp hkey
    simp only [all_cons, all_nil, and_true, format_string, pattern_string, minLength_string,
      maxLength_string] at htaskId' htaskType' hcreatedAt' hproducer' hcorrelation' hkey'
    refine ⟨members, ⟨taskId, taskType, createdAt, producer, correlationId, key⟩, rfl,
      ⟨htaskId, ?_, htaskType, ⟨htaskType'.1, htaskType'.2.1⟩, ?_, hcreatedAt, hproducer,
        ⟨hproducer'.1, hproducer'.2.1⟩, hcorrelation, hcorrelation', fun value hvalue => ?_, hkey,
        ⟨hkey'.1, hkey'.2.1⟩, ?_, fun value hvalue => ?_, fun m hm => ?_⟩,
      ⟨htaskId', htaskType'.2.2, hcreatedAt', hproducer'.2.2, hkey'.2.2⟩⟩
    · obtain ⟨kind, hlookup⟩ := hpresent "kind" (by decide)
      rw [property_of_lookup hlookup, const_iff] at hkind
      rw [hlookup, hkind]
    · obtain ⟨version, hlookup⟩ := hpresent "schema_version" (by decide)
      rw [property_of_lookup hlookup, const_iff] at hversion
      rw [hlookup, hversion]
    · rw [property_of_lookup hvalue] at hcausation
      exact causationId_iff.mp hcausation
    · obtain ⟨payload, hlookup⟩ := hpresent "payload" (by decide)
      rw [property_of_lookup hlookup, type_object] at hpayload
      obtain ⟨entries, rfl⟩ := hpayload
      exact ⟨entries, hlookup⟩
    · rw [property_of_lookup hvalue] at hmetadata
      exact metadata_iff.mp hmetadata
    · obtain hm | hm := additional_object.mp hclosed m hm
      · exact hm
      · contradiction
  · rintro ⟨members, t, rfl, hread, hchecked⟩
    simp only [all_cons, all_nil, and_true]
    obtain ⟨payload, hpayload⟩ := hread.payload
    refine ⟨rfl, additional_object.mpr fun m hm => .inl (hread.closed m hm),
      required_object.mpr fun key hkey => ?_, ?_, ?_, ?_, ?_, ?_, ?_, ?_, ?_, ?_, ?_, ?_⟩
    · simp only [requiredKeys, List.mem_cons, List.not_mem_nil, or_false] at hkey
      obtain rfl | rfl | rfl | rfl | rfl | rfl | rfl | rfl | rfl := hkey
      · exact ⟨_, hread.taskId⟩
      · exact ⟨_, hread.kind⟩
      · exact ⟨_, hread.taskType⟩
      · exact ⟨_, hread.schemaVersion⟩
      · exact ⟨_, hread.createdAt⟩
      · exact ⟨_, hread.producer⟩
      · exact ⟨_, hread.correlationId⟩
      · exact ⟨_, hread.idempotencyKey⟩
      · exact ⟨_, hpayload⟩
    · simp [property_of_lookup hread.taskId, type_string, hchecked.taskId]
    · simp [property_of_lookup hread.kind, const_iff]
    · simp [property_of_lookup hread.taskType, type_string, hchecked.taskType, hread.taskTypeLength]
    · simp [property_of_lookup hread.schemaVersion, const_iff]
    · simp [property_of_lookup hread.createdAt, type_string, hchecked.createdAt]
    · simp [property_of_lookup hread.producer, type_string, hchecked.producer, hread.producerLength]
    · simp [property_of_lookup hread.correlationId, type_string, hread.correlationIdLength]
    · exact property_object.mpr fun value hvalue =>
        causationId_iff.mpr (hread.causationId value hvalue)
    · simp [property_of_lookup hread.idempotencyKey, type_string, hchecked.idempotencyKey,
        hread.idempotencyKeyLength]
    · simp [property_of_lookup hpayload, type_object]
    · exact property_object.mpr fun value hvalue => metadata_iff.mpr (hread.metadata value hvalue)

end OpsFlow.Contracts
