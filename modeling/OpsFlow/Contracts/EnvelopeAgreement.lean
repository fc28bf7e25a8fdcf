import OpsFlow.Contracts.TaskEnvelope
import OpsFlow.Contracts.Uuids

namespace OpsFlow.Contracts
open Patterns

/-! ## The two validators of the task envelope -/

/-- Ajv with ajv-formats, which are no part of the repository, as they document their readings. -/
def ajv : Engine := ⟨ecmaTest, ajvFormat⟩

/-- Python's jsonschema with a `FormatChecker`, on the packages that the worker has; these readings,
too, are those that are documented. -/
def jsonschema : Engine := ⟨pythonSearch, jsonschemaFormat⟩

theorem jsonschema_format {f : Format} {s : String} :
    jsonschema.format f s = jsonschemaFormat f s := rfl

namespace TaskPublisher

/-- The `valid` of the result. -/
def validateTaskEnvelope (value : Json) : Bool := taskEnvelopeSchema ajv value

end TaskPublisher

namespace TaskWorker

structure InvalidTaskEnvelopeError where
  deriving DecidableEq

def validateTaskEnvelope (task : Json) : Except InvalidTaskEnvelopeError Json :=
  if taskEnvelopeSchema jsonschema task then .ok task else .error ⟨⟩

end TaskWorker

variable {value : Json} {members : List (String × Json)} {t : EnvelopeTexts}

theorem TaskWorker.validateTaskEnvelope_eq_ok {task : Json} :
    TaskWorker.validateTaskEnvelope value = .ok task ↔
      taskEnvelopeSchema jsonschema value = true ∧ task = value := by
  unfold TaskWorker.validateTaskEnvelope
  by_cases h : taskEnvelopeSchema jsonschema value = true
  · simp [h, eq_comm]
  · simp [h]

/-! ## When they agree -/

namespace EnvelopeTexts

def Named (t : EnvelopeTexts) : Prop :=
  pythonSearch taskTypePattern t.taskType = true ∧ pythonSearch producerPattern t.producer = true ∧
    pythonSearch idempotencyKeyPattern t.idempotencyKey = true

def NoFinalNewline (t : EnvelopeTexts) : Prop :=
  endsInNewline t.taskType = false ∧ endsInNewline t.producer = false ∧
    endsInNewline t.idempotencyKey = false

def Dated (t : EnvelopeTexts) : Prop := ajvFormat .dateTime t.createdAt = true

/-- The task id has the form 8-4-4-4-12 that all readings of a UUID share. -/
def PlainId (t : EnvelopeTexts) : Prop := rfcFormat .uuid t.taskId = true

def UrnId (t : EnvelopeTexts) : Prop :=
  fits ("urn:uuid:".toList.map anyCase ++ uuidShape hex hex) t.taskId.toList = true

/-- The task id is no plain UUID, but Python's `UUID` reads it. -/
def OddId (t : EnvelopeTexts) : Prop := ¬ t.PlainId ∧ jsonschemaFormat .uuid t.taskId = true

def ReadAlike (t : EnvelopeTexts) : Prop :=
  t.Named → (t.PlainId ∧ t.Dated ∧ t.NoFinalNewline) ∨
    (¬ t.PlainId ∧ ¬ t.OddId ∧ ¬ (t.UrnId ∧ t.Dated ∧ t.NoFinalNewline))

theorem checked_jsonschema : t.Checked jsonschema ↔
    jsonschemaFormat .uuid t.taskId = true ∧ t.Named := by
  rw [← jsonschema_format]
  constructor
  · intro h
    exact ⟨h.taskId, h.taskType, h.producer, h.idempotencyKey⟩
  · rintro ⟨htaskId, htaskType, hproducer, hkey⟩
    exact ⟨htaskId, htaskType, rfl, hproducer, hkey⟩

theorem newline_notMem : '\n' ∉ letters taskTypePattern ∧ '\n' ∉ letters producerPattern ∧
    '\n' ∉ letters idempotencyKeyPattern := by
  decide

theorem checked_ajv : t.Checked ajv ↔
    (t.PlainId ∨ t.UrnId) ∧ t.Dated ∧ t.Named ∧ t.NoFinalNewline := by
  obtain ⟨htaskType, hproducer, hkey⟩ := newline_notMem
  have hid : ajv.format .uuid t.taskId = true ↔ t.PlainId ∨ t.UrnId := Bool.or_eq_true_iff
  constructor
  · intro h
    obtain ⟨hsearch₁, hend₁⟩ := (ecmaTest_iff htaskType).mp h.taskType
    obtain ⟨hsearch₂, hend₂⟩ := (ecmaTest_iff hproducer).mp h.producer
    obtain ⟨hsearch₃, hend₃⟩ := (ecmaTest_iff hkey).mp h.idempotencyKey
    exact ⟨hid.mp h.taskId, h.createdAt, ⟨hsearch₁, hsearch₂, hsearch₃⟩, hend₁, hend₂, hend₃⟩
  · rintro ⟨hids, hdated, ⟨hsearch₁, hsearch₂, hsearch₃⟩, hend₁, hend₂, hend₃⟩
    exact ⟨hid.mpr hids, (ecmaTest_iff htaskType).mpr ⟨hsearch₁, hend₁⟩, hdated,
      (ecmaTest_iff hproducer).mpr ⟨hsearch₂, hend₂⟩, (ecmaTest_iff hkey).mpr ⟨hsearch₃, hend₃⟩⟩

theorem readAlike_iff : (t.Checked ajv ↔ t.Checked jsonschema) ↔ t.ReadAlike := by
  have hplain : t.PlainId → jsonschemaFormat .uuid t.taskId = true := jsonschemaFormat_of_rfcFormat
  have hurn : t.UrnId → ¬ jsonschemaFormat .uuid t.taskId = true := fun h => by
    simp [jsonschemaFormat_of_urn h]
  rw [checked_ajv, checked_jsonschema]
  unfold ReadAlike OddId
  by_cases hnamed : t.Named
  · by_cases hid : t.PlainId
    · simp [hnamed, hid, hplain hid]
    · by_cases hread : jsonschemaFormat .uuid t.taskId = true
      · have hnot : ¬ t.UrnId := fun h => hurn h hread
        simp [hnamed, hid, hread, hnot]
      · simp [hnamed, hid, hread]
  · simp [hnamed]

end EnvelopeTexts

/-- The two validators agree on a value if and only if they read its texts alike. -/
theorem validators_agree_iff (value : Json) :
    (TaskPublisher.validateTaskEnvelope value = true ↔
        ∃ task, TaskWorker.validateTaskEnvelope value = .ok task) ↔
      ∀ members t, value = .object members → EnvelopeTexts.Read t members → t.ReadAlike := by
  have hworker : (∃ task, TaskWorker.validateTaskEnvelope value = .ok task) ↔
      taskEnvelopeSchema jsonschema value = true := by
    simp [TaskWorker.validateTaskEnvelope_eq_ok]
  rw [hworker, TaskPublisher.validateTaskEnvelope, taskEnvelopeSchema_iff, taskEnvelopeSchema_iff]
  constructor
  · rintro hagree members t rfl hread
    refine EnvelopeTexts.readAlike_iff.mp ⟨fun hchecked => ?_, fun hchecked => ?_⟩
    · obtain ⟨_, t', hvalue, hread', hchecked'⟩ := hagree.mp ⟨members, t, rfl, hread, hchecked⟩
      obtain rfl := Json.object.inj hvalue
      rw [hread.unique hread']
      exact hchecked'
    · obtain ⟨_, t', hvalue, hread', hchecked'⟩ := hagree.mpr ⟨members, t, rfl, hread, hchecked⟩
      obtain rfl := Json.object.inj hvalue
      rw [hread.unique hread']
      exact hchecked'
  · intro halike
    constructor
    · rintro ⟨members, t, rfl, hread, hchecked⟩
      have hiff := EnvelopeTexts.readAlike_iff.mpr (halike members t rfl hread)
      exact ⟨members, t, rfl, hread, hiff.mp hchecked⟩
    · rintro ⟨members, t, rfl, hread, hchecked⟩
      have hiff := EnvelopeTexts.readAlike_iff.mpr (halike members t rfl hread)
      exact ⟨members, t, rfl, hread, hiff.mpr hchecked⟩

def undatedTexts : EnvelopeTexts :=
  ⟨"00000000-0000-4000-8000-000000000000", "a.b", "yesterday", "p", "c", "k"⟩

/-- An envelope whose `created_at` is no date at all. -/
def undatedEnvelope : List (String × Json) :=
  [("task_id", .string undatedTexts.taskId), ("kind", .string "task"),
    ("task_type", .string undatedTexts.taskType), ("schema_version", .string "1.0"),
    ("created_at", .string undatedTexts.createdAt), ("producer", .string undatedTexts.producer),
    ("correlation_id", .string undatedTexts.correlationId),
    ("idempotency_key", .string undatedTexts.idempotencyKey), ("payload", .object [])]

theorem undated_read : undatedTexts.Read undatedEnvelope where
  taskId := rfl
  kind := rfl
  taskType := rfl
  taskTypeLength := by decide
  schemaVersion := rfl
  createdAt := rfl
  producer := rfl
  producerLength := by decide
  correlationId := rfl
  correlationIdLength := by decide
  causationId := fun _ h => by contradiction
  idempotencyKey := rfl
  idempotencyKeyLength := by decide
  payload := ⟨[], rfl⟩
  metadata := fun _ h => by contradiction
  closed := by simp [undatedEnvelope, envelopeKeys]

theorem undated_valid : taskEnvelopeSchema jsonschema (.object undatedEnvelope) = true := by
  have hnamed : undatedTexts.Named := ⟨by decide, by decide, by decide⟩
  have hid : jsonschemaFormat .uuid undatedTexts.taskId = true :=
    jsonschemaFormat_of_rfcFormat (by decide)
  exact taskEnvelopeSchema_iff.mpr
    ⟨_, _, rfl, undated_read, EnvelopeTexts.checked_jsonschema.mpr ⟨hid, hnamed⟩⟩

/-- The worker takes it, and the publisher does not. -/
theorem validators_disagree : ¬ ∀ value, TaskPublisher.validateTaskEnvelope value = true ↔
    ∃ task, TaskWorker.validateTaskEnvelope value = .ok task := by
  intro h
  obtain ⟨_, t, hvalue, hread, hajv⟩ := taskEnvelopeSchema_iff.mp
    ((h (.object undatedEnvelope)).mpr ⟨_, TaskWorker.validateTaskEnvelope_eq_ok.mpr
      ⟨undated_valid, rfl⟩⟩)
  obtain rfl := Json.object.inj hvalue
  obtain rfl := undated_read.unique hread
  have hdated : ajvFormat .dateTime "yesterday" = true := hajv.createdAt
  exact absurd hdated (by decide)

end OpsFlow.Contracts
