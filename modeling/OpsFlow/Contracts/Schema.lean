import OpsFlow.Contracts.Formats
import OpsFlow.Library.Patterns

namespace OpsFlow.Contracts

/-! ## JSON Schema, as far as the contracts use it -/

/-- What the validators of two languages read differently. -/
structure Engine where
  pattern : RegularExpression Char → String → Bool
  format : Format → String → Bool

inductive JsonType
  | null
  | boolean
  | number
  | string
  | array
  | object
  deriving DecidableEq

def jsonType : Json → JsonType
  | .null => .null
  | .bool _ => .boolean
  | .number _ => .number
  | .string _ => .string
  | .array _ => .array
  | .object _ => .object

abbrev Schema := Engine → Json → Bool

namespace Schema

def all (keywords : List Schema) : Schema := fun engine value =>
  keywords.all fun keyword => keyword engine value

def type (types : List JsonType) : Schema := fun _ value => jsonType value ∈ types

def const (text : String) : Schema := fun _ value =>
  match value with
  | .string s => s = text
  | _ => false

def enum (texts : List String) : Schema := fun _ value =>
  match value with
  | .string s => s ∈ texts
  | _ => false

/-- A keyword that looks at strings only. -/
def onString (check : Engine → String → Bool) : Schema := fun engine value =>
  match value with
  | .string s => check engine s
  | _ => true

def minLength (n : ℕ) : Schema := onString fun _ s => n ≤ s.length

def maxLength (n : ℕ) : Schema := onString fun _ s => s.length ≤ n

def pattern (P : RegularExpression Char) : Schema := onString fun engine s => engine.pattern P s

def format (f : Format) : Schema := onString fun engine s => engine.format f s

/-- A keyword that looks at objects only. -/
def onObject (check : Engine → List (String × Json) → Bool) : Schema := fun engine value =>
  match value with
  | .object members => check engine members
  | _ => true

def required (keys : List String) : Schema := onObject fun _ members =>
  keys.all fun key => (members.lookup key).isSome

def property (key : String) (schema : Schema) : Schema := onObject fun engine members =>
  (members.lookup key).all fun value => schema engine value

/-- `additionalProperties`, for the members that the properties do not name. -/
def additional (names : List String) (schema : Schema) : Schema := onObject fun engine members =>
  members.all fun m => decide (m.1 ∈ names) || schema engine m.2

def never : Schema := fun _ _ => false

def maxProperties (n : ℕ) : Schema := onObject fun _ members => members.length ≤ n

def anyOf (schemas : List Schema) : Schema := fun engine value =>
  schemas.any fun schema => schema engine value

def oneOf (schemas : List Schema) : Schema := fun engine value =>
  (schemas.countP fun schema => schema engine value) = 1

end Schema

variable {engine : Engine} {value : Json} {members : List (String × Json)} {s : String}
  {key : String} {schema : Schema}

@[simp] theorem all_nil : Schema.all [] engine value = true := rfl

@[simp] theorem all_cons {keyword : Schema} {keywords : List Schema} :
    Schema.all (keyword :: keywords) engine value = true ↔
      keyword engine value = true ∧ Schema.all keywords engine value = true := by
  simp [Schema.all]

theorem type_object : Schema.type [.object] engine value = true ↔
    ∃ members, value = .object members := by
  cases value with
  | object members => simp [Schema.type, jsonType]
  | _ => simp [Schema.type, jsonType]

theorem type_string : Schema.type [.string] engine value = true ↔ ∃ s, value = .string s := by
  cases value with
  | string s => simp [Schema.type, jsonType]
  | _ => simp [Schema.type, jsonType]

theorem const_iff : Schema.const s engine value = true ↔ value = .string s := by
  cases value with
  | string t => simp [Schema.const]
  | _ => simp [Schema.const]

theorem enum_iff {texts : List String} : Schema.enum texts engine value = true ↔
    ∃ s ∈ texts, value = .string s := by
  cases value with
  | string t => simp [Schema.enum]
  | _ => simp [Schema.enum]

@[simp] theorem minLength_string {n : ℕ} :
    Schema.minLength n engine (.string s) = true ↔ n ≤ s.length := decide_eq_true_iff

@[simp] theorem maxLength_string {n : ℕ} :
    Schema.maxLength n engine (.string s) = true ↔ s.length ≤ n := decide_eq_true_iff

@[simp] theorem pattern_string {P : RegularExpression Char} :
    Schema.pattern P engine (.string s) = engine.pattern P s := rfl

@[simp] theorem format_string {f : Format} :
    Schema.format f engine (.string s) = engine.format f s := rfl

@[simp] theorem required_object {keys : List String} :
    Schema.required keys engine (.object members) = true ↔
      ∀ key ∈ keys, ∃ value, members.lookup key = some value := by
  simp [Schema.required, Schema.onObject, Option.isSome_iff_exists]

@[simp] theorem property_object :
    Schema.property key schema engine (.object members) = true ↔
      ∀ value, members.lookup key = some value → schema engine value = true := by
  unfold Schema.property Schema.onObject
  cases h : members.lookup key with
  | none => simp [h]
  | some value => simp [h]

@[simp] theorem additional_object {names : List String} :
    Schema.additional names schema engine (.object members) = true ↔
      ∀ m ∈ members, m.1 ∈ names ∨ schema engine m.2 = true := by
  simp [Schema.additional, Schema.onObject]

@[simp] theorem never_eq : Schema.never engine value = false := rfl

@[simp] theorem maxProperties_object {n : ℕ} :
    Schema.maxProperties n engine (.object members) = true ↔ members.length ≤ n :=
  decide_eq_true_iff

theorem property_of_lookup (h : members.lookup key = some value) :
    Schema.property key schema engine (.object members) = true ↔ schema engine value = true := by
  simp [h]

/-- A string that is also required. -/
theorem property_string {keywords : List Schema} (h : ∃ value, members.lookup key = some value) :
    Schema.property key (.all (.type [.string] :: keywords)) engine (.object members) = true ↔
      ∃ s, members.lookup key = some (.string s) ∧
        Schema.all keywords engine (.string s) = true := by
  obtain ⟨value, hvalue⟩ := h
  rw [property_of_lookup hvalue, all_cons, type_string]
  constructor
  · rintro ⟨⟨s, rfl⟩, hkeywords⟩
    exact ⟨s, hvalue, hkeywords⟩
  · rintro ⟨s, hs, hkeywords⟩
    obtain rfl := Option.some.inj (hvalue.symm.trans hs)
    exact ⟨⟨s, rfl⟩, hkeywords⟩

end OpsFlow.Contracts
