import OpsFlow.Incidents.Services
import Mathlib.Tactic.SplitIfs

namespace OpsFlow.Incidents

/-- The text forms of values that have no JSON type of their own, as pydantic and httpx write
and read them. Only the part that the two services rely on is fixed. -/
structure Wire where
  parseUuid : String → Option Uuid
  dumpDatetime : Timestamp → String
  parseDatetime : String → Option Timestamp
  parseInt : String → Option ℤ
  /-- `EmailStr`: the normalised address. -/
  parseEmail : String → Option String
  parseUuid_str : ∀ u : Uuid, parseUuid u.str = some u
  parseDatetime_dump : ∀ t, parseDatetime (dumpDatetime t) = some t
  parseInt_repr : ∀ n : ℕ, parseInt n.repr = some n
  parseEmail_normalised : ∀ raw email, parseEmail raw = some email → parseEmail email = some email

/-! ## Members of a JSON object -/

inductive Field
  | id
  | title
  | service_id
  | severity
  | status
  | summary
  | assignee
  | source
  | customer_impacting
  | acknowledged_at
  | started_at
  | resolved_at
  | created_at
  | updated_at
  | reported_by_email
  deriving DecidableEq

def Field.name : Field → String
  | id => "id"
  | title => "title"
  | service_id => "service_id"
  | severity => "severity"
  | status => "status"
  | summary => "summary"
  | assignee => "assignee"
  | source => "source"
  | customer_impacting => "customer_impacting"
  | acknowledged_at => "acknowledged_at"
  | started_at => "started_at"
  | resolved_at => "resolved_at"
  | created_at => "created_at"
  | updated_at => "updated_at"
  | reported_by_email => "reported_by_email"

def capitalize : List Char → List Char
  | [] => []
  | c :: cs => c.toUpper :: cs.map Char.toLower

def toCamel (value : String) : String :=
  match value.toList.splitOn '_' with
  | [] => ""
  | part :: parts => String.ofList (part ++ (parts.map capitalize).flatten)

def Field.alias (field : Field) : String := toCamel field.name

/-- What stands under a field: its alias is looked up first, then its name. -/
def member (members : List (String × Json)) (field : Field) : Option Json :=
  (members.lookup field.alias).or (members.lookup field.name)

/-- A dump by alias, of the `fields` that have a value. -/
def dumpMembers (fields : List Field) (value : Field → Option Json) : List (String × Json) :=
  fields.filterMap fun field => (value field).map (field.alias, ·)

theorem alias_injective : ∀ f g : Field, f.alias = g.alias → f = g := by
  intro f g
  cases f <;> cases g <;> decide

/-- No alias is the name of another field. -/
theorem eq_of_alias_eq_name : ∀ f g : Field, f.alias = g.name → f = g := by
  intro f g
  cases f <;> cases g <;> decide

/-- Under a key that is the alias of `field` or of none, a dump holds the value of `field`. -/
theorem lookup_dumpMembers {fields : List Field} {value : Field → Option Json} {key : String}
    {field : Field} (hkey : ∀ f ∈ fields, f.alias = key → f = field) :
    (dumpMembers fields value).lookup key =
      if field ∈ fields ∧ field.alias = key then value field else none := by
  induction fields with
  | nil => simp [dumpMembers]
  | cons f fields ih =>
    have htail := ih fun g hg => hkey g (List.mem_cons_of_mem _ hg)
    have hhead := hkey f List.mem_cons_self
    cases hv : value f with
    | none =>
      have hskip : dumpMembers (f :: fields) value = dumpMembers fields value := by
        simp [dumpMembers, hv]
      rw [hskip, htail]
      by_cases hf : f = field
      · subst hf
        simp [hv]
      · simp [Ne.symm hf]
    | some json =>
      -- the member of `f` is found under the key, or the key is that of a later field
      have hcons : dumpMembers (f :: fields) value =
          (f.alias, json) :: dumpMembers fields value := by
        simp [dumpMembers, hv]
      rw [hcons, List.lookup_cons]
      by_cases hk : f.alias = key
      · obtain rfl := hhead hk
        simp [hk, hv]
      · have hne : (key == f.alias) = false := by simpa using Ne.symm hk
        rw [hne, htail]
        by_cases hf : f = field
        · subst hf
          simp [hk]
        · simp [Ne.symm hf]

@[simp] theorem member_dumpMembers {fields : List Field} {value : Field → Option Json}
    {field : Field} (hmem : field ∈ fields) :
    member (dumpMembers fields value) field = value field := by
  have halias : (dumpMembers fields value).lookup field.alias = value field := by
    rw [lookup_dumpMembers fun f _ h => alias_injective f field h]
    simp [hmem]
  have hname : (dumpMembers fields value).lookup field.name =
      if field ∈ fields ∧ field.alias = field.name then value field else none :=
    lookup_dumpMembers fun f _ h => eq_of_alias_eq_name f field h
  rw [member, halias, hname]
  split_ifs
  · cases value field <;> rfl
  · exact Option.or_none

/-! ## Validation of a member -/

/-- `none` is a `ValidationError`. -/
abbrev Validator (α : Type) := Json → Option α

def textValidator : Validator String
  | .string s => some s
  | _ => none

def boundedText (minLength maxLength : ℕ) : Validator String
  | .string s => if minLength ≤ s.length ∧ s.length ≤ maxLength then some s else none
  | _ => none

def boolValidator : Validator Bool
  | .bool b => some b
  | _ => none

def IncidentSeverity.ofValue? (value : String) : Option IncidentSeverity :=
  [.sev1, .sev2, .sev3, .sev4].find? fun severity => severity.value = value

def IncidentStatus.ofValue? (value : String) : Option IncidentStatus :=
  [.opened, .investigating, .monitoring, .resolved].find? fun status => status.value = value

def severityValidator (json : Json) : Option IncidentSeverity :=
  (textValidator json).bind IncidentSeverity.ofValue?

def statusValidator (json : Json) : Option IncidentStatus :=
  (textValidator json).bind IncidentStatus.ofValue?

def uuidValidator (wire : Wire) (json : Json) : Option Uuid :=
  (textValidator json).bind wire.parseUuid

def datetimeValidator (wire : Wire) (json : Json) : Option Timestamp :=
  (textValidator json).bind wire.parseDatetime

def emailValidator (wire : Wire) (json : Json) : Option String :=
  (textValidator json).bind wire.parseEmail

def nullable {α : Type} (validator : Validator α) : Validator (Option α)
  | .null => some none
  | json => (validator json).map some

def required {α : Type} (validator : Validator α) (members : List (String × Json))
    (field : Field) : Option α :=
  (member members field).bind validator

def defaulted {α : Type} (validator : Validator α) (default : α)
    (members : List (String × Json)) (field : Field) : Option α :=
  match member members field with
  | none => some default
  | some json => validator json

/-- A field of a PATCH, which keeps apart whether it was set at all. -/
def unsetOr {α : Type} (validator : Validator α) (members : List (String × Json))
    (field : Field) : Option (Option α) :=
  match member members field with
  | none => some none
  | some json => (validator json).map some

end OpsFlow.Incidents
