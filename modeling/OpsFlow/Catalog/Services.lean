import OpsFlow.Text
import OpsFlow.Auth.Domain
import OpsFlow.Overview.OverviewService

namespace OpsFlow.Catalog
open Overview

/-! ## Roles and permissions -/

inductive UserRole
  | viewer
  | operator
  | admin
  deriving DecidableEq

def UserRole.value : UserRole → String
  | .viewer => "viewer"
  | .operator => "operator"
  | .admin => "admin"

inductive Permission
  | serviceRead
  | serviceCreate
  | serviceUpdate
  | serviceDelete
  | serviceDependencyRead
  | serviceDependencyWrite
  | incidentRead
  | incidentCreate
  | incidentUpdate
  | incidentDelete
  deriving DecidableEq

def Permission.value : Permission → String
  | .serviceRead => "service:read"
  | .serviceCreate => "service:create"
  | .serviceUpdate => "service:update"
  | .serviceDelete => "service:delete"
  | .serviceDependencyRead => "service_dependency:read"
  | .serviceDependencyWrite => "service_dependency:write"
  | .incidentRead => "incident:read"
  | .incidentCreate => "incident:create"
  | .incidentUpdate => "incident:update"
  | .incidentDelete => "incident:delete"

def rolePermissions : UserRole → List Permission
  | .viewer => [.serviceRead, .serviceDependencyRead, .incidentRead]
  | .operator => [.serviceRead, .serviceCreate, .serviceUpdate, .serviceDependencyRead,
      .serviceDependencyWrite, .incidentRead, .incidentCreate, .incidentUpdate]
  | .admin => [.serviceRead, .serviceCreate, .serviceUpdate, .serviceDelete,
      .serviceDependencyRead, .serviceDependencyWrite, .incidentRead, .incidentCreate,
      .incidentUpdate, .incidentDelete]

def hasPermission (role : UserRole) (permission : Permission) : Bool :=
  permission ∈ rolePermissions role

/-- The message of the `PermissionDeniedError`, if there is one. -/
def requirePermission (role : UserRole) (permission : Permission) : Except String Unit :=
  if hasPermission role permission then .ok ()
  else
    .error ("User role '" ++ role.value ++ "' does not have permission '" ++ permission.value ++
      "'.")

structure Account extends Auth.UserModel where
  fullName : String
  role : UserRole

structure HttpException where
  status : ℕ
  detail : String
  deriving DecidableEq

def credentialsException : HttpException := ⟨401, "Could not validate credentials."⟩

/-- `get_current_user`; `token` is the subject of the access token, where there is a token that has
been issued and has not expired. -/
def getCurrentUser (accounts : Uuid → Option Account) (token : Option Uuid) :
    Except HttpException (Uuid × Account) :=
  match token with
  | none => .error credentialsException
  | some userId =>
    match accounts userId with
    | none => .error credentialsException
    | some account => if account.isActive then .ok (userId, account)
      else .error credentialsException

def permissionDependency (permission : Permission) (current : Uuid × Account) :
    Except HttpException (Uuid × Account) :=
  match requirePermission current.2.role permission with
  | .ok () => .ok current
  | .error _ => .error ⟨403, "You do not have permission to perform this action."⟩

/-! ## The columns of a service -/

inductive Column
  | name
  | owner
  | status
  | uptime
  | latencyMs
  | description
  | region
  | version
  | lastDeployedAt
  deriving DecidableEq

@[reducible] def Column.Value : Column → Type
  | .status => ServiceStatus
  | .latencyMs => ℕ
  | .lastDeployedAt => Timestamp
  | _ => String

/-- A row of the services, which is stored under its identifier. -/
structure ServiceModel where
  name : String
  owner : String
  status : ServiceStatus
  uptime : String
  latencyMs : ℕ
  description : String
  region : String
  version : String
  lastDeployedAt : Timestamp
  deriving DecidableEq

def ServiceModel.get (row : ServiceModel) : (c : Column) → c.Value
  | .name => row.name
  | .owner => row.owner
  | .status => row.status
  | .uptime => row.uptime
  | .latencyMs => row.latencyMs
  | .description => row.description
  | .region => row.region
  | .version => row.version
  | .lastDeployedAt => row.lastDeployedAt

/-- What a column of the type `character varying(limit)` makes of a text: what is too long has to be
spaces, which are cut off. -/
def varchar (limit : ℕ) (s : String) : Option String :=
  if s.length ≤ limit then some s
  else if ∀ c ∈ s.toList.drop limit, c = ' ' then some (String.ofList (s.toList.take limit))
  else none

/-- What is stored in a column, unless the value is out of its range. -/
def Column.store : (c : Column) → c.Value → Option c.Value
  | .name => varchar 120
  | .owner => varchar 120
  | .status => some
  | .uptime => varchar 30
  | .latencyMs => fun value => if value ≤ 2147483647 then some value else none
  | .description => some
  | .region => varchar 80
  | .version => varchar 50
  | .lastDeployedAt => some

def ServiceModel.stored (row : ServiceModel) : Option ServiceModel := do
  let name ← Column.store .name row.name
  let owner ← Column.store .owner row.owner
  let uptime ← Column.store .uptime row.uptime
  let latencyMs ← Column.store .latencyMs row.latencyMs
  let region ← Column.store .region row.region
  let version ← Column.store .version row.version
  return { row with
    name := name
    owner := owner
    uptime := uptime
    latencyMs := latencyMs
    region := region
    version := version }

/-- The length of `service_dependencies.dependency_name`. -/
def storeDependency : String → Option String := varchar 120

/-! ## The payloads -/

/-- A text that `strip_required_strings` has returned. -/
def Cleaned (s : String) : Prop := stripped pythonSpace s = s ∧ s ≠ ""

def Column.Cleaned : (c : Column) → c.Value → Prop
  | .name, value | .owner, value | .region, value | .version, value => Catalog.Cleaned value
  | _, _ => True

def ServiceModel.Cleaned (row : ServiceModel) : Prop := ∀ c : Column, c.Cleaned (row.get c)

structure RawService where
  name : String
  owner : String
  status : ServiceStatus
  uptime : String
  latencyMs : ℤ
  description : String
  region : String
  version : String
  lastDeployedAt : Timestamp
  dependencies : List String

def stripRequiredStrings (value : String) : Option String :=
  if stripped pythonSpace value = "" then none else some (stripped pythonSpace value)

def nonNegative (value : ℤ) : Option ℕ := if 0 ≤ value then some value.toNat else none

structure ServiceCreate where
  row : ServiceModel
  dependencies : List String
  cleaned : row.Cleaned

def RawService.row? (raw : RawService) : Option ServiceModel := do
  let name ← stripRequiredStrings raw.name
  let owner ← stripRequiredStrings raw.owner
  let latencyMs ← nonNegative raw.latencyMs
  let region ← stripRequiredStrings raw.region
  let version ← stripRequiredStrings raw.version
  return { name := name
           owner := owner
           status := raw.status
           uptime := raw.uptime
           latencyMs := latencyMs
           description := raw.description
           region := region
           version := version
           lastDeployedAt := raw.lastDeployedAt }

theorem cleaned_of_stripRequiredStrings {value cleaned : String}
    (h : stripRequiredStrings value = some cleaned) : Cleaned cleaned := by
  unfold stripRequiredStrings at h
  split at h
  · contradiction
  · rename_i hne
    obtain rfl := Option.some.inj h
    exact ⟨stripped_of_trimmed (trimmed_stripped pythonSpace value), hne⟩

theorem RawService.cleaned_row {raw : RawService} {row : ServiceModel} (h : raw.row? = some row) :
    row.Cleaned := by
  unfold RawService.row? at h
  simp only [Option.bind_eq_bind, Option.bind_eq_some_iff] at h
  obtain ⟨name, hname, owner, howner, latencyMs, -, region, hregion, version, hversion, h⟩ := h
  obtain rfl := Option.some.inj h
  intro c
  cases c with
  | name => exact cleaned_of_stripRequiredStrings hname
  | owner => exact cleaned_of_stripRequiredStrings howner
  | region => exact cleaned_of_stripRequiredStrings hregion
  | version => exact cleaned_of_stripRequiredStrings hversion
  | _ => trivial

/-- An invalid body is answered with status 422. -/
def ServiceCreate.validate (raw : RawService) : Option ServiceCreate :=
  match h : raw.row? with
  | none => none
  | some row => some ⟨row, raw.dependencies, raw.cleaned_row h⟩

/-- What a PATCH sets: `none` is a field that the body leaves out, `some none` an explicit null. -/
structure Changes (Latency : Type) where
  name : Option (Option String)
  owner : Option (Option String)
  status : Option (Option ServiceStatus)
  uptime : Option (Option String)
  latencyMs : Option (Option Latency)
  description : Option (Option String)
  region : Option (Option String)
  version : Option (Option String)
  lastDeployedAt : Option (Option Timestamp)
  dependencies : Option (Option (List String))

def Changes.get (changes : Changes ℕ) : (c : Column) → Option (Option c.Value)
  | .name => changes.name
  | .owner => changes.owner
  | .status => changes.status
  | .uptime => changes.uptime
  | .latencyMs => changes.latencyMs
  | .description => changes.description
  | .region => changes.region
  | .version => changes.version
  | .lastDeployedAt => changes.lastDeployedAt

structure ServiceUpdate extends Changes ℕ where
  cleaned : ∀ c value, toChanges.get c = some (some value) → c.Cleaned value

/-- A validator of an optional field sees no null, and is not run for a field that is left out. -/
def validateOptional {α β : Type} (validate : α → Option β) :
    Option (Option α) → Option (Option (Option β))
  | some (some value) => (validate value).map fun value => some (some value)
  | some none => some (some none)
  | none => some none

def Changes.validated? (raw : Changes ℤ) : Option (Changes ℕ) := do
  let name ← validateOptional stripRequiredStrings raw.name
  let owner ← validateOptional stripRequiredStrings raw.owner
  let latencyMs ← validateOptional nonNegative raw.latencyMs
  let region ← validateOptional stripRequiredStrings raw.region
  let version ← validateOptional stripRequiredStrings raw.version
  return { name := name
           owner := owner
           status := raw.status
           uptime := raw.uptime
           latencyMs := latencyMs
           description := raw.description
           region := region
           version := version
           lastDeployedAt := raw.lastDeployedAt
           dependencies := raw.dependencies }

theorem cleaned_of_validateOptional {field : Option (Option String)} {value : String}
    (h : validateOptional stripRequiredStrings field = some (some (some value))) :
    Cleaned value := by
  unfold validateOptional at h
  split at h
  · obtain ⟨cleaned, hcleaned, heq⟩ := Option.map_eq_some_iff.mp h
    obtain rfl := Option.some.inj (Option.some.inj heq)
    exact cleaned_of_stripRequiredStrings hcleaned
  · cases Option.some.inj h
  · cases Option.some.inj h

theorem Changes.cleaned_validated {raw : Changes ℤ} {changes : Changes ℕ}
    (h : raw.validated? = some changes) (c : Column) (value : c.Value)
    (hvalue : changes.get c = some (some value)) : c.Cleaned value := by
  unfold Changes.validated? at h
  simp only [Option.bind_eq_bind, Option.bind_eq_some_iff] at h
  obtain ⟨name, hname, owner, howner, latencyMs, -, region, hregion, version, hversion, h⟩ := h
  obtain rfl := Option.some.inj h
  cases c with
  | name =>
    obtain rfl : name = some (some value) := hvalue
    exact cleaned_of_validateOptional hname
  | owner =>
    obtain rfl : owner = some (some value) := hvalue
    exact cleaned_of_validateOptional howner
  | region =>
    obtain rfl : region = some (some value) := hvalue
    exact cleaned_of_validateOptional hregion
  | version =>
    obtain rfl : version = some (some value) := hvalue
    exact cleaned_of_validateOptional hversion
  | _ => trivial

def ServiceUpdate.validate (raw : Changes ℤ) : Option ServiceUpdate :=
  match h : raw.validated? with
  | none => none
  | some changes => some ⟨changes, fun c value => Changes.cleaned_validated h c value⟩

/-! ## Replacing and writing back -/

/-- The value of an attribute after `replace(existing, **changes)`; a null cannot be
written back. -/
def assigned {α : Type} (old : α) : Option (Option α) → Option α
  | none => some old
  | some value => value

def replaced (existing : ServiceModel) (changes : Changes ℕ) : Option ServiceModel := do
  let name ← assigned existing.name changes.name
  let owner ← assigned existing.owner changes.owner
  let status ← assigned existing.status changes.status
  let uptime ← assigned existing.uptime changes.uptime
  let latencyMs ← assigned existing.latencyMs changes.latencyMs
  let description ← assigned existing.description changes.description
  let region ← assigned existing.region changes.region
  let version ← assigned existing.version changes.version
  let lastDeployedAt ← assigned existing.lastDeployedAt changes.lastDeployedAt
  return ⟨name, owner, status, uptime, latencyMs, description, region, version, lastDeployedAt⟩

/-- An UPDATE sets a column if the attribute is no longer what has been loaded. -/
def written {α : Type} [DecidableEq α] (loaded requested latest : α) : α :=
  if requested = loaded then latest else requested

/-- What the UPDATE of `loaded` to `requested` makes of a row that has changed meanwhile. -/
def flushed (loaded requested latest : ServiceModel) : ServiceModel :=
  { name := written loaded.name requested.name latest.name
    owner := written loaded.owner requested.owner latest.owner
    status := written loaded.status requested.status latest.status
    uptime := written loaded.uptime requested.uptime latest.uptime
    latencyMs := written loaded.latencyMs requested.latencyMs latest.latencyMs
    description := written loaded.description requested.description latest.description
    region := written loaded.region requested.region latest.region
    version := written loaded.version requested.version latest.version
    lastDeployedAt := written loaded.lastDeployedAt requested.lastDeployedAt latest.lastDeployedAt }

instance (c : Column) : DecidableEq c.Value :=
  match c with
  | .name | .owner | .uptime | .description | .region | .version =>
    inferInstanceAs (DecidableEq String)
  | .status => inferInstanceAs (DecidableEq ServiceStatus)
  | .latencyMs => inferInstanceAs (DecidableEq ℕ)
  | .lastDeployedAt => inferInstanceAs (DecidableEq ℤ)

/-! ## Column by column -/

theorem get_flushed (loaded requested latest : ServiceModel) (c : Column) :
    (flushed loaded requested latest).get c =
      if requested.get c = loaded.get c then latest.get c else requested.get c := by
  cases c with
  | _ =>
    unfold flushed written ServiceModel.get
    congr

theorem get_replaced {existing row : ServiceModel} {changes : Changes ℕ}
    (h : replaced existing changes = some row) (c : Column) :
    assigned (existing.get c) (changes.get c) = some (row.get c) := by
  unfold replaced at h
  simp only [Option.bind_eq_bind, Option.bind_eq_some_iff] at h
  obtain ⟨name, hname, owner, howner, status, hstatus, uptime, huptime, latencyMs, hlatency,
    description, hdescription, region, hregion, version, hversion, deployed, hdeployed, h⟩ := h
  obtain rfl := Option.some.inj h
  cases c with
  | _ => assumption

theorem get_stored {row row' : ServiceModel} (h : row.stored = some row') (c : Column) :
    c.store (row.get c) = some (row'.get c) := by
  unfold ServiceModel.stored at h
  simp only [Option.bind_eq_bind, Option.bind_eq_some_iff] at h
  obtain ⟨name, hname, owner, howner, uptime, huptime, latencyMs, hlatency, region, hregion,
    version, hversion, h⟩ := h
  obtain rfl := Option.some.inj h
  cases c with
  | status => rfl
  | description => rfl
  | lastDeployedAt => rfl
  | _ => assumption

theorem varchar_eq_some {limit : ℕ} {s s' : String} (h : varchar limit s = some s') :
    s'.length ≤ limit ∧ (s.length ≤ limit → s' = s) := by
  unfold varchar at h
  split at h
  · rename_i hle
    obtain rfl := Option.some.inj h
    exact ⟨hle, fun _ => rfl⟩
  · rename_i hlong
    split at h
    · obtain rfl := Option.some.inj h
      refine ⟨?_, fun hle => absurd hle hlong⟩
      rw [← String.length_toList, String.toList_ofList, List.length_take]
      omega
    · contradiction

/-- What has been stored is stored as it is. -/
theorem varchar_varchar {limit : ℕ} {s s' : String} (h : varchar limit s = some s') :
    varchar limit s' = some s' :=
  if_pos (varchar_eq_some h).1

theorem Column.store_store {c : Column} {value value' : c.Value} (h : c.store value = some value') :
    c.store value' = some value' := by
  cases c with
  | status => rfl
  | description => rfl
  | lastDeployedAt => rfl
  | latencyMs =>
    unfold Column.store at h ⊢
    dsimp only at h ⊢
    split at h
    · rename_i hle
      obtain rfl := Option.some.inj h
      exact if_pos hle
    · contradiction
  | _ => exact varchar_varchar h

/-- A cleaned text is not cut off. -/
theorem varchar_of_cleaned {limit : ℕ} {s s' : String} (hs : Cleaned s)
    (h : varchar limit s = some s') : s' = s := by
  by_cases hle : s.length ≤ limit
  · exact (varchar_eq_some h).2 hle
  · unfold varchar at h
    rw [if_neg hle] at h
    split at h
    · rename_i hspaces
      -- the last character would be a space
      have hlast : s.toList.getLast? = (s.toList.drop limit).getLast? := by
        rw [List.getLast?_drop, String.length_toList, if_neg hle]
      have hne : s.toList.drop limit ≠ [] := by
        rw [ne_eq, List.drop_eq_nil_iff, String.length_toList]
        exact hle
      have hspace := hspaces _ (List.getLast_mem hne)
      have htrimmed := (trimmed_stripped pythonSpace s).2
      rw [hs.1, hlast, List.getLast?_eq_some_getLast hne, hspace] at htrimmed
      exact absurd (htrimmed ' ' rfl) (by decide)
    · contradiction

theorem Column.cleaned_store {c : Column} {value value' : c.Value} (hvalue : c.Cleaned value)
    (h : c.store value = some value') : c.Cleaned value' := by
  cases c with
  | name => rwa [varchar_of_cleaned hvalue h]
  | owner => rwa [varchar_of_cleaned hvalue h]
  | region => rwa [varchar_of_cleaned hvalue h]
  | version => rwa [varchar_of_cleaned hvalue h]
  | _ => trivial

end OpsFlow.Catalog
