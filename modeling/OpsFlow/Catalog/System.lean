import OpsFlow.Catalog.Services
import OpsFlow.Library.Constraints
import OpsFlow.Library.Transition

namespace OpsFlow.Catalog
open RowStore

/-! ## What a request is after -/

inductive Goal
  | update (payload : ServiceUpdate)
  | delete

inductive Request
  | create (payload : ServiceCreate)
  | existing (serviceId : Uuid) (goal : Goal)

def Goal.permission : Goal → Permission
  | .update _ => .serviceUpdate
  | .delete => .serviceDelete

def Request.permission : Request → Permission
  | .create _ => .serviceCreate
  | .existing _ goal => goal.permission

/-- `update_service` and `delete_service` from their first SELECT on; `since` is the number of
changes that had been committed then. -/
structure Reading where
  caller : Uuid
  serviceId : Uuid
  goal : Goal
  since : ℕ
  first : ServiceModel

/-- What the repository has loaded before it writes; `upTo` is the number of changes that had been
committed when the last row was read. -/
structure Plan extends Reading where
  firstDependencies : List String
  loaded : ServiceModel
  loadedDependencies : List String
  upTo : ℕ

namespace Plan

/-- The values that the attributes get, unless there is a null among them. -/
def requested (plan : Plan) (payload : ServiceUpdate) : Option ServiceModel :=
  replaced plan.first payload.toChanges

def requestedDependencies (plan : Plan) (payload : ServiceUpdate) : Option (List String) :=
  assigned plan.firstDependencies payload.dependencies

/-- What is inserted: an object with the key of one that is removed takes its place. -/
def additions (plan : Plan) (requested : List String) : List String :=
  requested.filter fun name => name ∉ plan.loadedDependencies

def removals (plan : Plan) (requested : List String) : List String :=
  plan.loadedDependencies.filter fun name => name ∉ requested

end Plan

inductive Change
  | created (caller id : Uuid) (payload : ServiceCreate)
  | updated (plan : Plan) (payload : ServiceUpdate)
  | deleted (plan : Plan)

def Change.serviceId : Change → Uuid
  | .created _ id _ => id
  | .updated plan _ | .deleted plan => plan.serviceId

def Change.caller : Change → Uuid
  | .created caller _ _ => caller
  | .updated plan _ | .deleted plan => plan.caller

def Change.permission : Change → Permission
  | .created _ _ _ => .serviceCreate
  | .updated _ _ => .serviceUpdate
  | .deleted _ => .serviceDelete

def Change.status : Change → ℕ
  | .created _ _ _ => 201
  | .updated _ _ => 200
  | .deleted _ => 204

structure Links where
  additions : List String
  removals : List String

inductive Answer
  | success (status : ℕ)
  | refused (error : HttpException)
  | internalServerError

/-- How far a request or a script has come; it is one transaction. `todo` are the rows of the
dependencies that are still to be written. -/
inductive Tx
  | idle
  | permitted (caller : Uuid) (request : Request)
  | nameFree (caller : Uuid) (payload : ServiceCreate)
  | found (r : Reading)
  | read (r : Reading) (dependencies : List String)
  | distinct (r : Reading) (dependencies : List String)
  | again (r : Reading) (dependencies : List String) (loaded : ServiceModel)
  | loaded (plan : Plan)
  | linking (change : Change) (links : Links) (todo : List String)
  | unlinking (change : Change) (links : Links) (todo : List String)
  | deleting (plan : Plan)
  | cascading (plan : Plan)
  | done (change : Change) (links : Links)
  | signingUp (account : Account)
  | recovering (userId : Uuid) (loaded : Account) (hashedPassword : String)
  | stored
  | ended (answer : Answer)

def Tx.inProgress : Tx → Prop
  | .idle | .ended _ => False
  | _ => True

/-! ## The checks between the statements -/

def serviceNotFound (serviceId : Uuid) : HttpException :=
  ⟨404, "Service " ++ serviceId.str ++ " was not found."⟩

def createNameConflict (name : String) : HttpException :=
  ⟨409, "A service named '" ++ name ++ "' already exists."⟩

def updateNameConflict (name : String) : HttpException :=
  ⟨409, "A service named \"" ++ name ++ "\" already exists."⟩

/-- Whom the caller is, and that the route is open to them. -/
def permit (accounts : Uuid → Option Account) (token : Option Uuid) (permission : Permission) :
    Except HttpException (Uuid × Account) := do
  permissionDependency permission (← getCurrentUser accounts token)

def checkNewName (payload : ServiceCreate) (existing : Option Uuid) : Except HttpException Unit :=
  if existing = none then .ok () else .error (createNameConflict payload.row.name)

/-- `update_service`, after `get_by_name`; a name that is null names no service. -/
def checkOtherName (serviceId : Uuid) (name : Option String) (existing : Option Uuid) :
    Except HttpException Unit :=
  match existing with
  | none => .ok ()
  | some id => if id = serviceId then .ok () else .error (updateNameConflict (name.getD ""))

/-! ## Users -/

def createUser (sec : Auth.Security) (email fullName hashedPassword : String) (role : UserRole) :
    Account :=
  { email := sec.normalizeEmail email
    isActive := true
    hashedPassword := hashedPassword
    fullName := stripped pythonSpace fullName
    role := role }

/-- `register_account`: what stands before the first `@` is the name. -/
def registerAccount (sec : Auth.Security) (email hashedPassword : String) : Account :=
  let normalizedEmail := sec.normalizeEmail email
  let localPart := stripped pythonSpace
    (String.ofList (normalizedEmail.toList.takeWhile (· ≠ '@')))
  let displayName := if localPart = "" then "OpsFlow User" else
    String.ofList (localPart.toList.take 120)
  createUser sec normalizedEmail displayName hashedPassword .viewer

/-- The script makes an administrator of the address that was typed in. -/
def recoveryEmail (sec : Auth.Security) (typed : String) : String :=
  if stripped pythonSpace typed = "" then sec.normalizeEmail "admin@example.com"
  else sec.normalizeEmail typed

def Account.Fits (account : Account) : Prop :=
  account.email.length ≤ 320 ∧ account.fullName.length ≤ 120 ∧ account.hashedPassword.length ≤ 255

/-- What the UPDATE of `recover_admin` makes of a row that has changed since it was loaded. -/
def recovered (loaded latest : Account) (hashedPassword : String) : Account :=
  { latest with
    hashedPassword := hashedPassword
    role := written loaded.role .admin latest.role
    isActive := written loaded.isActive true latest.isActive }

/-! ## The database and the requests over it -/

/-- `log` is what has been committed to the catalog, in this order, and `scripts` the roles that
operators have given out by a script, to which addresses. -/
structure State (τ : Type) where
  accounts : Table τ Uuid Account
  services : Table τ Uuid ServiceModel
  dependencies : Table τ (Uuid × String) Unit
  txs : τ → Tx
  log : List Change
  scripts : List (String × UserRole)

variable {τ : Type} [DecidableEq τ]

namespace State

def advance (s : State τ) (t : τ) (x : Tx) : State τ :=
  { s with txs := Function.update s.txs t x }

def commit (s : State τ) (t : τ) (changes : List Change) (answer : Answer) : State τ :=
  { s with
    accounts := s.accounts.commit t
    services := s.services.commit t
    dependencies := s.dependencies.commit t
    txs := Function.update s.txs t (.ended answer)
    log := s.log ++ changes }

def rollback (s : State τ) (t : τ) (answer : Answer) : State τ :=
  { s with
    accounts := s.accounts.rollback t
    services := s.services.rollback t
    dependencies := s.dependencies.rollback t
    txs := Function.update s.txs t (.ended answer) }

def FindsName (s : State τ) (t : τ) (name : Option String) : Option Uuid → Prop
  | none => ∀ id row, s.services.view t id = some row → some row.name ≠ name
  | some id => ∃ row, s.services.view t id = some row ∧ some row.name = name

def FindsEmail (s : State τ) (t : τ) (email : String) : Option (Uuid × Account) → Prop
  | none => ∀ userId account, s.accounts.view t userId = some account → account.email ≠ email
  | some (userId, account) => s.accounts.view t userId = some account ∧ account.email = email

def Lists (s : State τ) (t : τ) (serviceId : Uuid) (names : List String) : Prop :=
  ∀ name, name ∈ names ↔ s.dependencies.view t (serviceId, name) ≠ none

end State

def Change.unlinked (change : Change) (links : Links) : Tx :=
  match change with
  | .created _ _ _ | .updated _ _ => .done change links
  | .deleted plan => .deleting plan

/-- One statement of a transaction, with the checks that follow it, or the end of one. A statement
on a row that another transaction holds waits. -/
inductive Step (sec : Auth.Security) : State τ → τ → State τ → Prop
  | permit {s : State τ} {t : τ} {token : Option Uuid} {request : Request} {user : Uuid × Account} :
      s.txs t = .idle → permit (s.accounts.view t) token request.permission = .ok user →
      Step sec s t (s.advance t (.permitted user.1 request))
  | deny {s : State τ} {t : τ} {token : Option Uuid} {request : Request} {error : HttpException} :
      s.txs t = .idle → Catalog.permit (s.accounts.view t) token request.permission = .error error →
      Step sec s t (s.rollback t (.refused error))
  -- `create_service`
  | checkNewName {s : State τ} {t : τ} {caller : Uuid} {payload : ServiceCreate}
      {existing : Option Uuid} :
      s.txs t = .permitted caller (.create payload) →
      s.FindsName t (some payload.row.name) existing → checkNewName payload existing = .ok () →
      Step sec s t (s.advance t (.nameFree caller payload))
  | nameTaken {s : State τ} {t : τ} {caller : Uuid} {payload : ServiceCreate}
      {existing : Option Uuid} {error : HttpException} :
      s.txs t = .permitted caller (.create payload) →
      s.FindsName t (some payload.row.name) existing →
      Catalog.checkNewName payload existing = .error error →
      Step sec s t (s.rollback t (.refused error))
  | insertService {s : State τ} {t : τ} {caller id : Uuid} {payload : ServiceCreate}
      {row : ServiceModel} {additions : List String} :
      s.txs t = .nameFree caller payload → payload.row.stored = some row →
      payload.dependencies.mapM storeDependency = some additions →
      s.services.committed id = none → s.services.holder id = none →
      (∀ k other, s.services.Version k other → other.name = row.name → k = id) →
      Step sec s t (State.advance { s with services := s.services.write t id (some row) } t
        (.linking (.created caller id payload) ⟨additions, []⟩ additions))
  -- `update_service` and `delete_service`
  | findService {s : State τ} {t : τ} {caller serviceId : Uuid} {goal : Goal} {row : ServiceModel} :
      s.txs t = .permitted caller (.existing serviceId goal) →
      s.services.view t serviceId = some row →
      Step sec s t (s.advance t (.found ⟨caller, serviceId, goal, s.log.length, row⟩))
  | notFound {s : State τ} {t : τ} {caller serviceId : Uuid} {goal : Goal} :
      s.txs t = .permitted caller (.existing serviceId goal) →
      s.services.view t serviceId = none →
      Step sec s t (s.rollback t (.refused (serviceNotFound serviceId)))
  | readDependencies {s : State τ} {t : τ} {r : Reading} {names : List String} :
      s.txs t = .found r → s.Lists t r.serviceId names →
      Step sec s t (s.advance t (.read r names))
  | checkOtherName {s : State τ} {t : τ} {r : Reading} {names : List String}
      {payload : ServiceUpdate} {existing : Option Uuid} :
      s.txs t = .read r names → r.goal = .update payload →
      (∀ name, payload.name = some name → s.FindsName t name existing ∧
        checkOtherName r.serviceId name existing = .ok ()) →
      Step sec s t (s.advance t (.distinct r names))
  | otherNameTaken {s : State τ} {t : τ} {r : Reading} {names : List String}
      {payload : ServiceUpdate} {name : Option String} {existing : Option Uuid}
      {error : HttpException} :
      s.txs t = .read r names → r.goal = .update payload → payload.name = some name →
      s.FindsName t name existing →
        Catalog.checkOtherName r.serviceId name existing = .error error →
      Step sec s t (s.rollback t (.refused error))
  | checkNothing {s : State τ} {t : τ} {r : Reading} {names : List String} :
      s.txs t = .read r names → r.goal = .delete →
      Step sec s t (s.advance t (.distinct r names))
  | findAgain {s : State τ} {t : τ} {r : Reading} {names : List String} {row : ServiceModel} :
      s.txs t = .distinct r names → s.services.view t r.serviceId = some row →
      Step sec s t (s.advance t (.again r names row))
  /-- The repository raises a `LookupError` for an update, and returns for a deletion. -/
  | vanished {s : State τ} {t : τ} {r : Reading} {names : List String} :
      s.txs t = .distinct r names → s.services.view t r.serviceId = none →
      Step sec s t (s.rollback t
        (match r.goal with
          | .update _ => .internalServerError
          | .delete => .success 204))
  | readAgain {s : State τ} {t : τ} {r : Reading} {names loadedNames : List String}
      {row : ServiceModel} :
      s.txs t = .again r names row → s.Lists t r.serviceId loadedNames →
      Step sec s t (s.advance t (.loaded ⟨r, names, row, loadedNames, s.log.length⟩))
  -- the flush
  | updateService {s : State τ} {t : τ} {plan : Plan} {payload : ServiceUpdate}
      {requested latest row : ServiceModel} {requestedNames additions : List String} :
      s.txs t = .loaded plan → plan.goal = .update payload →
      plan.requested payload = some requested → requested ≠ plan.loaded →
      plan.requestedDependencies payload = some requestedNames →
      (plan.additions requestedNames).mapM storeDependency = some additions →
      s.services.Free t plan.serviceId → s.services.view t plan.serviceId = some latest →
      (flushed plan.loaded requested latest).stored = some row →
      (∀ k other, s.services.Version k other → other.name = row.name → k = plan.serviceId) →
      Step sec s t (State.advance
        { s with services := s.services.write t plan.serviceId (some row) } t
        (.linking (.updated plan payload) ⟨additions, plan.removals requestedNames⟩ additions))
  | keepService {s : State τ} {t : τ} {plan : Plan} {payload : ServiceUpdate}
      {requestedNames additions : List String} :
      s.txs t = .loaded plan → plan.goal = .update payload →
      plan.requested payload = some plan.loaded →
      plan.requestedDependencies payload = some requestedNames →
      (plan.additions requestedNames).mapM storeDependency = some additions →
      Step sec s t (s.advance t
        (.linking (.updated plan payload) ⟨additions, plan.removals requestedNames⟩ additions))
  | linkDependency {s : State τ} {t : τ} {change : Change} {links : Links} {name : String}
      {todo : List String} :
      s.txs t = .linking change links (name :: todo) →
      s.dependencies.Free t (change.serviceId, name) →
      (∀ row, ¬ s.dependencies.Version (change.serviceId, name) row) →
      s.services.view t change.serviceId ≠ none → s.services.Stays change.serviceId →
      Step sec s t (State.advance
        { s with dependencies := s.dependencies.write t (change.serviceId, name) (some ()) } t
        (.linking change links todo))
  | linked {s : State τ} {t : τ} {change : Change} {links : Links} :
      s.txs t = .linking change links [] →
      Step sec s t (s.advance t (.unlinking change links links.removals))
  | deleteDependencies {s : State τ} {t : τ} {plan : Plan} :
      s.txs t = .loaded plan → plan.goal = .delete →
      Step sec s t (s.advance t
        (.unlinking (.deleted plan) ⟨[], plan.loadedDependencies⟩ plan.loadedDependencies))
  | unlinkDependency {s : State τ} {t : τ} {change : Change} {links : Links} {name : String}
      {todo : List String} :
      s.txs t = .unlinking change links (name :: todo) →
      s.dependencies.Free t (change.serviceId, name) →
      s.dependencies.view t (change.serviceId, name) = some () →
      Step sec s t (State.advance
        { s with dependencies := s.dependencies.write t (change.serviceId, name) none } t
        (.unlinking change links todo))
  | passDependency {s : State τ} {t : τ} {change : Change} {links : Links} {name : String}
      {todo : List String} :
      s.txs t = .unlinking change links (name :: todo) →
      s.dependencies.Free t (change.serviceId, name) →
      s.dependencies.view t (change.serviceId, name) = none →
      Step sec s t (s.advance t (.unlinking change links todo))
  | unlinked {s : State τ} {t : τ} {change : Change} {links : Links} :
      s.txs t = .unlinking change links [] →
      Step sec s t (s.advance t (change.unlinked links))
  | deleteService {s : State τ} {t : τ} {plan : Plan} {row : ServiceModel} :
      s.txs t = .deleting plan → s.services.Free t plan.serviceId →
      s.services.view t plan.serviceId = some row →
      (∀ name t', s.dependencies.holder (plan.serviceId, name) = some t' →
        s.dependencies.pending (plan.serviceId, name) = none) →
      Step sec s t (State.advance
        { s with services := s.services.write t plan.serviceId none } t (.cascading plan))
  | deleteNothing {s : State τ} {t : τ} {plan : Plan} :
      s.txs t = .deleting plan → s.services.Free t plan.serviceId →
      s.services.view t plan.serviceId = none →
      Step sec s t (s.advance t (.done (.deleted plan) ⟨[], []⟩))
  | cascade {s : State τ} {t : τ} {plan : Plan} {name : String} :
      s.txs t = .cascading plan → s.dependencies.Free t (plan.serviceId, name) →
      s.dependencies.view t (plan.serviceId, name) = some () →
      Step sec s t (State.advance
        { s with dependencies := s.dependencies.write t (plan.serviceId, name) none } t
        (.cascading plan))
  | cascaded {s : State τ} {t : τ} {plan : Plan} :
      s.txs t = .cascading plan → s.Lists t plan.serviceId [] →
      Step sec s t (s.advance t (.done (.deleted plan) ⟨[], []⟩))
  -- users
  | register {s : State τ} {t : τ} {email hashedPassword : String} :
      s.txs t = .idle → s.FindsEmail t (registerAccount sec email hashedPassword).email none →
      Step sec s t (s.advance t (.signingUp (registerAccount sec email hashedPassword)))
  | createUser {s : State τ} {t : τ} {email fullName hashedPassword : String} {role : UserRole} :
      s.txs t = .idle →
        s.FindsEmail t (createUser sec email fullName hashedPassword role).email none →
      Step sec s t (State.advance
        { s with scripts := s.scripts ++ [(sec.normalizeEmail email, role)] } t
        (.signingUp (createUser sec email fullName hashedPassword role)))
  | createAdmin {s : State τ} {t : τ} {typed hashedPassword : String} {account : Account} :
      s.txs t = .idle → s.FindsEmail t (recoveryEmail sec typed) none →
      account = Catalog.createUser sec (recoveryEmail sec typed) "OpsFlow Administrator"
        hashedPassword .admin →
      s.FindsEmail t account.email none →
      Step sec s t (State.advance { s with scripts := s.scripts ++ [(account.email, .admin)] } t
        (.signingUp account))
  | findAdmin {s : State τ} {t : τ} {typed hashedPassword : String} {userId : Uuid}
      {account : Account} :
      s.txs t = .idle → s.FindsEmail t (recoveryEmail sec typed) (some (userId, account)) →
      Step sec s t (State.advance
        { s with scripts := s.scripts ++ [(recoveryEmail sec typed, .admin)] } t
        (.recovering userId account hashedPassword))
  | insertAccount {s : State τ} {t : τ} {userId : Uuid} {account : Account} :
      s.txs t = .signingUp account → account.Fits →
      s.accounts.committed userId = none → s.accounts.holder userId = none →
      (∀ k other, s.accounts.Version k other → other.email = account.email → k = userId) →
      Step sec s t (State.advance
        { s with accounts := s.accounts.write t userId (some account) } t .stored)
  | recover {s : State τ} {t : τ} {userId : Uuid} {loaded latest : Account}
      {hashedPassword : String} :
      s.txs t = .recovering userId loaded hashedPassword → s.accounts.Free t userId →
      s.accounts.view t userId = some latest →
      Step sec s t (State.advance
        { s with
          accounts := s.accounts.write t userId (some (recovered loaded latest hashedPassword)) } t
        .stored)
  /-- `update_password_hash_if_current`. -/
  | replacePassword {s : State τ} {t : τ} {userId : Uuid} {latest : Account}
      {hashedPassword : String} :
      s.txs t = .idle → s.accounts.Free t userId → s.accounts.view t userId = some latest →
      Step sec s t (State.advance
        { s with
          accounts := s.accounts.write t userId
            (some { latest with hashedPassword := hashedPassword }) } t
        .stored)
  -- the end of a transaction
  | commitChange {s : State τ} {t : τ} {change : Change} {links : Links} :
      s.txs t = .done change links → Step sec s t (s.commit t [change] (.success change.status))
  | commitAccount {s : State τ} {t : τ} {status : ℕ} :
      s.txs t = .stored → Step sec s t (s.commit t [] (.success status))
  /-- A constraint is violated, a row is gone that was to be updated, or the like. -/
  | fail {s : State τ} {t : τ} : (s.txs t).inProgress →
    Step sec s t (s.rollback t .internalServerError)

end OpsFlow.Catalog
