import OpsFlow.Gateway.CircuitBreaker
import Mathlib.Algebra.Order.Floor.Defs
import Mathlib.Data.Rat.Floor

namespace OpsFlow.Gateway

/-! ## What one call meets -/

inductive TokenResult
  | issued (token : String)
  | serviceIdentityError
  | otherException (message : String)

/-- What `client.request` does; `requestError` is any `httpx.RequestError` but a timeout. -/
inductive TransportResult
  | response (statusCode : ℕ)
  | timeout
  | requestError
  | otherException (message : String)

structure Attempt where
  token : TokenResult
  transport : TransportResult

/-- What the surroundings of one `_request` do. `headers` is an exception of the code between
the permit and the loop, `sleeper` one of the sleep after the given attempt. -/
structure Surroundings where
  headers : Option String
  attempt : ℕ → Attempt
  sleeper : ℕ → Option String

structure GatewayConfig where
  readMaxAttempts : ℕ
  readBackoffSeconds : ℚ
  attempts_pos : 1 ≤ readMaxAttempts
  backoff_nonneg : 0 ≤ readBackoffSeconds

/-! ## What one call does -/

inductive Effect
  | send (attemptNumber : ℕ)
  | dependencyAttempt (outcome : String)
  | dependencyRetry (reason : String)
  | sleep (seconds : ℚ)
  | circuitSuccess (permit : CircuitPermit)
  | circuitFailure (permit : CircuitPermit)
  deriving DecidableEq

inductive Exit
  | returned (statusCode : ℕ)
  | unavailable (message : String)
  | circuitOpen (retryAfterSeconds : ℤ)
  | runtimeError (message : String)
  | otherException (message : String)
  deriving DecidableEq

/-- The effects in order, the way out, and the outcome label of the operation metric. -/
structure CallResult where
  effects : List Effect
  exit : Exit
  operationOutcome : String

def CallResult.after (es : List Effect) (r : CallResult) : CallResult :=
  { r with effects := es ++ r.effects }

def retryableReadMethods : List String := ["GET", "HEAD", "OPTIONS"]

def retryableResponseStatuses : List ℕ := [502, 503, 504]

def responseOutcome (statusCode : ℕ) : String :=
  if statusCode < 300 then "2xx"
  else if statusCode < 400 then "3xx"
  else if statusCode < 500 then "4xx"
  else "5xx"

def recordCircuitSuccess : Option CircuitPermit → List Effect
  | none => []
  | some permit => [.circuitSuccess permit]

def recordCircuitFailure : Option CircuitPermit → List Effect
  | none => []
  | some permit => [.circuitFailure permit]

/-- The sleeper is not called at all for a delay of zero. -/
def sleepBeforeRetry (cfg : GatewayConfig) (env : Surroundings) (completedAttempts : ℕ) :
    List Effect × Option String :=
  let delaySeconds := cfg.readBackoffSeconds * 2 ^ (completedAttempts - 1)
  if delaySeconds ≤ 0 then ([], none)
  else ([.sleep delaySeconds], env.sleeper completedAttempts)

/-- `_create_service_authorization`: an empty credential is a `ServiceTokenCreationError`. -/
def createServiceAuthorization : TokenResult → TokenResult
  | .issued token => if token = "" then .serviceIdentityError else .issued ("Bearer " ++ token)
  | r => r

/-- The `ServiceIdentityError` handler around the whole loop. -/
def authenticationFailed (permit : Option CircuitPermit) : CallResult :=
  ⟨recordCircuitFailure permit, .unavailable "Incident Service authentication is unavailable.",
    "authentication_error"⟩

def unexpectedError (message : String) : CallResult :=
  ⟨[], .otherException message, "unexpected_error"⟩

def retryWith (cfg : GatewayConfig) (env : Surroundings) (attemptNumber : ℕ) (reason : String)
    (next : CallResult) : CallResult :=
  let slept := sleepBeforeRetry cfg env attemptNumber
  match slept.2 with
  | some message => (unexpectedError message).after (.dependencyRetry reason :: slept.1)
  | none => next.after (.dependencyRetry reason :: slept.1)

/-- The retry loop, with `remaining` of the `maximumAttempts` still to be made. -/
def requestLoop (cfg : GatewayConfig) (env : Surroundings) (permit : Option CircuitPermit)
    (maximumAttempts : ℕ) : ℕ → CallResult
  | 0 => ⟨[], .runtimeError "Incident Service retry loop exited unexpectedly.",
      "unexpected_error"⟩
  | remaining + 1 =>
    let attemptNumber := maximumAttempts - remaining
    let retry (reason : String) : CallResult :=
      retryWith cfg env attemptNumber reason
        (requestLoop cfg env permit maximumAttempts remaining)
    match createServiceAuthorization (env.attempt attemptNumber).token with
    | .serviceIdentityError => authenticationFailed permit
    | .otherException message => unexpectedError message
    | .issued _ =>
      CallResult.after [.send attemptNumber] <|
      match (env.attempt attemptNumber).transport with
      | .otherException message => unexpectedError message
      | .timeout =>
        CallResult.after [.dependencyAttempt "timeout"] <|
        if maximumAttempts ≤ attemptNumber then
          ⟨recordCircuitFailure permit, .unavailable "Incident Service request timed out.",
            "timeout"⟩
        else retry "timeout"
      | .requestError =>
        CallResult.after [.dependencyAttempt "transport_error"] <|
        if maximumAttempts ≤ attemptNumber then
          ⟨recordCircuitFailure permit, .unavailable "Incident Service is unavailable.",
            "transport_error"⟩
        else retry "transport_error"
      | .response statusCode =>
        CallResult.after [.dependencyAttempt (responseOutcome statusCode)] <|
        if statusCode ∈ retryableResponseStatuses ∧ attemptNumber < maximumAttempts then
          retry "retryable_status"
        else
          ⟨if 500 ≤ statusCode then recordCircuitFailure permit else recordCircuitSuccess permit,
            .returned statusCode, responseOutcome statusCode⟩

def maximumAttempts (cfg : GatewayConfig) (method : String) (permit : Option CircuitPermit) : ℕ :=
  let maximum := if method.toUpper ∈ retryableReadMethods then cfg.readMaxAttempts else 1
  match permit with
  | some p => if p.isHalfOpenProbe then 1 else maximum
  | none => maximum

/-- `_request` from the answer of the breaker on; `none` stands for a gateway without one. -/
def request (cfg : GatewayConfig) (method : String) (env : Surroundings) :
    Except CircuitOpenError (Option CircuitPermit) → CallResult
  | .error e => ⟨[], .circuitOpen (max 1 ⌈e.retryAfterSeconds⌉), "circuit_open"⟩
  | .ok permit =>
    match env.headers with
    | some message => unexpectedError message
    | none =>
      let maximum := maximumAttempts cfg method permit
      requestLoop cfg env permit maximum maximum

theorem maximumAttempts_pos (cfg : GatewayConfig) (method : String)
    (permit : Option CircuitPermit) : 1 ≤ maximumAttempts cfg method permit := by
  have h := cfg.attempts_pos
  unfold maximumAttempts
  cases permit with
  | none => dsimp only; split_ifs <;> omega
  | some p => dsimp only; split_ifs <;> omega

end OpsFlow.Gateway
