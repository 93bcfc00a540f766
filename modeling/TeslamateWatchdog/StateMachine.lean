/-
The failure-state machine and the allowlist that governs restarts.  A single
bad check never changes state: failures and recoveries are counted, and only
a stopped container skips the counting.
-/
import Mathlib.Data.List.Basic
import TeslamateWatchdog.Config
import TeslamateWatchdog.Foundation.PyText

namespace TeslamateWatchdog

open Foundation

inductive State where
  | starting
  | healthy
  | loggedOut
  | loggerUnhealthy
  | teslamateUnreachable
  | databaseUnhealthy
  | authRefreshFailed
  | recovering
  | manualInterventionRequired
deriving Repr, DecidableEq

/-- The value of the Python enumeration member. -/
def State.value : State → String
  | .starting => "STARTING"
  | .healthy => "HEALTHY"
  | .loggedOut => "LOGGED_OUT"
  | .loggerUnhealthy => "LOGGER_UNHEALTHY"
  | .teslamateUnreachable => "TESLAMATE_UNREACHABLE"
  | .databaseUnhealthy => "DATABASE_UNHEALTHY"
  | .authRefreshFailed => "AUTH_REFRESH_FAILED"
  | .recovering => "RECOVERING"
  | .manualInterventionRequired => "MANUAL_INTERVENTION_REQUIRED"

/-- The only states a restart may ever be attempted from. -/
def restartAllowedStates : List State :=
  [.loggerUnhealthy, .teslamateUnreachable, .loggedOut]

/-- States whose restart needs Tesla's auth host to be reachable first. -/
def restartNeedsTeslaAuth : List State := [.loggedOut]

def restartForbiddenStates : List State :=
  [.authRefreshFailed, .databaseUnhealthy]

/-- States that mean "something is wrong". -/
def failureStates : List State :=
  [.loggedOut, .loggerUnhealthy, .teslamateUnreachable, .databaseUnhealthy,
    .authRefreshFailed, .manualInterventionRequired]

/-- States where the fix is "a human pastes fresh tokens into the UI". -/
def authStates : List State := [.loggedOut, .authRefreshFailed]

def restartAllowedForState (state : State) : Bool :=
  state ∈ restartAllowedStates

/-- The assertion the module makes when it is imported. -/
theorem restartAllowedStates_disjoint_forbidden :
    ∀ state ∈ restartAllowedStates, state ∉ restartForbiddenStates := by
  decide

theorem mem_failureStates_of_restartable {state : State}
    (hrestartable : restartAllowedForState state = true) :
    state ∈ failureStates := by
  revert hrestartable
  cases state <;> decide

inductive HttpCategory where
  | authenticated
  | loggedOut
  | unreachable
  | applicationError
  | unknown
deriving Repr, DecidableEq

structure HttpResult where
  category : HttpCategory
  statusCode : Option Nat := none
  redirectTarget : Option String := none
  elapsedMs : Option Nat := none
  error : Option String := none
  detail : Option String := none
  checkedAt : String := ""
deriving Repr, DecidableEq

/-- What the TeslaMate container logs indicate.  `refreshSuccess` and
`databaseFailure` never feed the state decision. -/
structure LogSignals where
  authRefreshFailing : Bool := false
  authLost : Bool := false
  databaseFailure : Bool := false
  tokenDecryptionFailure : Bool := false
  refreshSuccess : Bool := false
  categoryMatches : List (String × Nat) := []
deriving Repr, DecidableEq

/-- Everything one check cycle learned.  `none` means "not known". -/
structure Observation where
  http : HttpResult
  loggerHealthy : Option Bool := none
  loggerStale : Bool := false
  loggerDetail : String := ""
  databaseHealthy : Option Bool := none
  teslamateContainerRunning : Option Bool := none
  logSignals : Option LogSignals := none
deriving Repr, DecidableEq

structure Evaluation where
  state : State
  reason : String
  /-- Skip confirmation counting: the evidence is unambiguous. -/
  immediate : Bool := false
  /-- The check told us nothing usable; hold position and count nothing. -/
  inconclusive : Bool := false
deriving Repr, DecidableEq

structure Transition where
  previous : State
  current : State
  reason : String
deriving Repr, DecidableEq

def Observation.tokenDecryptionFailure (observation : Observation) : Bool :=
  observation.logSignals.any (·.tokenDecryptionFailure)

def Observation.authRefreshFailingOrLost (observation : Observation) : Bool :=
  observation.logSignals.any fun signals =>
    signals.authRefreshFailing || signals.authLost

/-- Map one observation to a candidate state.  First match wins.  A stopped
container is not a judgement call; a decryption failure needs a human, never a
restart, hence an auth state; an unknown page is evidence of neither health nor
failure. -/
def evaluate (observation : Observation) : Evaluation :=
  if observation.databaseHealthy = some false then
    { state := .databaseUnhealthy, reason := "database reported unhealthy" }
  else if observation.teslamateContainerRunning = some false then
    { state := .teslamateUnreachable
      reason := "teslamate container is not running"
      immediate := true }
  else if observation.http.category = .loggedOut then
    { state := .loggedOut
      reason := "sign-in page detected (" ++
        PyText.orNone observation.http.detail ++ ")" }
  else if observation.http.category = .unreachable then
    { state := .teslamateUnreachable
      reason := "http unreachable (" ++
        PyText.orNone observation.http.error ++ ")" }
  else if observation.http.category = .applicationError then
    { state := .teslamateUnreachable
      reason := "http " ++
        PyText.orNone (observation.http.statusCode.map toString) ++
        " server error" }
  else if observation.tokenDecryptionFailure then
    { state := .authRefreshFailed
      reason := "logs show API tokens could not be decrypted" }
  else if observation.authRefreshFailingOrLost then
    { state := .authRefreshFailed
      reason := "logs show repeated token-refresh failure" }
  else if observation.loggerHealthy = some false then
    { state := .loggerUnhealthy
      reason := "vehicle logger reports unhealthy (" ++
        observation.loggerDetail ++ ")" }
  else if observation.loggerStale then
    { state := .loggerUnhealthy
      reason := "vehicle logger stale (" ++ observation.loggerDetail ++ ")" }
  else if observation.http.category ≠ .authenticated then
    { state := .healthy
      reason := "inconclusive http result (" ++
        PyText.orNone observation.http.detail ++ ")"
      inconclusive := true }
  else
    { state := .healthy, reason := "all checks passing" }

structure StateMachine where
  state : State
  reason : String
  candidate : Option State
  candidateStreak : Nat
  healthyStreak : Nat
  lastEvaluation : Option Evaluation
deriving Repr, DecidableEq

namespace StateMachine

/-- `StateMachine(config, initial=state)`. -/
def initial (state : State) : StateMachine where
  state := state
  reason := "watchdog starting"
  candidate := none
  candidateStreak := 0
  healthyStreak := 0
  lastEvaluation := none

/-- Move to the evaluated state, and say so. -/
def enter (machine : StateMachine) (evaluation : Evaluation) :
    Option Transition × StateMachine :=
  (some ⟨machine.state, evaluation.state, evaluation.reason⟩,
    { machine with state := evaluation.state, reason := evaluation.reason })

/-- The counters after a healthy check. -/
def countHealthy (machine : StateMachine) : StateMachine :=
  { machine with
    healthyStreak := machine.healthyStreak + 1
    candidate := none
    candidateStreak := 0 }

/-- The counters after a check that says `state` is the failure. -/
def countFailure (machine : StateMachine) (state : State) : StateMachine :=
  { machine with
    healthyStreak := 0
    candidate := some state
    candidateStreak :=
      if machine.candidate = some state then machine.candidateStreak + 1
      else 1 }

/-- How many agreeing checks confirm a failure. -/
def required (config : Config) (state : State) : Nat :=
  if state = .loggerUnhealthy then config.loggerUnhealthyConfirmationCount
  else config.failureConfirmationCount

/-- `_observe_healthy`. -/
def observeHealthy (config : Config) (machine : StateMachine)
    (evaluation : Evaluation) : Option Transition × StateMachine :=
  let counted := machine.countHealthy
  if machine.state = .healthy then (none, counted)
  else if counted.healthyStreak < config.recoveryConfirmationCount then
    (none, counted)
  else counted.enter evaluation

/-- `_observe_failure`. -/
def observeFailure (config : Config) (machine : StateMachine)
    (evaluation : Evaluation) : Option Transition × StateMachine :=
  let counted := machine.countFailure evaluation.state
  let confirmed := evaluation.immediate ||
    decide (required config evaluation.state ≤ counted.candidateStreak)
  if !confirmed || machine.state = evaluation.state then (none, counted)
  else counted.enter evaluation

/-- Keep the evaluation as the last one. -/
def see (machine : StateMachine) (evaluation : Evaluation) : StateMachine :=
  { machine with lastEvaluation := some evaluation }

/-- Feed one check cycle in.  Returns a transition only when the state
changed.  The recovery controller owns the exit from RECOVERING. -/
def step (config : Config) (machine : StateMachine)
    (observation : Observation) : Option Transition × StateMachine :=
  if machine.state = .recovering then
    (none, machine)
  else
    let evaluation := evaluate observation
    let seen := machine.see evaluation
    if evaluation.inconclusive then (none, seen)
    else if evaluation.state = .healthy then
      observeHealthy config seen evaluation
    else observeFailure config seen evaluation

/-- Set the state directly. -/
def forceState (machine : StateMachine) (state : State) (reason : String) :
    Transition × StateMachine :=
  (⟨machine.state, state, reason⟩,
    { machine with
      state := state
      reason := reason
      candidate := none
      candidateStreak := 0
      healthyStreak := 0 })

end StateMachine

end TeslamateWatchdog
