/-
The watchdog's own objects, what it does to the world outside, and what the
world answers in one check cycle.  A method is a computation on the objects
that may raise; what it did before raising stays done.
-/
import TeslamateWatchdog.DockerClient
import TeslamateWatchdog.LogClassifier
import TeslamateWatchdog.RestartManager

namespace TeslamateWatchdog

open Foundation

/-- What `WatchdogMqtt.logger_health` says, as far as a check reads it. -/
structure LoggerHealth where
  healthy : Option Bool
  stale : Bool
  detail : String
deriving Repr, DecidableEq

/-- The `docker_state` dictionary of a check. -/
structure DockerState where
  teslamate : Json
  database : Json
  logClassification : Option Classification := none
deriving Repr

/-- The fields failure events have in common. -/
structure FailureReport where
  state : State
  previousState : State
  reason : String
  observation : Observation
deriving Repr, DecidableEq

/-- A written incident bundle. -/
structure Incident where
  directory : String
  summary : String
deriving Repr, DecidableEq

/-- The JSON events, with their payloads. -/
inductive Event where
  | failureDetected (report : FailureReport)
  | authenticationRequired (report : FailureReport)
      (actionRequired teslamateUrl : String) (autoRestart : Bool)
  | databaseUnhealthy (report : FailureReport) (actionRequired : String)
  | diagnosticsCaptured (state : State) (reason : String) (incident : Incident)
  | recoveryStarted (state : State) (reason container : String)
      (waitSeconds : Nat)
  | restartExecuted (state : State) (success : Bool)
      (detail container : String)
  | recovered (recoveredFrom : State) (reason : String)
      (restartCount24h : Nat)
  | manualInterventionRequired (recoveredFrom : Option State)
      (reason actionRequired : String) (restartCount24h : Option Nat)
deriving Repr, DecidableEq

/-- What is handed to `DiagnosticsWriter.capture`. -/
structure CaptureRequest where
  state : State
  reason : String
  observation : Observation
  restartCount24h : Nat
  lastRestart : Option String
  restartAttempted : Bool
  teslamateLog : String
  databaseLog : String
  dockerState : Option DockerState
deriving Repr

/-- The trace of a cycle: the observation it gathered, its calls on the state
machine, what it published, its requests to the engine, and the restarts it put
on record. -/
inductive Effect where
  | observed (observation : Observation)
  | stepped (observation : Observation)
  | forced (state : State) (reason : String)
  | event (event : Event)
  | status (values : List (String × String))
  | captured (request : CaptureRequest)
  | restartCalled (container : String)
  | posted (id : Json) (outcome : PostOutcome) (time : ℚ)
  | recorded (state : State) (time : ℚ)
deriving Repr

inductive RecoveryStatus where
  | idle
  | waitingAfterRestart
  | confirmingRecovery
  | recovered
  | manualInterventionRequired
deriving Repr, DecidableEq

def RecoveryStatus.value : RecoveryStatus → String
  | .idle => "idle"
  | .waitingAfterRestart => "waiting_after_restart"
  | .confirmingRecovery => "confirming_recovery"
  | .recovered => "recovered"
  | .manualInterventionRequired => "manual_intervention_required"

/-- `_Progress`. -/
structure Progress where
  triggerState : State
  reason : String
  deadline : ℚ
  healthyStreak : Nat := 0
  failureStreak : Nat := 0
deriving Repr, DecidableEq

/-- A healthy check after the wait. -/
def Progress.countHealthy (progress : Progress) : Progress :=
  { progress with
    healthyStreak := progress.healthyStreak + 1
    failureStreak := 0 }

/-- A failing check after the wait. -/
def Progress.countFailure (progress : Progress) : Progress :=
  { progress with
    failureStreak := progress.failureStreak + 1
    healthyStreak := 0 }

/-- The recovery controller's own fields. -/
structure RecoveryController where
  progress : Option Progress
  status : RecoveryStatus
deriving Repr, DecidableEq

def RecoveryController.initial : RecoveryController := ⟨none, .idle⟩

def RecoveryController.active (recovery : RecoveryController) : Bool :=
  recovery.progress.isSome

theorem RecoveryController.active_of_some {recovery : RecoveryController}
    {progress : Progress} (hprogress : recovery.progress = some progress) :
    recovery.active = true := by
  rw [RecoveryController.active, hprogress]
  rfl

theorem RecoveryController.active_of_none {recovery : RecoveryController}
    (hprogress : recovery.progress = none) : recovery.active = false := by
  rw [RecoveryController.active, hprogress]
  rfl

/-- Everything one check cycle mutates, and the trace of the cycle so far. -/
structure Watchdog where
  machine : StateMachine
  restarts : RestartManager
  recovery : RecoveryController
  lastFailure : String
  databaseHealthyStreak : Nat
  lastDockerState : Option DockerState
  trace : List Effect
deriving Repr

/-- `build_watchdog`, on the restart history it loaded. -/
def Watchdog.build (restarts : RestartManager) : Watchdog where
  machine := .initial .starting
  restarts := restarts
  recovery := .initial
  lastFailure := ""
  databaseHealthyStreak := 0
  lastDockerState := none
  trace := []

/-- The answers of one check cycle.  The wall clock is read, in this order, by
the guard, by the diagnostics, when the POST goes out, by the restart record,
by the recovery's closing event and by the status. -/
structure CycleAnswers where
  check : Except PyError HttpResult
  loggerHealth : LoggerHealth
  status : String → Except PyError ContainerStatus
  connect : String → Nat → Nat → ConnectAnswer
  logs : String → Nat → Except PyError String
  diagnosticLogs : String → Nat → Except PyError String
  writeBundle : CaptureRequest → Except PyError (Option Incident)
  listing : JsonAnswer
  post : PostOutcome
  historyWritten : Bool
  evaluateAt : ℚ
  captureAt : ℚ
  postAt : ℚ
  recordAt : ℚ
  finishAt : ℚ
  publishAt : ℚ
  monotonic : ℚ
  failureIso : String
  checkIso : String

/-- The wall-clock readings of a cycle, in the order they are taken. -/
def CycleAnswers.wallClock (answers : CycleAnswers) : List ℚ :=
  [answers.evaluateAt, answers.captureAt, answers.postAt, answers.recordAt,
    answers.finishAt, answers.publishAt]

/-- A method call on the watchdog's objects. -/
abbrev Call := EStateM PyError Watchdog

namespace Call

/-- Wait for an answer, and raise what it raises. -/
def answer {α : Type} : Except PyError α → Call α
  | .ok value => pure value
  | .error error => throw error

def emitAll (effects : List Effect) : Call Unit :=
  modify fun w => { w with trace := w.trace ++ effects }

def emit (effect : Effect) : Call Unit :=
  emitAll [effect]

def publishEvent (event : Event) : Call Unit :=
  emit (.event event)

/-- `machine.step(observation)`. -/
def stepMachine (config : Config) (observation : Observation) :
    Call (Option Transition) := do
  let w ← get
  let stepped := w.machine.step config observation
  set { w with
    machine := stepped.2
    trace := w.trace ++ [Effect.stepped observation] }
  return stepped.1

/-- `machine.force_state(state, reason)`. -/
def forceState (state : State) (reason : String) : Call Unit :=
  modify fun w => { w with
    machine := (w.machine.forceState state reason).2
    trace := w.trace ++ [.forced state reason] }

def setRecovery (recovery : RecoveryController) : Call Unit :=
  modify fun w => { w with recovery := recovery }

/-- `docker.restart(container)`. -/
def restart (config : Config) (answers : CycleAnswers) (container : String) :
    Call (Bool × String) := do
  let call :=
    DockerClient.restart config answers.listing answers.post container
  emit (.restartCalled container)
  emitAll (call.posted.toList.map fun id =>
    .posted id answers.post answers.postAt)
  answer call.result

/-- `restarts.record(state, reason)`. -/
def recordRestart (answers : CycleAnswers) (state : State) (reason : String) :
    Call Unit := do
  let w ← get
  let recorded :=
    w.restarts.record state reason answers.recordAt answers.historyWritten
  set { w with
    restarts := recorded.2
    trace := w.trace ++ [Effect.recorded state answers.recordAt] }
  let _ ← answer recorded.1

end Call

end TeslamateWatchdog
