/-
One check cycle: gather evidence into a single observation, feed it to the
state machine or to the recovery in progress, react to a transition, publish.
-/
import TeslamateWatchdog.RecoveryController

namespace TeslamateWatchdog

open Foundation Call

def authActionMessage : String :=
  "TeslaMate is signed out and is not recording drives. The watchdog did not " ++
  "restart it — either Tesla's auth host is unreachable (in which case a " ++
  "restart cannot re-authenticate and this should clear when the network " ++
  "recovers), or a restart was already tried and did not help. If it does not " ++
  "clear, generate fresh Tesla API tokens with a token app and paste them " ++
  "into the TeslaMate UI."

def payloadUnset : String := "None"

/-- `_tristate`. -/
def tristate : Option Bool → String
  | none => "unknown"
  | some true => "true"
  | some false => "false"

/-- `text or fallback`. -/
def textOr (text fallback : String) : String :=
  if text = "" then fallback else text

/-- `authenticated` of `_publish_status`. -/
def HttpCategory.signedIn : HttpCategory → Option Bool
  | .authenticated => some true
  | .loggedOut => some false
  | _ => none

/-- The values of `_publish_status`, by topic suffix. -/
def statusValues (answers : CycleAnswers) (observation : Observation)
    (w : Watchdog) (lastRestart : Option String) : List (String × String) :=
  [("state", w.machine.state.value),
    ("healthy", if w.machine.state = .healthy then "true" else "false"),
    ("http_status",
      (observation.http.statusCode.map toString).getD "unknown"),
    ("authenticated", tristate observation.http.category.signedIn),
    ("database_healthy", tristate observation.databaseHealthy),
    ("logger_healthy", tristate observation.loggerHealthy),
    ("last_check", answers.checkIso),
    ("last_failure", textOr w.lastFailure payloadUnset),
    ("last_restart", textOr (lastRestart.getD "") payloadUnset),
    ("restart_count_24h", toString (w.restarts.restartsIn24h answers.publishAt)),
    ("recovery_status", w.recovery.status.value)]

namespace Watchdog

/-- The container's log, read through the short window, and classified. -/
def classifyLogs (config : Config) (classifier : LogClassifier)
    (answers : CycleAnswers) : Call (Option LogSignals) := do
  if classifier.isEmpty then
    return none
  let text ← answer (answers.logs config.teslamateContainer
    config.logAnalysisLookbackSeconds)
  if text = "" then
    return none
  let classification := classifier.classify text
  modify fun w => { w with
    lastDockerState := w.lastDockerState.map fun dockerState =>
      { dockerState with logClassification := some classification } }
  return some (classifier.signals classification)

/-- What `_observe` asks for, in its order. -/
def evidence (config : Config) (classifier : LogClassifier)
    (answers : CycleAnswers) : Call Observation := do
  let httpResult ← answer answers.check
  let loggerHealth := answers.loggerHealth
  let teslamateStatus ← answer (answers.status config.teslamateContainer)
  let containerRunning :=
    if teslamateStatus.found then teslamateStatus.running else none
  let database ← answer (checkDatabase config answers.status answers.connect)
  let teslamateDict ← answer teslamateStatus.asDict
  let databaseDict ← answer database.asDict
  modify fun w => { w with
    lastDockerState := some ⟨teslamateDict, databaseDict, none⟩ }
  let logSignals ← classifyLogs config classifier answers
  return {
    http := httpResult
    loggerHealthy := loggerHealth.healthy
    loggerStale := loggerHealth.stale
    loggerDetail := loggerHealth.detail
    databaseHealthy := database.healthy
    teslamateContainerRunning := containerRunning
    logSignals := logSignals }

/-- `_observe`: the evidence, and the database streak counted on it. -/
def observe (config : Config) (classifier : LogClassifier)
    (answers : CycleAnswers) : Call Observation := do
  let observation ← evidence config classifier answers
  modify fun w => { w with
    databaseHealthyStreak :=
      if observation.databaseHealthy = some true then
        w.databaseHealthyStreak + 1
      else 0
    trace := w.trace ++ [.observed observation] }
  return observation

/-- The probe of Tesla's auth host, made only for states that need it. -/
def probeTeslaAuth (config : Config) (answers : CycleAnswers) (state : State) :
    Except PyError (Option Bool) :=
  if state ∈ restartNeedsTeslaAuth then
    (tcpProbe answers.connect config.teslaAuthHost config.teslaAuthPort
      config.httpTimeoutSeconds).map fun probe => some probe.1
  else .ok none

/-- `_consider_recovery`: capture diagnostics and start a restart if every
guard passes. -/
def considerRecovery (config : Config) (answers : CycleAnswers) (state : State)
    (reason : String) (observation : Observation) : Call Bool := do
  if !restartAllowedForState state then
    RecoveryController.capture config answers state reason observation
    return false
  let reachable ← answer (probeTeslaAuth config answers state)
  let w ← get
  let decision ← answer (w.restarts.evaluate config state
    w.databaseHealthyStreak reachable answers.evaluateAt)
  RecoveryController.capture config answers state reason observation
  if !decision.allowed then
    return false
  RecoveryController.begin config answers state reason

/-- The event that follows `failure_detected`, if any. -/
def publishFollowUp (config : Config) (report : FailureReport)
    (restarting : Bool) : Call Unit :=
  if report.state ∈ authStates ∧ restarting = false then
    publishEvent (.authenticationRequired report authActionMessage
      config.teslamateUrl false)
  else if report.state = .databaseUnhealthy then
    publishEvent (.databaseUnhealthy report
      ("Check the TeslaMate PostgreSQL container. The watchdog never " ++
        "restarts the database."))
  else pure ()

/-- `_on_transition`. -/
def onTransition (config : Config) (answers : CycleAnswers)
    (transition : Transition) (observation : Observation) : Call Unit := do
  if transition.current ∉ failureStates then
    return
  modify fun w => { w with lastFailure := answers.failureIso }
  let report : FailureReport := ⟨transition.current, transition.previous,
    transition.reason, observation⟩
  publishEvent (.failureDetected report)
  let restarting ← considerRecovery config answers transition.current
    transition.reason observation
  publishFollowUp config report restarting

/-- `_publish_status`. -/
def publishStatus (answers : CycleAnswers) (observation : Observation) :
    Call Unit := do
  let w ← get
  let lastRestart ← answer w.restarts.lastRestartIso
  emit (.status (statusValues answers observation w lastRestart))

/-- `check_once`. -/
def checkOnce (config : Config) (classifier : LogClassifier)
    (answers : CycleAnswers) : Call Observation := do
  let observation ← observe config classifier answers
  let w ← get
  if w.recovery.active then
    RecoveryController.step config answers observation
  else
    match ← stepMachine config observation with
    | some transition => onTransition config answers transition observation
    | none => pure ()
  publishStatus answers observation
  return observation

end Watchdog

end TeslamateWatchdog
