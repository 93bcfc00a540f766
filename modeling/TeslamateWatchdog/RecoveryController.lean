/-
The restart sequence, and confirming whether it worked: capture diagnostics,
announce, restart, wait, confirm.  The sequence is driven by the ordinary check
loop, one `step` a cycle, with the state machine held at RECOVERING meanwhile.
-/
import TeslamateWatchdog.Watchdog

namespace TeslamateWatchdog

open Foundation

namespace RecoveryController

open Call

/-- `_safe_logs`. -/
def safeLogs (config : Config) (answers : CycleAnswers) (container : String) :
    String :=
  match answers.diagnosticLogs container config.diagnosticLogLookbackSeconds with
  | .ok text => text
  | .error _ => ""

/-- Write an incident bundle and announce it. -/
def capture (config : Config) (answers : CycleAnswers) (state : State)
    (reason : String) (observation : Observation) : Call Unit := do
  let w ← get
  let lastRestart ← answer w.restarts.lastRestartIso
  let request : CaptureRequest := {
    state := state
    reason := reason
    observation := observation
    restartCount24h := w.restarts.restartsIn24h answers.captureAt
    lastRestart := lastRestart
    restartAttempted := state ∈ [.loggerUnhealthy, .teslamateUnreachable]
    teslamateLog := safeLogs config answers config.teslamateContainer
    databaseLog := safeLogs config answers config.databaseContainer
    dockerState := w.lastDockerState }
  emit (.captured request)
  let incident ← answer (answers.writeBundle request)
  match incident with
  | some incident =>
      publishEvent (.diagnosticsCaptured state reason incident)
  | none => pure ()

/-- What `begin` does when the restart is reported as failed. -/
def refuse (detail : String) : Call Unit := do
  let w ← get
  setRecovery { w.recovery with status := .manualInterventionRequired }
  forceState .manualInterventionRequired ("restart failed: " ++ detail)
  publishEvent (.manualInterventionRequired none ("restart failed: " ++ detail)
    ("The watchdog could not restart TeslaMate. Check the socket proxy " ++
      "grants and the container name.") none)

/-- What `begin` does once the restart is recorded. -/
def hold (config : Config) (answers : CycleAnswers) (state : State)
    (reason : String) : Call Unit := do
  setRecovery {
    progress := some {
      triggerState := state
      reason := reason
      deadline := answers.monotonic + config.postRestartWaitSeconds }
    status := .waitingAfterRestart }
  forceState .recovering ("restart issued: " ++ reason)

/-- Issue the restart.  Returns whether recovery is now in progress. -/
def begin (config : Config) (answers : CycleAnswers) (state : State)
    (reason : String) : Call Bool := do
  let container := config.teslamateContainer
  publishEvent (.recoveryStarted state reason container
    config.postRestartWaitSeconds)
  let (ok, detail) ← restart config answers container
  publishEvent (.restartExecuted state ok detail container)
  if ok then
    recordRestart answers state reason
    hold config answers state reason
    return true
  else
    refuse detail
    return false

/-- `_finish_recovered`. -/
def finishRecovered (answers : CycleAnswers) (progress : Progress) :
    Call Unit := do
  setRecovery ⟨none, .recovered⟩
  forceState .healthy "recovered after restart"
  let w ← get
  publishEvent (.recovered progress.triggerState progress.reason
    (w.restarts.restartsIn24h answers.finishAt))

/-- `_finish_manual`. -/
def finishManual (answers : CycleAnswers) (progress : Progress)
    (detail : String) : Call Unit := do
  setRecovery ⟨none, .manualInterventionRequired⟩
  forceState .manualInterventionRequired
    ("still failing after restart: " ++ detail)
  let w ← get
  publishEvent (.manualInterventionRequired (some progress.triggerState)
    ("still failing after restart: " ++ detail)
    ("TeslaMate was restarted but is still unhealthy. Check the container " ++
      "logs and the diagnostics bundle.")
    (some (w.restarts.restartsIn24h answers.finishAt)))

/-- Advance recovery by one check cycle. -/
def step (config : Config) (answers : CycleAnswers)
    (observation : Observation) : Call Unit := do
  let w ← get
  match w.recovery.progress with
  | none => pure ()
  | some progress =>
      if answers.monotonic < progress.deadline then
        setRecovery ⟨some progress, .waitingAfterRestart⟩
      else
        let result := evaluate observation
        if result.inconclusive then
          setRecovery ⟨some progress, .confirmingRecovery⟩
        else if result.state = .healthy then
          let counted := progress.countHealthy
          setRecovery ⟨some counted, .confirmingRecovery⟩
          if config.recoveryConfirmationCount ≤ counted.healthyStreak then
            finishRecovered answers counted
        else
          let counted := progress.countFailure
          setRecovery ⟨some counted, .confirmingRecovery⟩
          if config.failureConfirmationCount ≤ counted.failureStreak then
            finishManual answers counted result.reason

end RecoveryController

end TeslamateWatchdog
