/-
The part of the environment-driven configuration that the checks, the restart
policy and the recovery read.  What `_env_int` and `validate` ask of the numbers,
and that the containers differ, are fields; otherwise the texts are any texts.
-/
import Mathlib.Data.Nat.Basic

namespace TeslamateWatchdog

structure Config where
  teslamateUrl : String
  teslamateContainer : String
  databaseContainer : String
  dockerTimeoutSeconds : Nat
  databaseHost : String
  databasePort : Nat
  teslaAuthHost : String
  teslaAuthPort : Nat
  loggedOutRestartEnabled : Bool
  httpTimeoutSeconds : Nat
  failureConfirmationCount : Nat
  recoveryConfirmationCount : Nat
  loggerUnhealthyConfirmationCount : Nat
  autoRestartEnabled : Bool
  restartCooldownSeconds : Nat
  postRestartWaitSeconds : Nat
  maxRestartsPer24Hours : Nat
  diagnosticLogLookbackSeconds : Nat
  logAnalysisLookbackSeconds : Nat
  dockerTimeoutSeconds_pos : 1 ≤ dockerTimeoutSeconds
  databasePort_pos : 1 ≤ databasePort
  teslaAuthPort_pos : 1 ≤ teslaAuthPort
  httpTimeoutSeconds_pos : 1 ≤ httpTimeoutSeconds
  failureConfirmationCount_pos : 1 ≤ failureConfirmationCount
  recoveryConfirmationCount_pos : 1 ≤ recoveryConfirmationCount
  loggerUnhealthyConfirmationCount_pos : 1 ≤ loggerUnhealthyConfirmationCount
  /-- The watchdog must never be able to resolve a restart onto the database. -/
  containers_ne : teslamateContainer ≠ databaseContainer
  /-- The state window is meant to be the shorter of the two. -/
  lookback_le :
    logAnalysisLookbackSeconds ≤ diagnosticLogLookbackSeconds

/-- What `Config.from_env` returns when only `MQTT_HOST` is set. -/
def Config.fromEmptyEnv : Config where
  teslamateUrl := "http://teslamate:4000/"
  teslamateContainer := "teslamate"
  databaseContainer := "database"
  dockerTimeoutSeconds := 10
  databaseHost := "database"
  databasePort := 5432
  teslaAuthHost := "auth.tesla.com"
  teslaAuthPort := 443
  loggedOutRestartEnabled := true
  httpTimeoutSeconds := 10
  failureConfirmationCount := 3
  recoveryConfirmationCount := 2
  loggerUnhealthyConfirmationCount := 15
  autoRestartEnabled := true
  restartCooldownSeconds := 21600
  postRestartWaitSeconds := 90
  maxRestartsPer24Hours := 2
  diagnosticLogLookbackSeconds := 7200
  logAnalysisLookbackSeconds := 900
  dockerTimeoutSeconds_pos := by decide
  databasePort_pos := by decide
  teslaAuthPort_pos := by decide
  httpTimeoutSeconds_pos := by decide
  failureConfirmationCount_pos := by decide
  recoveryConfirmationCount_pos := by decide
  loggerUnhealthyConfirmationCount_pos := by decide
  containers_ne := by decide
  lookback_le := by decide

end TeslamateWatchdog
