/-
When the restart guard lets a restart through again, after any run: at a time
that the records of the run determine.
-/
import TeslamateWatchdog.Foundation.Reopening
import TeslamateWatchdog.RunHistory

namespace TeslamateWatchdog

open Foundation

/-- What the guard asks of the configuration, the state and the checks; no time
is in it. -/
structure Permitted (config : Config) (state : State)
    (databaseHealthyStreak : Nat) (teslaAuthReachable : Option Bool) :
    Prop where
  enabled : config.autoRestartEnabled = true
  restartable : restartAllowedForState state = true
  reachable : state ∈ restartNeedsTeslaAuth →
    config.loggedOutRestartEnabled = true ∧ teslaAuthReachable = some true
  database : databaseConfirmationCount ≤ databaseHealthyStreak

/-- The restarts recorded at these times are far enough back. -/
abbrev Reopens (config : Config) (times : List ℚ) (now : ℚ) : Prop :=
  Reopened (config.restartCooldownSeconds : ℚ) (secondsPerDay : ℚ)
    config.maxRestartsPer24Hours times now

namespace RestartManager

variable {config : Config} {manager : RestartManager} {times : List ℚ}
  {clock now : ℚ} {state : State} {databaseHealthyStreak : Nat}
  {teslaAuthReachable : Option Bool}

theorem guarded_iff :
    manager.Guarded config state databaseHealthyStreak teslaAuthReachable now ↔
      Permitted config state databaseHealthyStreak teslaAuthReachable ∧
        PyFloat.lt (.finite 0)
          (manager.secondsUntilCooldownExpires config now) = false ∧
        manager.restartsIn24h now < config.maxRestartsPer24Hours := by
  constructor
  · rintro ⟨henabled, hrestartable, hreachable, hdatabase, hcooled, hcap⟩
    exact ⟨⟨henabled, hrestartable, hreachable, hdatabase⟩, hcooled, hcap⟩
  · rintro ⟨⟨henabled, hrestartable, hreachable, hdatabase⟩, hcooled, hcap⟩
    exact ⟨henabled, hrestartable, hreachable, hdatabase, hcooled, hcap⟩

/-- Who remembers a log opens when the log does. -/
theorem Remembers.allows_iff (hremembers : Remembers manager times clock)
    (hnow : clock ≤ now) :
    manager.Allows config state databaseHealthyStreak teslaAuthReachable now ↔
      Permitted config state databaseHealthyStreak teslaAuthReachable ∧
        Reopens config times now := by
  have hopen : Reopens config times now ↔
      (∀ last, times.getLast? = some last →
        last + config.restartCooldownSeconds ≤ now) ∧
      times.countP (fun time => now - secondsPerDay ≤ time) <
        config.maxRestartsPer24Hours := by
    rw [under_cap_iff hremembers.sorted]
    exact ⟨fun h => ⟨h.gap_passed, h.room⟩, fun h => ⟨h.1, h.2⟩⟩
  rw [allows_iff_guarded, guarded_iff, cooled_iff hremembers,
    hremembers.recent now hnow, hopen]

end RestartManager

/-- A process that finds one old restart in the history. -/
def RestartManager.restartedOnce : RestartManager :=
  ⟨[⟨.finite 0, "LOGGED_OUT", "sign-in page"⟩], .missing⟩

/-- Six hours after it, and not before. -/
example : Reopens .fromEmptyEnv [0] 21600 ∧ ¬Reopens .fromEmptyEnv [0] 21599 := by
  refine ⟨⟨fun last hlast => ?_, .inl (by decide)⟩, fun hopen => ?_⟩
  · cases hlast
    norm_num [Config.fromEmptyEnv]
  · have hgap := hopen.gap_passed 0 rfl
    norm_num [Config.fromEmptyEnv] at hgap

end TeslamateWatchdog
