/-
The restart guard, and the restart history that survives container recreation.
History is kept in memory, written to the data volume on every record, and read
back by a new process; time is the wall clock's.
-/
import Mathlib.Data.List.Sort
import TeslamateWatchdog.Foundation.PyNumber
import TeslamateWatchdog.Foundation.PyTime
import TeslamateWatchdog.StateMachine

namespace TeslamateWatchdog

open Foundation

def secondsPerDay : Nat := 86400

/-- Consecutive healthy database checks required before a restart. -/
def databaseConfirmationCount : Nat := 2

/-- History older than this is dropped. -/
def historyRetentionSeconds : Nat := 7 * secondsPerDay

structure RestartRecord where
  atTime : PyFloat
  state : String
  reason : String
deriving Repr, DecidableEq

def RestartRecord.asDict (record : RestartRecord) : Except PyError Json := do
  let iso ← PyTime.isoFromTimestamp record.atTime
  return .obj [("at", .float record.atTime), ("iso", .str iso),
    ("state", .str record.state), ("reason", .str record.reason)]

structure Decision where
  allowed : Bool
  reason : String
deriving Repr, DecidableEq

/-- What reading the history file gives: no file, an OSError or ValueError, a
document nested deeper than `json.loads` can follow, or a JSON document. -/
inductive HistoryFile where
  | missing
  | unreadable
  | tooDeep
  | json (document : Json)
deriving Repr

/-- The history in memory, and the file behind it. -/
structure RestartManager where
  history : List RestartRecord
  file : HistoryFile
deriving Repr

namespace RestartManager

/-- The body of the loop in `_load`: `none` for an entry that is skipped. -/
def loadEntry (entry : Json) : Except PyError (Option RestartRecord) :=
  let parsed : Except PyError RestartRecord := do
    let stamp ← (← entry.index "at").toFloat
    let state ← entry.getD "state" (.str "")
    let reason ← entry.getD "reason" (.str "")
    return ⟨stamp, state.toStr, reason.toStr⟩
  match parsed with
  | .ok record => .ok (some record)
  | .error .keyError => .ok none
  | .error .typeError => .ok none
  | .error .valueError => .ok none
  | .error other => .error other

/-- The order `sort(key=lambda record: record.at)` goes by: the later record is
not before the earlier one. -/
def NotBefore (earlier later : RestartRecord) : Prop :=
  later.atTime.lt earlier.atTime = false

instance : DecidableRel NotBefore := fun _ _ =>
  inferInstanceAs (Decidable (_ = false))

/-- `_load`.  No handler is there for the error of a document that is nested too
deeply. -/
def load : HistoryFile → Except PyError (List RestartRecord)
  | .missing => .ok []
  | .unreadable => .ok []
  | .tooDeep => .error .recursionError
  | .json raw => do
      let entries ← (← raw.getD "restarts" (.arr [])).iterate
      let loaded ← entries.mapM loadEntry
      return (loaded.filterMap id).insertionSort NotBefore

/-- `RestartManager(config)` on the file the data volume holds. -/
def recreate (file : HistoryFile) : Except PyError RestartManager := do
  let history ← load file
  return ⟨history, file⟩

/-- The document `_save` writes. -/
def payload (history : List RestartRecord) : Except PyError Json := do
  let entries ← history.mapM RestartRecord.asDict
  return .obj [("restarts", .arr entries)]

/-- `_save`; `written` tells whether writing the temporary file and renaming it
went through.  An OSError there is logged and forgotten. -/
def save (manager : RestartManager) (written : Bool) :
    Except PyError Unit × RestartManager :=
  match payload manager.history with
  | .error error => (.error error, manager)
  | .ok document =>
      (.ok (), if written then { manager with file := .json document }
        else manager)

/-- The records `_prune` keeps at `now`. -/
def pruned (now : ℚ) (history : List RestartRecord) : List RestartRecord :=
  history.filter fun record =>
    PyFloat.le (.finite (now - historyRetentionSeconds)) record.atTime

/-- `_prune`. -/
def prune (manager : RestartManager) (now : ℚ) : RestartManager :=
  { manager with history := pruned now manager.history }

def restartsIn24h (manager : RestartManager) (now : ℚ) : Nat :=
  manager.history.countP fun record =>
    PyFloat.le (.finite (now - secondsPerDay)) record.atTime

def lastRestart (manager : RestartManager) : Option RestartRecord :=
  manager.history.getLast?

def lastRestartIso (manager : RestartManager) :
    Except PyError (Option String) :=
  match manager.lastRestart with
  | none => .ok none
  | some record => (PyTime.isoFromTimestamp record.atTime).map some

def secondsUntilCooldownExpires (config : Config) (manager : RestartManager)
    (now : ℚ) : PyFloat :=
  match manager.lastRestart with
  | none => .finite 0
  | some record =>
      PyFloat.max (.finite 0)
        (PyFloat.sub (.finite config.restartCooldownSeconds)
          (PyFloat.sub (.finite now) record.atTime))

/-- The guards from the database streak on, which come after the ones about
the state. -/
def evaluateBudget (config : Config) (manager : RestartManager) (state : State)
    (databaseHealthyStreak : Nat) (now : ℚ) : Except PyError Decision :=
  if databaseHealthyStreak < databaseConfirmationCount then
    .ok ⟨false, "database not confirmed healthy (" ++
      toString databaseHealthyStreak ++ "/" ++
      toString databaseConfirmationCount ++ " consecutive checks)"⟩
  else
    let remaining := manager.secondsUntilCooldownExpires config now
    if PyFloat.lt (.finite 0) remaining then do
      let seconds ← remaining.toInt
      return ⟨false, "cooldown active for another " ++ toString seconds ++ "s"⟩
    else
      let recent := manager.restartsIn24h now
      if config.maxRestartsPer24Hours ≤ recent then
        .ok ⟨false, "daily cap reached (" ++ toString recent ++ "/" ++
          toString config.maxRestartsPer24Hours ++ " restarts in 24h)"⟩
      else
        .ok ⟨true, state.value ++ " is restartable and all guards pass"⟩

/-- `RestartManager.evaluate`: every condition must pass. -/
def evaluate (config : Config) (manager : RestartManager) (state : State)
    (databaseHealthyStreak : Nat) (teslaAuthReachable : Option Bool) (now : ℚ) :
    Except PyError Decision :=
  if !config.autoRestartEnabled then
    .ok ⟨false, "AUTO_RESTART_ENABLED is false"⟩
  else if !restartAllowedForState state then
    .ok ⟨false, state.value ++
      " is not a restartable state — a restart cannot fix it"⟩
  else if state ∈ restartNeedsTeslaAuth ∧ !config.loggedOutRestartEnabled then
    .ok ⟨false, "LOGGED_OUT_RESTART_ENABLED is false"⟩
  else if state ∈ restartNeedsTeslaAuth ∧ teslaAuthReachable ≠ some true then
    .ok ⟨false, config.teslaAuthHost ++
      " is not reachable — a restart cannot re-authenticate until the " ++
      "network recovers"⟩
  else evaluateBudget config manager state databaseHealthyStreak now

/-- `self._history.append(record)`. -/
def append (manager : RestartManager) (entry : RestartRecord) :
    RestartManager :=
  { manager with history := manager.history ++ [entry] }

/-- `RestartManager.record`. -/
def record (manager : RestartManager) (state : State) (reason : String)
    (now : ℚ) (written : Bool) : Except PyError RestartRecord × RestartManager :=
  let entry : RestartRecord := ⟨.finite now, state.value, reason⟩
  match ((manager.append entry).prune now).save written with
  | (.ok _, saved) => (.ok entry, saved)
  | (.error error, unsaved) => (.error error, unsaved)

/-- The guard lets a restart of `state` through at `now`. -/
def Allows (config : Config) (manager : RestartManager) (state : State)
    (databaseHealthyStreak : Nat) (teslaAuthReachable : Option Bool) (now : ℚ) :
    Prop :=
  ∃ decision, manager.evaluate config state databaseHealthyStreak
    teslaAuthReachable now = .ok decision ∧ decision.allowed = true

/-- Everything an allowed restart has passed. -/
structure Guarded (config : Config) (manager : RestartManager) (state : State)
    (databaseHealthyStreak : Nat) (teslaAuthReachable : Option Bool) (now : ℚ) :
    Prop where
  enabled : config.autoRestartEnabled = true
  restartable : restartAllowedForState state = true
  reachable : state ∈ restartNeedsTeslaAuth →
    config.loggedOutRestartEnabled = true ∧ teslaAuthReachable = some true
  database : databaseConfirmationCount ≤ databaseHealthyStreak
  cooled : PyFloat.lt (.finite 0)
    (manager.secondsUntilCooldownExpires config now) = false
  under_cap : manager.restartsIn24h now < config.maxRestartsPer24Hours

variable {config : Config} {manager : RestartManager} {state : State}
  {databaseHealthyStreak : Nat} {teslaAuthReachable : Option Bool} {now : ℚ}

theorem evaluateBudget_allowed_iff :
    (∃ decision, manager.evaluateBudget config state databaseHealthyStreak now =
        .ok decision ∧ decision.allowed = true) ↔
      databaseConfirmationCount ≤ databaseHealthyStreak ∧
        PyFloat.lt (.finite 0)
          (manager.secondsUntilCooldownExpires config now) = false ∧
        manager.restartsIn24h now < config.maxRestartsPer24Hours := by
  unfold evaluateBudget
  by_cases hstreak : databaseHealthyStreak < databaseConfirmationCount
  · simp [hstreak, Nat.not_le.mpr hstreak]
  · rw [if_neg hstreak]
    cases hcooldown : PyFloat.lt (.finite 0)
        (manager.secondsUntilCooldownExpires config now) with
    | true =>
        cases hseconds :
            (manager.secondsUntilCooldownExpires config now).toInt with
        | error error => simp [hcooldown, hseconds, bind, Except.bind]
        | ok seconds =>
            simp [hcooldown, hseconds, bind, Except.bind, pure, Except.pure]
    | false =>
        by_cases hcap :
            config.maxRestartsPer24Hours ≤ manager.restartsIn24h now
        · simp [hcooldown, hcap]
        · simp [hcooldown, hcap, Nat.not_lt.mp hstreak, Nat.not_le.mp hcap]

/-- The guard as one condition: it allows exactly the guarded restarts. -/
theorem allows_iff_guarded :
    manager.Allows config state databaseHealthyStreak teslaAuthReachable now ↔
      manager.Guarded config state databaseHealthyStreak teslaAuthReachable
        now := by
  have hbudget := @evaluateBudget_allowed_iff config manager state
    databaseHealthyStreak now
  constructor
  · rintro ⟨decision, hdecision, hallowed⟩
    unfold evaluate at hdecision
    split at hdecision
    · cases hdecision
      cases hallowed
    · split at hdecision
      · cases hdecision
        cases hallowed
      · split at hdecision
        · cases hdecision
          cases hallowed
        · split at hdecision
          · cases hdecision
            cases hallowed
          · have hpassed := hbudget.mp ⟨decision, hdecision, hallowed⟩
            exact ⟨by simp_all, by simp_all, by simp_all, hpassed.1,
              hpassed.2.1, hpassed.2.2⟩
  · intro hguarded
    have hpassed := hbudget.mpr
      ⟨hguarded.database, hguarded.cooled, hguarded.under_cap⟩
    have hneeds := hguarded.reachable
    unfold Allows evaluate
    rw [if_neg (by simp [hguarded.enabled]),
      if_neg (by simp [hguarded.restartable]),
      if_neg (fun h => by simp [(hneeds h.1).1] at h),
      if_neg (fun h => h.2 (hneeds h.1).2)]
    exact hpassed

end RestartManager

end TeslamateWatchdog
