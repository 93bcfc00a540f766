/-
The part of the watchdog's state that decides about restarts, and the part of a
trace that speaks of them.  Diagnostics and reports leave both alone, whether
they return or raise.
-/
import TeslamateWatchdog.CheckCycle
import TeslamateWatchdog.Foundation.Raising

namespace TeslamateWatchdog

open Foundation Call

/-- The events of the restart sequence. -/
def Event.ofRecovery : Event → Bool
  | .recoveryStarted .. => true
  | .restartExecuted .. => true
  | .recovered .. => true
  | .manualInterventionRequired .. => true
  | _ => false

/-- What happened to the machine, the recovery and the engine; the rest of a
trace only reports. -/
def Effect.decides : Effect → Bool
  | .event published => published.ofRecovery
  | .status _ => false
  | .captured _ => false
  | _ => true

structure Digest where
  machine : StateMachine
  restarts : RestartManager
  recovery : RecoveryController
  databaseHealthyStreak : Nat
  effects : List Effect

def Watchdog.digest (w : Watchdog) : Digest where
  machine := w.machine
  restarts := w.restarts
  recovery := w.recovery
  databaseHealthyStreak := w.databaseHealthyStreak
  effects := w.trace.filter Effect.decides

@[simp]
theorem Watchdog.digest_restarts (w : Watchdog) :
    w.digest.restarts = w.restarts := rfl

@[simp]
theorem Watchdog.build_restarts (restarts : RestartManager) :
    (Watchdog.build restarts).restarts = restarts := rfl

namespace Digest

variable (before : Digest)

def emit (effects : List Effect) : Digest :=
  { before with effects := before.effects ++ effects }

def force (state : State) (reason : String) : Digest :=
  { before with
    machine := (before.machine.forceState state reason).2
    effects := before.effects ++ [.forced state reason] }

def setRecovery (recovery : RecoveryController) : Digest :=
  { before with recovery := recovery }

def observe (observation : Observation) : Digest :=
  { before with
    databaseHealthyStreak :=
      if observation.databaseHealthy = some true then
        before.databaseHealthyStreak + 1
      else 0
    effects := before.effects ++ [.observed observation] }

def step (config : Config) (observation : Observation) : Digest :=
  { before with
    machine := (before.machine.step config observation).2
    effects := before.effects ++ [.stepped observation] }

@[simp]
theorem emit_effects (effects : List Effect) :
    (before.emit effects).effects = before.effects ++ effects := rfl

@[simp]
theorem force_effects (state : State) (reason : String) :
    (before.force state reason).effects =
      before.effects ++ [.forced state reason] := rfl

@[simp]
theorem setRecovery_effects (recovery : RecoveryController) :
    (before.setRecovery recovery).effects = before.effects := rfl

@[simp]
theorem observe_effects (observation : Observation) :
    (before.observe observation).effects =
      before.effects ++ [.observed observation] := rfl

@[simp]
theorem observe_machine (observation : Observation) :
    (before.observe observation).machine = before.machine := rfl

@[simp]
theorem observe_restarts (observation : Observation) :
    (before.observe observation).restarts = before.restarts := rfl

@[simp]
theorem observe_recovery (observation : Observation) :
    (before.observe observation).recovery = before.recovery := rfl

@[simp]
theorem step_restarts (config : Config) (observation : Observation) :
    (before.step config observation).restarts = before.restarts := rfl

@[simp]
theorem step_recovery (config : Config) (observation : Observation) :
    (before.step config observation).recovery = before.recovery := rfl

@[simp]
theorem step_effects (config : Config) (observation : Observation) :
    (before.step config observation).effects =
      before.effects ++ [.stepped observation] := rfl

end Digest

section Calls

variable (config : Config) (answers : CycleAnswers)

theorem outcome_answer {α : Type} (reply : Except PyError α) (w : Watchdog) :
    outcome (answer reply) w = (reply, w) := by
  cases reply <;> rfl

theorem outcome_answer_bind {α β : Type} (reply : Except PyError α)
    (next : α → Call β) (w : Watchdog) :
    outcome (answer reply >>= next) w =
      match reply with
      | .ok value => outcome (next value) w
      | .error error => (.error error, w) := by
  cases reply <;> rfl

theorem keeps_answer {α γ : Type} {view : Watchdog → γ}
    (reply : Except PyError α) : Keeps view (answer reply) := by
  intro w
  rw [outcome_answer]

section Views

variable {γ : Type} {view : Watchdog → γ}

/-- A capture goes unseen when its request and its announcement do. -/
theorem capture_keeps
    (hcaptured : ∀ request, Keeps view (Call.emit (.captured request)))
    (hannounced : ∀ state reason incident,
      Keeps view (publishEvent (.diagnosticsCaptured state reason incident)))
    (state : State) (reason : String) (observation : Observation) :
    Keeps view
      (RecoveryController.capture config answers state reason observation) := by
  unfold RecoveryController.capture
  refine Keeps.of_get.bind fun w => ?_
  refine (keeps_answer _).bind fun lastRestart => ?_
  refine (hcaptured _).bind fun _ => ?_
  refine (keeps_answer _).bind fun incident => ?_
  cases incident with
  | none => exact Keeps.of_pure _
  | some incident => exact hannounced state reason incident

theorem publishFollowUp_keeps
    (hsignIn : ∀ report action url restarted, Keeps view
      (publishEvent (.authenticationRequired report action url restarted)))
    (hdatabase : ∀ report action,
      Keeps view (publishEvent (.databaseUnhealthy report action)))
    (report : FailureReport) (restarting : Bool) :
    Keeps view (Watchdog.publishFollowUp config report restarting) := by
  unfold Watchdog.publishFollowUp
  by_cases hauth : report.state ∈ authStates ∧ restarting = false
  · rw [if_pos hauth]
    exact hsignIn _ _ _ _
  · rw [if_neg hauth]
    by_cases hstate : report.state = .databaseUnhealthy
    · rw [if_pos hstate]
      exact hdatabase _ _
    · rw [if_neg hstate]
      exact Keeps.of_pure _

theorem publishStatus_keeps
    (hstatus : ∀ values, Keeps view (Call.emit (.status values)))
    (observation : Observation) :
    Keeps view (Watchdog.publishStatus answers observation) := by
  unfold Watchdog.publishStatus
  refine Keeps.of_get.bind fun w => ?_
  exact (keeps_answer _).bind fun lastRestart => hstatus _

/-- Reading the log changes nothing but the classification kept for the
diagnostics. -/
theorem classifyLogs_keeps (classifier : LogClassifier)
    (hclassified : ∀ (w : Watchdog) (classification : Option Classification),
      view { w with
        lastDockerState := w.lastDockerState.map fun dockerState =>
          { dockerState with logClassification := classification } } = view w) :
    Keeps view (Watchdog.classifyLogs config classifier answers) := by
  unfold Watchdog.classifyLogs
  by_cases hempty : classifier.isEmpty = true
  · rw [if_pos hempty]
    exact Keeps.of_pure none
  · rw [if_neg hempty]
    refine (keeps_answer _).bind fun text => ?_
    by_cases htext : text = ""
    · rw [if_pos htext]
      exact Keeps.of_pure none
    · rw [if_neg htext]
      exact Keeps.bind (Keeps.of_modify fun w => hclassified w _) fun _ =>
        Keeps.of_pure _

end Views

theorem digest_emit (w : Watchdog) (effects : List Effect) :
    ({ w with trace := w.trace ++ effects } : Watchdog).digest =
      w.digest.emit (effects.filter Effect.decides) := by
  simp [Watchdog.digest, Digest.emit]

theorem digest_emit_of_decides (w : Watchdog) {effects : List Effect}
    (hdecide : ∀ effect ∈ effects, effect.decides = true) :
    ({ w with trace := w.trace ++ effects } : Watchdog).digest =
      w.digest.emit effects := by
  rw [digest_emit, List.filter_eq_self.mpr hdecide]

theorem keeps_emit {effect : Effect} (hquiet : effect.decides = false) :
    Keeps Watchdog.digest (Call.emit effect) := by
  refine Keeps.of_modify fun w => ?_
  rw [digest_emit, List.filter_singleton, hquiet]
  exact congrArg (Digest.mk _ _ _ _) (List.append_nil _)

theorem keeps_publishEvent {published : Event}
    (hquiet : published.ofRecovery = false) :
    Keeps Watchdog.digest (publishEvent published) :=
  keeps_emit hquiet

theorem keeps_capture (state : State) (reason : String)
    (observation : Observation) :
    Keeps Watchdog.digest
      (RecoveryController.capture config answers state reason observation) :=
  capture_keeps config answers (fun _ => keeps_emit rfl)
    (fun _ _ _ => keeps_publishEvent rfl) state reason observation

theorem keeps_publishFollowUp (report : FailureReport) (restarting : Bool) :
    Keeps Watchdog.digest
      (Watchdog.publishFollowUp config report restarting) :=
  publishFollowUp_keeps config (fun _ _ _ _ => keeps_publishEvent rfl)
    (fun _ _ => keeps_publishEvent rfl) report restarting

theorem keeps_publishStatus (observation : Observation) :
    Keeps Watchdog.digest (Watchdog.publishStatus answers observation) :=
  publishStatus_keeps answers (fun _ => keeps_emit rfl) observation

end Calls

section Gather

variable (config : Config) (classifier : LogClassifier) (answers : CycleAnswers)

/-- The log signals of a cycle, or what reading the log raises. -/
def gatherSignals : Except PyError (Option LogSignals) :=
  if classifier.isEmpty then .ok none
  else do
    let text ← answers.logs config.teslamateContainer
      config.logAnalysisLookbackSeconds
    return if text = "" then none
      else some (classifier.signals (classifier.classify text))

/-- The observation of a cycle, or what gathering it raises: it depends on the
answers alone. -/
def gather : Except PyError Observation := do
  let httpResult ← answers.check
  let teslamateStatus ← answers.status config.teslamateContainer
  let database ← checkDatabase config answers.status answers.connect
  let _ ← teslamateStatus.asDict
  let _ ← database.asDict
  let logSignals ← gatherSignals config classifier answers
  return {
    http := httpResult
    loggerHealthy := answers.loggerHealth.healthy
    loggerStale := answers.loggerHealth.stale
    loggerDetail := answers.loggerHealth.detail
    databaseHealthy := database.healthy
    teslamateContainerRunning :=
      if teslamateStatus.found then teslamateStatus.running else none
    logSignals := logSignals }

/-- What an observation holds, in terms of the answers it was gathered from. -/
structure GatheredFrom (config : Config) (classifier : LogClassifier)
    (answers : CycleAnswers) (observation : Observation) : Prop where
  http : answers.check = .ok observation.http
  container : ∃ status, answers.status config.teslamateContainer = .ok status ∧
    observation.teslamateContainerRunning =
      if status.found then status.running else none
  database : ∃ database, checkDatabase config answers.status answers.connect =
    .ok database ∧ observation.databaseHealthy = database.healthy
  loggerHealthy : observation.loggerHealthy = answers.loggerHealth.healthy
  loggerStale : observation.loggerStale = answers.loggerHealth.stale
  loggerDetail : observation.loggerDetail = answers.loggerHealth.detail
  signals : gatherSignals config classifier answers =
    .ok observation.logSignals

theorem gatheredFrom {observation : Observation}
    (hgather : gather config classifier answers = .ok observation) :
    GatheredFrom config classifier answers observation := by
  unfold gather at hgather
  obtain ⟨http, hhttp, hgather⟩ := bind_eq_ok.mp hgather
  obtain ⟨status, hstatus, hgather⟩ := bind_eq_ok.mp hgather
  obtain ⟨database, hdatabase, hgather⟩ := bind_eq_ok.mp hgather
  obtain ⟨_, _, hgather⟩ := bind_eq_ok.mp hgather
  obtain ⟨_, _, hgather⟩ := bind_eq_ok.mp hgather
  obtain ⟨signals, hsignals, hgather⟩ := bind_eq_ok.mp hgather
  obtain rfl := Except.ok.inj hgather
  exact ⟨hhttp, ⟨status, hstatus, rfl⟩, ⟨database, hdatabase, rfl⟩, rfl, rfl,
    rfl, hsignals⟩

variable {α β : Type}

/-- A call that only asks: what comes of it does not depend on the objects, and
the digest stays the same. -/
def Asks (call : Call α) (reply : Except PyError α) : Prop :=
  ∀ w, ∃ after, outcome call w = (reply, after) ∧ after.digest = w.digest

theorem asks_answer (reply : Except PyError α) : Asks (answer reply) reply :=
  fun w => ⟨w, outcome_answer reply w, rfl⟩

theorem asks_pure (value : α) : Asks (pure value) (.ok value) :=
  fun w => ⟨w, rfl, rfl⟩

theorem asks_after_modify {change : Watchdog → Watchdog} {next : Call α}
    {reply : Except PyError α} (hchange : ∀ w, (change w).digest = w.digest)
    (hnext : Asks next reply) :
    Asks (modify change >>= fun _ => next) reply := by
  intro w
  obtain ⟨after, hsecond, hafter⟩ := hnext (change w)
  exact ⟨after, hsecond, hafter.trans (hchange w)⟩

theorem Asks.bind {call : Call α} {reply : Except PyError α}
    {next : α → Call β} {replies : α → Except PyError β}
    (hcall : Asks call reply) (hnext : ∀ value, Asks (next value) (replies value)) :
    Asks (call >>= next) (reply >>= replies) := by
  intro w
  obtain ⟨middle, hfirst, hmiddle⟩ := hcall w
  cases reply with
  | error error => exact ⟨middle, outcome_bind_of_error hfirst next, hmiddle⟩
  | ok value =>
      obtain ⟨after, hsecond, hafter⟩ := hnext value middle
      refine ⟨after, ?_, hafter.trans hmiddle⟩
      rw [outcome_bind_of_ok hfirst]
      exact hsecond

theorem asks_classifyLogs :
    Asks (Watchdog.classifyLogs config classifier answers)
      (gatherSignals config classifier answers) := by
  unfold Watchdog.classifyLogs gatherSignals
  split
  · exact asks_pure none
  · refine (asks_answer _).bind fun text => ?_
    by_cases htext : text = ""
    · rw [if_pos htext, if_pos htext]
      exact asks_pure none
    · rw [if_neg htext, if_neg htext]
      exact asks_after_modify (fun w => rfl) (asks_pure _)

theorem asks_evidence :
    Asks (Watchdog.evidence config classifier answers)
      (gather config classifier answers) := by
  refine (asks_answer _).bind fun httpResult => ?_
  refine (asks_answer _).bind fun teslamateStatus => ?_
  refine (asks_answer _).bind fun database => ?_
  refine (asks_answer _).bind fun teslamateDict => ?_
  refine (asks_answer _).bind fun databaseDict => ?_
  refine asks_after_modify (fun w => rfl) ?_
  exact (asks_classifyLogs config classifier answers).bind fun logSignals =>
    asks_pure _

/-- `_observe` either raises and leaves no mark, or counts what it gathered. -/
theorem observe_outcome (w : Watchdog) :
    ∃ after, outcome (Watchdog.observe config classifier answers) w =
        (gather config classifier answers, after) ∧
      after.digest =
        match gather config classifier answers with
        | .ok observation => w.digest.observe observation
        | .error _ => w.digest := by
  obtain ⟨middle, hevidence, hmiddle⟩ := asks_evidence config classifier answers w
  unfold Watchdog.observe
  cases hgather : gather config classifier answers with
  | error error =>
      rw [hgather] at hevidence
      exact ⟨middle, outcome_bind_of_error hevidence _, hmiddle⟩
  | ok observation =>
      rw [hgather] at hevidence
      rw [outcome_bind_of_ok hevidence, ← hmiddle]
      refine ⟨_, rfl, ?_⟩
      simp [Watchdog.digest, Digest.observe, Effect.decides]

end Gather

end TeslamateWatchdog
