/-
Every course a check cycle can take, told by what it does to the digest.  The
claims about runs are read off this one inversion; no later proof opens the
cycle again.
-/
import TeslamateWatchdog.Digest
import TeslamateWatchdog.Foundation.Mealy

namespace TeslamateWatchdog

open Foundation Call

/-- Where one cycle takes a recovery in progress. -/
inductive Turn where
  | holds (recovery : RecoveryController)
  | recovers (progress : Progress)
  | escalates (progress : Progress) (detail : String)
deriving Repr, DecidableEq

/-- The turn a recovery takes, on the clock and on what was observed. -/
def turn (config : Config) (monotonic : ℚ) (progress : Progress)
    (observation : Observation) : Turn :=
  if monotonic < progress.deadline then
    .holds ⟨some progress, .waitingAfterRestart⟩
  else if (evaluate observation).inconclusive then
    .holds ⟨some progress, .confirmingRecovery⟩
  else if (evaluate observation).state = .healthy then
    if config.recoveryConfirmationCount ≤ progress.countHealthy.healthyStreak then
      .recovers progress.countHealthy
    else .holds ⟨some progress.countHealthy, .confirmingRecovery⟩
  else
    if config.failureConfirmationCount ≤ progress.countFailure.failureStreak then
      .escalates progress.countFailure (evaluate observation).reason
    else .holds ⟨some progress.countFailure, .confirmingRecovery⟩

/-- The calls a turn consists of. -/
def takeTurn (answers : CycleAnswers) : Turn → Call Unit
  | .holds recovery => setRecovery recovery
  | .recovers progress => do
      setRecovery ⟨some progress, .confirmingRecovery⟩
      RecoveryController.finishRecovered answers progress
  | .escalates progress detail => do
      setRecovery ⟨some progress, .confirmingRecovery⟩
      RecoveryController.finishManual answers progress detail

/-- `RecoveryController.step` takes the turn of the recovery in progress. -/
theorem recoveryStep_eq (config : Config) (answers : CycleAnswers)
    (observation : Observation) :
    RecoveryController.step config answers observation = (do
      let w ← get
      match w.recovery.progress with
      | none => pure ()
      | some progress =>
          takeTurn answers
            (turn config answers.monotonic progress observation)) := by
  refine congrArg (get >>= ·) (funext fun w => ?_)
  cases w.recovery.progress with
  | none => rfl
  | some progress =>
      unfold turn
      dsimp only
      by_cases hearly : answers.monotonic < progress.deadline
      · rw [if_pos hearly, if_pos hearly]
        rfl
      · rw [if_neg hearly, if_neg hearly]
        by_cases hinconclusive : (evaluate observation).inconclusive = true
        · rw [if_pos hinconclusive, if_pos hinconclusive]
          rfl
        · rw [if_neg hinconclusive, if_neg hinconclusive]
          by_cases hhealthy : (evaluate observation).state = .healthy
          · rw [if_pos hhealthy, if_pos hhealthy]
            by_cases henough : config.recoveryConfirmationCount ≤
                progress.countHealthy.healthyStreak
            · rw [if_pos henough, if_pos henough]
              rfl
            · rw [if_neg henough, if_neg henough]
              rfl
          · rw [if_neg hhealthy, if_neg hhealthy]
            by_cases henough : config.failureConfirmationCount ≤
                progress.countFailure.failureStreak
            · rw [if_pos henough, if_pos henough]
              rfl
            · rw [if_neg henough, if_neg henough]
              rfl

namespace Digest

def recoveredEvent (before : Digest) (answers : CycleAnswers)
    (progress : Progress) : Event :=
  .recovered progress.triggerState progress.reason
    (before.restarts.restartsIn24h answers.finishAt)

def escalatedEvent (before : Digest) (answers : CycleAnswers)
    (progress : Progress) (detail : String) : Event :=
  .manualInterventionRequired (some progress.triggerState)
    ("still failing after restart: " ++ detail)
    ("TeslaMate was restarted but is still unhealthy. Check the container " ++
      "logs and the diagnostics bundle.")
    (some (before.restarts.restartsIn24h answers.finishAt))

def take (before : Digest) (answers : CycleAnswers) : Turn → Digest
  | .holds recovery => before.setRecovery recovery
  | .recovers progress =>
      ((before.setRecovery ⟨none, .recovered⟩).force .healthy
        "recovered after restart").emit
          [.event (before.recoveredEvent answers progress)]
  | .escalates progress detail =>
      ((before.setRecovery ⟨none, .manualInterventionRequired⟩).force
        .manualInterventionRequired
        ("still failing after restart: " ++ detail)).emit
          [.event (before.escalatedEvent answers progress detail)]

/-- No turn touches the restart history. -/
theorem take_restarts (before : Digest) (answers : CycleAnswers)
    (taken : Turn) : (before.take answers taken).restarts = before.restarts := by
  cases taken with
  | holds recovery => rfl
  | recovers progress => rfl
  | escalates progress detail => rfl

end Digest

section Recovery

variable (config : Config) (answers : CycleAnswers)

theorem digest_setRecovery (w : Watchdog) (recovery : RecoveryController) :
    outcome (Call.setRecovery recovery) w =
        (.ok (), { w with recovery := recovery }) ∧
      ({ w with recovery := recovery } : Watchdog).digest =
        w.digest.setRecovery recovery :=
  ⟨rfl, rfl⟩

theorem finishRecovered_outcome (w : Watchdog) (progress : Progress) :
    ∃ after,
      outcome (RecoveryController.finishRecovered answers progress) w =
        (.ok (), after) ∧
      after.digest = w.digest.take answers (.recovers progress) := by
  refine ⟨_, rfl, ?_⟩
  simp [Watchdog.digest, Digest.take, Digest.setRecovery, Digest.force,
    Digest.emit, Digest.recoveredEvent, Effect.decides, Event.ofRecovery]

theorem finishManual_outcome (w : Watchdog) (progress : Progress)
    (detail : String) :
    ∃ after,
      outcome (RecoveryController.finishManual answers progress detail) w =
        (.ok (), after) ∧
      after.digest = w.digest.take answers (.escalates progress detail) := by
  refine ⟨_, rfl, ?_⟩
  simp [Watchdog.digest, Digest.take, Digest.setRecovery, Digest.force,
    Digest.emit, Digest.escalatedEvent, Effect.decides, Event.ofRecovery]

/-- `RecoveryController.step` never raises, and takes the recovery's turn. -/
theorem recoveryStep_outcome {w : Watchdog} {progress : Progress}
    (hprogress : w.recovery.progress = some progress)
    (observation : Observation) :
    ∃ after,
      outcome (RecoveryController.step config answers observation) w =
        (.ok (), after) ∧
      after.digest = w.digest.take answers
        (turn config answers.monotonic progress observation) := by
  rw [recoveryStep_eq, outcome_bind_of_ok (outcome_get w), hprogress]
  dsimp only
  cases turn config answers.monotonic progress observation with
  | holds recovery => exact ⟨_, rfl, rfl⟩
  | recovers counted =>
      unfold takeTurn
      rw [outcome_bind_of_ok (digest_setRecovery w _).1]
      exact finishRecovered_outcome answers _ counted
  | escalates counted detail =>
      unfold takeTurn
      rw [outcome_bind_of_ok (digest_setRecovery w _).1]
      exact finishManual_outcome answers _ counted detail

end Recovery

/-- What this cycle's `docker.restart` sends and returns. -/
def restartCall (config : Config) (answers : CycleAnswers) : RestartCall :=
  DockerClient.restart config answers.listing answers.post
    config.teslamateContainer

/-- What asking for the restart adds to a trace, given the id it posted to. -/
def requestEffects (config : Config) (answers : CycleAnswers)
    (transition : Transition) (posted : Option Json) : List Effect :=
  [.event (.recoveryStarted transition.current transition.reason
      config.teslamateContainer config.postRestartWaitSeconds),
    .restartCalled config.teslamateContainer] ++
    posted.toList.map fun id => .posted id answers.post answers.postAt

namespace Digest

variable (config : Config) (answers : CycleAnswers) (transition : Transition)
  (before : Digest)

/-- The restart is announced and asked for. -/
def request : Digest :=
  before.emit (requestEffects config answers transition
    (restartCall config answers).posted)

def executed (success : Bool) (detail : String) : Digest :=
  before.emit [.event (.restartExecuted transition.current success detail
    config.teslamateContainer)]

def refused (detail : String) : Digest :=
  ((before.setRecovery
      { before.recovery with status := .manualInterventionRequired }).force
    .manualInterventionRequired ("restart failed: " ++ detail)).emit
      [.event (.manualInterventionRequired none ("restart failed: " ++ detail)
        ("The watchdog could not restart TeslaMate. Check the socket proxy " ++
          "grants and the container name.") none)]

def recorded : Digest :=
  { before with
    restarts := (before.restarts.record transition.current transition.reason
      answers.recordAt answers.historyWritten).2
    effects := before.effects ++
      [.recorded transition.current answers.recordAt] }

def held : Digest :=
  (before.setRecovery {
    progress := some {
      triggerState := transition.current
      reason := transition.reason
      deadline := answers.monotonic + config.postRestartWaitSeconds }
    status := .waitingAfterRestart }).force .recovering
      ("restart issued: " ++ transition.reason)

@[simp]
theorem executed_effects (success : Bool) (detail : String) :
    (before.executed config transition success detail).effects =
      before.effects ++ [.event (.restartExecuted transition.current success
        detail config.teslamateContainer)] := rfl

@[simp]
theorem refused_effects (detail : String) :
    (before.refused detail).effects = before.effects ++
      [.forced .manualInterventionRequired ("restart failed: " ++ detail)] ++
      [.event (.manualInterventionRequired none ("restart failed: " ++ detail)
        ("The watchdog could not restart TeslaMate. Check the socket proxy " ++
          "grants and the container name.") none)] := rfl

@[simp]
theorem recorded_effects :
    (before.recorded answers transition).effects = before.effects ++
      [.recorded transition.current answers.recordAt] := rfl

@[simp]
theorem held_effects :
    (before.held config answers transition).effects = before.effects ++
      [.forced .recovering ("restart issued: " ++ transition.reason)] := rfl

end Digest

/-- The four ways `begin` can go: the client raises, the restart is reported as
failed, recording it raises, or the recovery is under way. -/
inductive Begun (config : Config) (answers : CycleAnswers) (before : Digest)
    (transition : Transition) : Except PyError Bool → Digest → Prop
  | raised {error : PyError}
      (hcall : (restartCall config answers).result = .error error) :
      Begun config answers before transition (.error error)
        (before.request config answers transition)
  | refused {detail : String}
      (hcall : (restartCall config answers).result = .ok (false, detail)) :
      Begun config answers before transition (.ok false)
        (((before.request config answers transition).executed config
          transition false detail).refused detail)
  | unrecorded {detail : String} {error : PyError}
      (hcall : (restartCall config answers).result = .ok (true, detail))
      (hrecord : (before.restarts.record transition.current transition.reason
        answers.recordAt answers.historyWritten).1 = .error error) :
      Begun config answers before transition (.error error)
        (((before.request config answers transition).executed config
          transition true detail).recorded answers transition)
  | restarted {detail : String} {entry : RestartRecord}
      (hcall : (restartCall config answers).result = .ok (true, detail))
      (hrecord : (before.restarts.record transition.current transition.reason
        answers.recordAt answers.historyWritten).1 = .ok entry) :
      Begun config answers before transition (.ok true)
        ((((before.request config answers transition).executed config
          transition true detail).recorded answers transition).held config
            answers transition)

section Begin

variable (config : Config) (answers : CycleAnswers)

theorem digest_publishEvent (w : Watchdog) {published : Event}
    (hloud : published.ofRecovery = true) :
    outcome (publishEvent published) w =
        (.ok (), { w with trace := w.trace ++ [.event published] }) ∧
      ({ w with trace := w.trace ++ [.event published] } : Watchdog).digest =
        w.digest.emit [.event published] := by
  refine ⟨rfl, digest_emit_of_decides w fun effect heffect => ?_⟩
  rw [List.mem_singleton.mp heffect]
  exact hloud

/-- `docker.restart` leaves its call, and the POST if it sends one. -/
theorem restart_outcome (w : Watchdog) :
    ∃ after,
      outcome (Call.restart config answers config.teslamateContainer) w =
        ((restartCall config answers).result, after) ∧
      after.digest = w.digest.emit
        (.restartCalled config.teslamateContainer ::
          (restartCall config answers).posted.toList.map fun id =>
            .posted id answers.post answers.postAt) := by
  refine ⟨_, outcome_answer _ _, ?_⟩
  have hposted : ∀ effect ∈ (restartCall config answers).posted.toList.map
      (fun id => Effect.posted id answers.post answers.postAt),
      effect.decides = true := by
    intro effect heffect
    obtain ⟨id, _, rfl⟩ := List.mem_map.mp heffect
    rfl
  have hcalled : ∀ effect ∈ [Effect.restartCalled config.teslamateContainer],
      effect.decides = true := by
    intro effect heffect
    rw [List.mem_singleton.mp heffect]
    rfl
  rw [restartCall] at hposted
  rw [digest_emit_of_decides _ hposted, digest_emit_of_decides _ hcalled]
  simp only [Digest.emit, List.append_assoc]
  rfl

theorem recordRestart_outcome (w : Watchdog) (transition : Transition) :
    ∃ after,
      outcome (recordRestart answers transition.current transition.reason) w =
        ((w.restarts.record transition.current transition.reason
          answers.recordAt answers.historyWritten).1.map fun _ => (), after) ∧
      after.digest = w.digest.recorded answers transition := by
  unfold recordRestart
  rw [outcome_bind_of_ok (outcome_get w), outcome_bind_of_ok (outcome_set w _),
    outcome_answer_bind]
  have hdigest : ∀ restarts : RestartManager,
      ({ w with
        restarts := restarts
        trace := w.trace ++ [Effect.recorded transition.current
          answers.recordAt] } : Watchdog).digest =
      { w.digest with
        restarts := restarts
        effects := w.digest.effects ++
          [.recorded transition.current answers.recordAt] } := by
    simp [Watchdog.digest, Effect.decides]
  cases hrecord : (w.restarts.record transition.current transition.reason
      answers.recordAt answers.historyWritten).1 with
  | ok entry => exact ⟨_, rfl, hdigest _⟩
  | error error => exact ⟨_, rfl, hdigest _⟩

theorem refuse_outcome (w : Watchdog) (detail : String) :
    ∃ after, outcome (RecoveryController.refuse detail) w = (.ok (), after) ∧
      after.digest = w.digest.refused detail := by
  refine ⟨_, rfl, ?_⟩
  simp [Watchdog.digest, Digest.refused, Digest.setRecovery, Digest.force,
    Digest.emit, Effect.decides, Event.ofRecovery]

theorem hold_outcome (w : Watchdog) (transition : Transition) :
    ∃ after,
      outcome (RecoveryController.hold config answers transition.current
        transition.reason) w = (.ok (), after) ∧
      after.digest = w.digest.held config answers transition := by
  refine ⟨_, rfl, ?_⟩
  simp [Watchdog.digest, Digest.held, Digest.setRecovery, Digest.force,
    Effect.decides]

/-- `begin` goes one of its four ways. -/
theorem begin_begun (transition : Transition) (w : Watchdog) :
    ∃ result after,
      outcome (RecoveryController.begin config answers transition.current
        transition.reason) w = (result, after) ∧
      Begun config answers w.digest transition result after.digest := by
  obtain ⟨hannounced, hstarted⟩ := @digest_publishEvent w
    (.recoveryStarted transition.current transition.reason
      config.teslamateContainer config.postRestartWaitSeconds) rfl
  unfold RecoveryController.begin
  rw [outcome_bind_of_ok hannounced]
  obtain ⟨asked, hasked, hrequest⟩ := restart_outcome config answers
    { w with trace := w.trace ++ [.event (.recoveryStarted transition.current
      transition.reason config.teslamateContainer
      config.postRestartWaitSeconds)] }
  replace hrequest : asked.digest =
      w.digest.request config answers transition := by
    rw [hrequest, hstarted]
    simp [Digest.emit, Digest.request, requestEffects]
  cases hcall : (restartCall config answers).result with
  | error error =>
      rw [hcall] at hasked
      refine ⟨_, _, outcome_bind_of_error hasked _, ?_⟩
      rw [hrequest]
      exact .raised hcall
  | ok reply =>
      obtain ⟨success, detail⟩ := reply
      rw [hcall] at hasked
      rw [outcome_bind_of_ok hasked]
      obtain ⟨hpublished, hexecuted⟩ := @digest_publishEvent asked
        (.restartExecuted transition.current success detail
          config.teslamateContainer) rfl
      rw [outcome_bind_of_ok hpublished]
      rw [hrequest] at hexecuted
      cases success with
      | false =>
          obtain ⟨after, hrefused, hafter⟩ := refuse_outcome
            { asked with trace := asked.trace ++ [.event (.restartExecuted
              transition.current false detail config.teslamateContainer)] }
            detail
          rw [hexecuted] at hafter
          refine ⟨_, after, outcome_bind_of_ok hrefused _, ?_⟩
          rw [hafter]
          exact .refused hcall
      | true =>
          obtain ⟨saved, hsaved, hrecorded⟩ := recordRestart_outcome answers
            { asked with trace := asked.trace ++ [.event (.restartExecuted
              transition.current true detail config.teslamateContainer)] }
            transition
          rw [hexecuted] at hrecorded
          have hrestarts : asked.restarts = w.restarts :=
            congrArg Digest.restarts hrequest
          cases hrecord : (asked.restarts.record transition.current
              transition.reason answers.recordAt answers.historyWritten).1 with
          | error error =>
              rw [hrecord] at hsaved
              rw [hrestarts] at hrecord
              refine ⟨_, saved, outcome_bind_of_error hsaved _, ?_⟩
              rw [hrecorded]
              exact .unrecorded hcall hrecord
          | ok entry =>
              rw [hrecord] at hsaved
              rw [hrestarts] at hrecord
              obtain ⟨after, hheld, hafter⟩ :=
                hold_outcome config answers saved transition
              rw [hrecorded] at hafter
              refine ⟨_, after, (outcome_bind_of_ok hsaved _).trans
                (outcome_bind_of_ok hheld _), ?_⟩
              rw [hafter]
              exact .restarted hcall hrecord

end Begin

/-- What `_consider_recovery` has checked when it begins a restart. -/
def Cleared (config : Config) (answers : CycleAnswers) (before : Digest)
    (transition : Transition) : Prop :=
  ∃ reachable,
    Watchdog.probeTeslaAuth config answers transition.current = .ok reachable ∧
    before.restarts.Guarded config transition.current
      before.databaseHealthyStreak reachable answers.evaluateAt

/-- A cleared transition enters a failure state. -/
theorem Cleared.failure {config : Config} {answers : CycleAnswers}
    {before : Digest} {transition : Transition}
    (hcleared : Cleared config answers before transition) :
    transition.current ∈ failureStates := by
  obtain ⟨_, _, hguarded⟩ := hcleared
  exact mem_failureStates_of_restartable hguarded.restartable

/-- What `capture` hands to the writer. -/
def CaptureRequest.of (config : Config) (answers : CycleAnswers)
    (restarts : RestartManager) (dockerState : Option DockerState)
    (transition : Transition) (observation : Observation)
    (lastRestart : Option String) : CaptureRequest where
  state := transition.current
  reason := transition.reason
  observation := observation
  restartCount24h := restarts.restartsIn24h answers.captureAt
  lastRestart := lastRestart
  restartAttempted :=
    transition.current ∈ [.loggerUnhealthy, .teslamateUnreachable]
  teslamateLog := RecoveryController.safeLogs config answers
    config.teslamateContainer
  databaseLog := RecoveryController.safeLogs config answers
    config.databaseContainer
  dockerState := dockerState

/-- What comes of a capture. -/
def captureReply (config : Config) (answers : CycleAnswers)
    (restarts : RestartManager) (dockerState : Option DockerState)
    (transition : Transition) (observation : Observation) :
    Except PyError (Option Incident) := do
  let lastRestart ← restarts.lastRestartIso
  answers.writeBundle (.of config answers restarts dockerState transition
    observation lastRestart)

/-- How `_consider_recovery` ends: it raises before a restart, withholds it, or
begins it. -/
inductive Considered (config : Config) (answers : CycleAnswers)
    (before : Digest) (dockerState : Option DockerState)
    (transition : Transition) (observation : Observation) :
    Except PyError Bool → Digest → Prop
  | raised {error : PyError}
      (hstops : ¬ (Cleared config answers before transition ∧
        (captureReply config answers before.restarts dockerState transition
          observation).isOk = true)) :
      Considered config answers before dockerState transition observation
        (.error error) before
  | withheld (hwithheld : ¬ Cleared config answers before transition)
      (hcaptured : (captureReply config answers before.restarts dockerState
        transition observation).isOk = true) :
      Considered config answers before dockerState transition observation
        (.ok false) before
  | begun {reply : Except PyError Bool} {after : Digest}
      (hcleared : Cleared config answers before transition)
      (hcaptured : (captureReply config answers before.restarts dockerState
        transition observation).isOk = true)
      (hbegun : Begun config answers before transition reply after) :
      Considered config answers before dockerState transition observation
        reply after

/-- The reaction to a transition: nothing that decides, or a restart that all
guards passed.  A restart that raised ends the cycle. -/
def Reacted (config : Config) (answers : CycleAnswers) (before : Digest)
    (transition : Transition) (returned : Bool) (after : Digest) : Prop :=
  after = before ∨
    Cleared config answers before transition ∧
      ∃ begun, Begun config answers before transition begun after ∧
        (returned = true → begun.isOk = true)

/-- How a cycle can go.  It is blind when gathering raises; it advances a
recovery in progress; otherwise it steps the machine and may react. -/
inductive Course (config : Config) (classifier : LogClassifier)
    (answers : CycleAnswers) (before : Digest) : Bool → Digest → Prop
  | blind {error : PyError}
      (hgather : gather config classifier answers = .error error) :
      Course config classifier answers before false before
  | recovering {observation : Observation} {progress : Progress}
      {returned : Bool}
      (hgather : gather config classifier answers = .ok observation)
      (hprogress : before.recovery.progress = some progress) :
      Course config classifier answers before returned
        ((before.observe observation).take answers
          (turn config answers.monotonic progress observation))
  | watching {observation : Observation} {returned : Bool}
      (hgather : gather config classifier answers = .ok observation)
      (hinactive : before.recovery.progress = none) :
      Course config classifier answers before returned
        ((before.observe observation).step config observation)
  | restarting {observation : Observation} {transition : Transition}
      {begun : Except PyError Bool} {returned : Bool} {after : Digest}
      (hgather : gather config classifier answers = .ok observation)
      (hinactive : before.recovery.progress = none)
      (htransition :
        (before.machine.step config observation).1 = some transition)
      (hcleared : Cleared config answers
        ((before.observe observation).step config observation) transition)
      (hbegun : Begun config answers
        ((before.observe observation).step config observation) transition
        begun after)
      (hreturned : returned = true → begun.isOk = true) :
      Course config classifier answers before returned after

section Cycle

variable (config : Config) (classifier : LogClassifier) (answers : CycleAnswers)

theorem capture_outcome (transition : Transition) (observation : Observation)
    (w : Watchdog) :
    ∃ after,
      outcome (RecoveryController.capture config answers transition.current
        transition.reason observation) w =
        ((captureReply config answers w.restarts w.lastDockerState transition
          observation).map fun _ => (), after) ∧ after.digest = w.digest := by
  have hkeeps := keeps_capture config answers transition.current
    transition.reason observation w
  refine ⟨_, Prod.ext ?_ rfl, hkeeps⟩
  unfold RecoveryController.capture captureReply
  rw [outcome_bind_of_ok (outcome_get w), outcome_answer_bind]
  cases w.restarts.lastRestartIso with
  | error error => rfl
  | ok lastRestart =>
      dsimp only
      rw [outcome_bind_of_ok rfl, outcome_answer_bind]
      change _ = (answers.writeBundle (.of config answers w.restarts
        w.lastDockerState transition observation lastRestart)).map fun _ => ()
      unfold CaptureRequest.of
      cases answers.writeBundle _ with
      | error error => rfl
      | ok incident => cases incident <;> rfl

/-- What follows a capture is only done when the capture returned. -/
theorem capture_considered (transition : Transition)
    (observation : Observation) (w : Watchdog) {next : Call Bool}
    (hnext : (captureReply config answers w.digest.restarts w.lastDockerState
        transition observation).isOk = true →
      ∀ middle : Watchdog, middle.digest = w.digest → ∃ reply after,
        outcome next middle = (reply, after) ∧
        Considered config answers w.digest w.lastDockerState transition
          observation reply after.digest) :
    ∃ reply after,
      outcome (RecoveryController.capture config answers transition.current
        transition.reason observation >>= fun _ => next) w = (reply, after) ∧
      Considered config answers w.digest w.lastDockerState transition
        observation reply after.digest := by
  obtain ⟨middle, hcapture, hmiddle⟩ :=
    capture_outcome config answers transition observation w
  rw [w.digest_restarts] at hnext
  cases hreply : captureReply config answers w.restarts w.lastDockerState
      transition observation with
  | error error =>
      rw [hreply] at hcapture
      refine ⟨_, _, outcome_bind_of_error hcapture _, ?_⟩
      rw [hmiddle]
      refine .raised fun hboth => ?_
      have hok := hboth.2
      rw [w.digest_restarts, hreply] at hok
      cases hok
  | ok incident =>
      rw [hreply] at hcapture hnext
      rw [outcome_bind_of_ok hcapture]
      exact hnext rfl middle hmiddle

theorem considerRecovery_considered (transition : Transition)
    (observation : Observation) (w : Watchdog) :
    ∃ reply after,
      outcome (Watchdog.considerRecovery config answers transition.current
        transition.reason observation) w = (reply, after) ∧
      Considered config answers w.digest w.lastDockerState transition
        observation reply after.digest := by
  unfold Watchdog.considerRecovery
  by_cases hrestartable : restartAllowedForState transition.current = true
  · rw [hrestartable, Bool.not_true, if_neg Bool.false_ne_true,
      outcome_answer_bind]
    cases hprobe : Watchdog.probeTeslaAuth config answers transition.current with
    | error error =>
        refine ⟨_, _, rfl, .raised ?_⟩
        rintro ⟨⟨reachable, hreachable, _⟩, _⟩
        rw [hprobe] at hreachable
        cases hreachable
    | ok reachable =>
        have hcleared : Cleared config answers w.digest transition ↔
            w.restarts.Allows config transition.current
              w.databaseHealthyStreak reachable answers.evaluateAt := by
          constructor
          · rintro ⟨probed, hprobed, hguarded⟩
            obtain rfl := Except.ok.inj (hprobe.symm.trans hprobed)
            exact RestartManager.allows_iff_guarded.mpr hguarded
          · intro hallows
            exact ⟨reachable, hprobe,
              RestartManager.allows_iff_guarded.mp hallows⟩
        dsimp only
        rw [outcome_bind_of_ok (outcome_get w), outcome_answer_bind]
        cases hdecision : w.restarts.evaluate config transition.current
            w.databaseHealthyStreak reachable answers.evaluateAt with
        | error error =>
            refine ⟨_, _, rfl, .raised ?_⟩
            rintro ⟨hallowed, _⟩
            obtain ⟨decision, hreturned, _⟩ := hcleared.mp hallowed
            rw [hdecision] at hreturned
            cases hreturned
        | ok decision =>
            have hallowed : Cleared config answers w.digest transition ↔
                decision.allowed = true := by
              rw [hcleared]
              constructor
              · rintro ⟨returned, hreturned, hallows⟩
                obtain rfl := Except.ok.inj (hdecision.symm.trans hreturned)
                exact hallows
              · exact fun hallows => ⟨decision, hdecision, hallows⟩
            apply capture_considered
            intro hcaptured middle hmiddle
            cases hdecided : decision.allowed with
            | false =>
                refine ⟨_, middle, rfl, ?_⟩
                rw [hmiddle]
                refine .withheld (fun hclears => ?_) hcaptured
                have hcontra := hallowed.mp hclears
                rw [hdecided] at hcontra
                cases hcontra
            | true =>
                obtain ⟨begun, after, hbegin, hbegun⟩ :=
                  begin_begun config answers transition middle
                rw [hmiddle] at hbegun
                exact ⟨begun, after, hbegin,
                  .begun (hallowed.mpr hdecided) hcaptured hbegun⟩
  · rw [Bool.not_eq_true] at hrestartable
    rw [hrestartable, Bool.not_false, if_pos rfl]
    apply capture_considered
    intro hcaptured middle hmiddle
    refine ⟨_, middle, rfl, ?_⟩
    rw [hmiddle]
    refine .withheld ?_ hcaptured
    rintro ⟨_, _, hguarded⟩
    have hcontra := hguarded.restartable
    rw [hrestartable] at hcontra
    cases hcontra

theorem considerRecovery_outcome (transition : Transition)
    (observation : Observation) (w : Watchdog) :
    ∃ result after,
      outcome (Watchdog.considerRecovery config answers transition.current
        transition.reason observation) w = (result, after) ∧
      Reacted config answers w.digest transition result.isOk after.digest := by
  obtain ⟨reply, after, houtcome, hconsidered⟩ :=
    considerRecovery_considered config answers transition observation w
  have hreacted : ∀ {before next : Digest} {dockerState : Option DockerState}
      {result : Except PyError Bool},
      Considered config answers before dockerState transition observation
        result next →
      Reacted config answers before transition result.isOk next := by
    intro before next dockerState result hnext
    cases hnext with
    | raised hstops => exact .inl rfl
    | withheld hwithheld hcaptured => exact .inl rfl
    | begun hcleared hcaptured hbegun =>
        exact .inr ⟨hcleared, _, hbegun, id⟩
  exact ⟨reply, after, houtcome, hreacted hconsidered⟩

/-- What follows a reaction without deciding anything keeps it one. -/
theorem Reacted.bind {α β : Type} {transition : Transition} {w : Watchdog}
    {call : Call α} {next : α → Call β}
    (hcall : ∃ result after, outcome call w = (result, after) ∧
      Reacted config answers w.digest transition result.isOk after.digest)
    (hnext : ∀ value, Keeps Watchdog.digest (next value)) :
    ∃ result after, outcome (call >>= next) w = (result, after) ∧
      Reacted config answers w.digest transition result.isOk after.digest := by
  obtain ⟨result, middle, hresult, hreacted⟩ := hcall
  cases result with
  | error error =>
      exact ⟨_, middle, outcome_bind_of_error hresult next, hreacted⟩
  | ok value =>
      have hkeeps := hnext value middle
      rcases hrest : outcome (next value) middle with ⟨last, after⟩
      rw [hrest] at hkeeps
      refine ⟨last, after, (outcome_bind_of_ok hresult next).trans hrest, ?_⟩
      rw [hkeeps]
      rcases hreacted with hsame | ⟨hcleared, begun, hbegun, hok⟩
      · exact .inl hsame
      · exact .inr ⟨hcleared, begun, hbegun, fun _ => hok rfl⟩

theorem onTransition_outcome (transition : Transition)
    (observation : Observation) (w : Watchdog) :
    ∃ result after,
      outcome (Watchdog.onTransition config answers transition observation) w =
        (result, after) ∧
      Reacted config answers w.digest transition result.isOk after.digest := by
  unfold Watchdog.onTransition
  by_cases hfailure : transition.current ∈ failureStates
  · rw [if_neg (not_not_intro hfailure)]
    have hannounce : Keeps Watchdog.digest (publishEvent (.failureDetected
        ⟨transition.current, transition.previous, transition.reason,
          observation⟩)) := keeps_publishEvent rfl
    let marked : Watchdog := { w with lastFailure := answers.failureIso }
    have hmarked := hannounce marked
    obtain ⟨result, after, hresult, hreacted⟩ := Reacted.bind config answers
      (considerRecovery_outcome config answers transition observation
        (outcome (publishEvent _) marked).2)
      (fun restarting => keeps_publishFollowUp config _ restarting)
    rw [hmarked] at hreacted
    exact ⟨result, after, hresult, hreacted⟩
  · rw [if_pos hfailure]
    exact ⟨_, w, rfl, .inl rfl⟩

theorem stepMachine_outcome (observation : Observation) (w : Watchdog) :
    ∃ after,
      outcome (stepMachine config observation) w =
        (.ok (w.machine.step config observation).1, after) ∧
      after.digest = w.digest.step config observation := by
  refine ⟨_, rfl, ?_⟩
  simp [Watchdog.digest, Digest.step, Effect.decides]

/-- The end of a cycle reports, and decides nothing. -/
theorem publish_outcome (observation : Observation) (w : Watchdog) :
    ∃ result after,
      outcome (Watchdog.publishStatus answers observation >>= fun _ =>
        (pure observation : Call Observation)) w = (result, after) ∧
      after.digest = w.digest :=
  ⟨_, _, rfl, (keeps_publishStatus answers observation).bind
    (fun _ => Keeps.of_pure observation) w⟩

/-- Every cycle takes one of the courses. -/
theorem checkOnce_course (w : Watchdog) :
    ∃ result after,
      outcome (Watchdog.checkOnce config classifier answers) w =
        (result, after) ∧
      Course config classifier answers w.digest result.isOk after.digest := by
  obtain ⟨seen, hobserve, hseen⟩ := observe_outcome config classifier answers w
  unfold Watchdog.checkOnce
  cases hgather : gather config classifier answers with
  | error error =>
      rw [hgather] at hobserve hseen
      refine ⟨_, seen, outcome_bind_of_error hobserve _, ?_⟩
      rw [hseen]
      exact .blind hgather
  | ok observation =>
      rw [hgather] at hobserve hseen
      rw [outcome_bind_of_ok hobserve, outcome_bind_of_ok (outcome_get seen)]
      have hrecovery : seen.recovery = w.recovery :=
        congrArg Digest.recovery hseen
      cases hprogress : w.recovery.progress with
      | some progress =>
          rw [hrecovery, RecoveryController.active_of_some hprogress, if_pos rfl]
          obtain ⟨advanced, hadvanced, hturn⟩ := recoveryStep_outcome config
            answers (hrecovery ▸ hprogress) observation
          obtain ⟨result, after, hresult, hafter⟩ :=
            publish_outcome answers observation advanced
          refine ⟨result, after,
            (outcome_bind_of_ok hadvanced _).trans hresult, ?_⟩
          rw [hafter, hturn, hseen]
          exact .recovering hgather hprogress
      | none =>
          rw [hrecovery, RecoveryController.active_of_none hprogress,
            if_neg Bool.false_ne_true]
          obtain ⟨stepped, hstepped, hdigest⟩ :=
            stepMachine_outcome config observation seen
          have hmachine : seen.machine = w.machine :=
            congrArg Digest.machine hseen
          rw [hseen] at hdigest
          cases htransition :
              (w.machine.step config observation).1 with
          | none =>
              rw [hmachine, htransition] at hstepped
              obtain ⟨result, after, hresult, hafter⟩ :=
                publish_outcome answers observation stepped
              refine ⟨result, after,
                (outcome_bind_of_ok hstepped _).trans hresult, ?_⟩
              rw [hafter, hdigest]
              exact .watching hgather hprogress
          | some transition =>
              rw [hmachine, htransition] at hstepped
              obtain ⟨result, after, hresult, hreacted⟩ := Reacted.bind config
                answers (onTransition_outcome config answers transition
                  observation stepped)
                (fun _ => (keeps_publishStatus answers observation).bind
                  fun _ => Keeps.of_pure observation)
              refine ⟨result, after,
                (outcome_bind_of_ok hstepped _).trans hresult, ?_⟩
              rw [hdigest] at hreacted
              rcases hreacted with hsame | ⟨hcleared, begun, hbegun, hok⟩
              · rw [hsame]
                exact .watching hgather hprogress
              · exact .restarting hgather hprogress htransition hcleared hbegun
                  hok

end Cycle

end TeslamateWatchdog
