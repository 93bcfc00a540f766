/-
Which part of the container's log can influence a decision: two runs that are
told the same by everything but the log, and whose logs show equally many lines
of each failure category, go through the same states, restarts and recoveries.
-/
import TeslamateWatchdog.CheckLoop
import TeslamateWatchdog.Foundation.Lockstep

namespace TeslamateWatchdog

open Foundation Call

/-- Texts with equally many matching lines of every failure category. -/
def LogClassifier.SameFailures (classifier : LogClassifier)
    (first second : String) : Prop :=
  ∀ category ∈ failureCategories,
    classifier.matchingLines category first =
      classifier.matchingLines category second

instance (classifier : LogClassifier) (first second : String) :
    Decidable (classifier.SameFailures first second) :=
  inferInstanceAs (Decidable (∀ category ∈ failureCategories, _))

/-- The signals that `evaluate` reads. -/
def failureSignals (signals : Option LogSignals) : Bool × Bool :=
  (signals.any (·.tokenDecryptionFailure),
    signals.any fun signals => signals.authRefreshFailing || signals.authLost)

/-- Observations that differ, if at all, in signals nobody reads. -/
structure Observation.Alike (first second : Observation) : Prop where
  evidence : { first with logSignals := none } =
    { second with logSignals := none }
  signals : failureSignals first.logSignals = failureSignals second.logSignals

theorem Observation.Alike.evaluate_eq {first second : Observation}
    (halike : first.Alike second) : evaluate first = evaluate second := by
  obtain ⟨hevidence, hsignals⟩ := halike
  obtain ⟨http, healthy, stale, detail, database, container, signals⟩ := first
  obtain ⟨_, _, _, _, _, _, others⟩ := second
  obtain ⟨rfl, rfl, rfl, rfl, rfl, rfl, _⟩ := Observation.mk.inj hevidence
  obtain ⟨htoken, hrefresh⟩ := Prod.mk.inj hsignals
  simp only [evaluate, Observation.tokenDecryptionFailure,
    Observation.authRefreshFailingOrLost, htoken, hrefresh]

section Signals

variable {classifier : LogClassifier} {text first second : String}

/-- The signals of a text, in terms of the lines that match. -/
theorem failureSignals_classify (text : String) :
    failureSignals (some (classifier.signals (classifier.classify text))) =
      (decide (classifier.threshold "token_decryption" ≤
          classifier.matchingLines "token_decryption" text),
        decide (classifier.threshold "refresh_failure" ≤
            classifier.matchingLines "refresh_failure" text) ||
          decide (classifier.threshold "auth_lost" ≤
            classifier.matchingLines "auth_lost" text)) := by
  simp only [failureSignals, LogClassifier.signals, LogClassifier.confirmed,
    LogClassifier.count_classify, Option.any_some]

/-- With positive thresholds an empty text, which is not classified at all,
gives what classifying it would give. -/
theorem failureSignals_empty
    (hthresholds : ∀ category ∈ failureCategories,
      1 ≤ classifier.threshold category) :
    failureSignals none =
      failureSignals (some (classifier.signals (classifier.classify ""))) := by
  have hnone : ∀ category ∈ failureCategories,
      decide (classifier.threshold category ≤
        classifier.matchingLines category "") = false := by
    intro category hcategory
    have hpositive := hthresholds category hcategory
    have hnothing : classifier.matchingLines category "" = 0 := rfl
    rw [decide_eq_false_iff_not, hnothing]
    omega
  rw [failureSignals_classify, hnone "token_decryption" (by decide),
    hnone "refresh_failure" (by decide), hnone "auth_lost" (by decide)]
  rfl

/-- The log signals of a text as `_observe` takes them. -/
theorem failureSignals_of_text
    (hthresholds : ∀ category ∈ failureCategories,
      1 ≤ classifier.threshold category) (text : String) :
    failureSignals (if text = "" then none
      else some (classifier.signals (classifier.classify text))) =
    failureSignals (some (classifier.signals (classifier.classify text))) := by
  by_cases hempty : text = ""
  · rw [if_pos hempty, hempty]
    exact failureSignals_empty hthresholds
  · rw [if_neg hempty]

theorem LogClassifier.SameFailures.failureSignals_eq
    (hsame : classifier.SameFailures first second) :
    failureSignals (some (classifier.signals (classifier.classify first))) =
      failureSignals (some (classifier.signals (classifier.classify second))) := by
  rw [failureSignals_classify, failureSignals_classify,
    hsame "token_decryption" (by decide), hsame "refresh_failure" (by decide),
    hsame "auth_lost" (by decide)]

end Signals

/-- An effect that is a decision, and not a report or a reading. -/
def Effect.acts : Effect → Bool
  | .event published => published.ofRecovery
  | .forced _ _ => true
  | .restartCalled _ => true
  | .posted _ _ _ => true
  | .recorded _ _ => true
  | _ => false

/-- The container states of a check without its log. -/
def DockerState.withoutLog (dockerState : DockerState) : DockerState :=
  { dockerState with logClassification := none }

/-- The objects without what only reports read, and the decisions so far. -/
structure Decisions where
  machine : StateMachine
  restarts : RestartManager
  recovery : RecoveryController
  databaseHealthyStreak : Nat
  dockerState : Option DockerState
  acts : List Effect

def Watchdog.decisions (w : Watchdog) : Decisions where
  machine := w.machine
  restarts := w.restarts
  recovery := w.recovery
  databaseHealthyStreak := w.databaseHealthyStreak
  dockerState := w.lastDockerState.map DockerState.withoutLog
  acts := w.trace.filter Effect.acts

/-- What goes into a bundle besides the logs and what was found in them. -/
def CaptureRequest.withoutLogs (request : CaptureRequest) : CaptureRequest :=
  { request with
    observation := { request.observation with logSignals := none }
    teslamateLog := ""
    databaseLog := ""
    dockerState := request.dockerState.map DockerState.withoutLog }

/-- The same answers but for the logs.  The text read for the decision has as
many lines of each failure category; whether writing a bundle raises does not
depend on the logs in it. -/
structure CycleAnswers.AlikeButLogs (config : Config)
    (classifier : LogClassifier) (first second : CycleAnswers) : Prop where
  answers : second = { first with
    logs := second.logs
    diagnosticLogs := second.diagnosticLogs
    writeBundle := second.writeBundle }
  log : Replies classifier.SameFailures
    (first.logs config.teslamateContainer config.logAnalysisLookbackSeconds)
    (second.logs config.teslamateContainer config.logAnalysisLookbackSeconds)
  bundle : ∀ request other : CaptureRequest,
    request.withoutLogs = other.withoutLogs →
    (first.writeBundle request).isOk = (second.writeBundle other).isOk

section Cycle

variable {config : Config} {classifier : LogClassifier}
  {first second : CycleAnswers}

theorem lockstep_answer {α β : Type} {values : α → β → Prop}
    {reply : Except PyError α} {other : Except PyError β}
    (hreplies : Replies values reply other) :
    Lockstep Watchdog.decisions values (answer reply) (answer other) :=
  Lockstep.of_keeps (keeps_answer reply) (keeps_answer other) fun s t _ => by
    rw [outcome_answer, outcome_answer]
    exact hreplies

theorem decisions_emit (w : Watchdog) (effects : List Effect) :
    ({ w with trace := w.trace ++ effects } : Watchdog).decisions =
      { w.decisions with
        acts := w.decisions.acts ++ effects.filter Effect.acts } := by
  simp [Watchdog.decisions]

/-- A report leaves no mark on the decisions. -/
theorem keepsDecisions_emit {effect : Effect} (hreport : effect.acts = false) :
    Keeps Watchdog.decisions (Call.emit effect) := by
  refine Keeps.of_modify fun w => ?_
  rw [decisions_emit, List.filter_singleton, hreport]
  exact congrArg (Decisions.mk _ _ _ _ _) (List.append_nil _)

theorem lockstep_emitAll {effects others : List Effect}
    (heffects : effects.filter Effect.acts = others.filter Effect.acts) :
    Lockstep Watchdog.decisions (fun _ _ => True) (Call.emitAll effects)
      (Call.emitAll others) := by
  refine Lockstep.of_modify
    (fun seen => { seen with acts := seen.acts ++ effects.filter Effect.acts })
    (fun w => decisions_emit w effects) fun w => ?_
  rw [decisions_emit, heffects]

theorem lockstep_setRecovery (recovery : RecoveryController) :
    Lockstep Watchdog.decisions (fun _ _ => True) (setRecovery recovery)
      (setRecovery recovery) :=
  Lockstep.of_modify (fun seen => { seen with recovery := recovery })
    (fun _ => rfl) (fun _ => rfl)

theorem lockstep_forceState (state : State) (reason : String) :
    Lockstep Watchdog.decisions (fun _ _ => True) (forceState state reason)
      (forceState state reason) := by
  let forced : Decisions → Decisions := fun seen => { seen with
    machine := (seen.machine.forceState state reason).2
    acts := seen.acts ++ [.forced state reason] }
  have hforce : ∀ w : Watchdog, ({ w with
      machine := (w.machine.forceState state reason).2
      trace := w.trace ++ [.forced state reason] } : Watchdog).decisions =
      forced w.decisions := by
    intro w
    simp [Watchdog.decisions, Effect.acts, forced]
  exact Lockstep.of_modify forced hforce hforce

theorem lockstep_publishEvent (published : Event) :
    Lockstep Watchdog.decisions (fun _ _ => True) (publishEvent published)
      (publishEvent published) :=
  lockstep_emitAll rfl

theorem keepsDecisions_publishEvent {published : Event}
    (hreport : published.ofRecovery = false) :
    Keeps Watchdog.decisions (publishEvent published) :=
  keepsDecisions_emit hreport

/-- Reports need not agree. -/
theorem lockstep_report {α β : Type} {call : Call α} {other : Call β}
    (hcall : Keeps Watchdog.decisions call)
    (hother : Keeps Watchdog.decisions other)
    (hends : ∀ s t, s.decisions = t.decisions →
      (outcome call s).1.isOk = (outcome other t).1.isOk) :
    Lockstep Watchdog.decisions (fun _ _ => True) call other :=
  Lockstep.of_keeps hcall hother fun s t hview => .of_isOk (hends s t hview)

theorem lockstep_stepMachine {observation other : Observation}
    (halike : observation.Alike other) :
    Lockstep Watchdog.decisions (· = ·) (stepMachine config observation)
      (stepMachine config other) := by
  have hstep : ∀ machine : StateMachine, machine.step config observation =
      machine.step config other := by
    intro machine
    simp only [StateMachine.step, halike.evaluate_eq]
  refine Lockstep.of_get.bind fun s t hview => ?_
  have hmachine : s.machine = t.machine := congrArg Decisions.machine hview
  have hafter : ({ s with
      machine := (s.machine.step config observation).2
      trace := s.trace ++ [Effect.stepped observation] } : Watchdog).decisions =
    ({ t with
      machine := (t.machine.step config other).2
      trace := t.trace ++ [Effect.stepped other] } : Watchdog).decisions := by
    obtain ⟨_, hrestarts, hrecovery, hdatabase, hdocker, hacts⟩ :=
      Decisions.mk.inj hview
    simp only [Watchdog.decisions, hmachine, hrestarts, hrecovery, hdatabase,
      hdocker, hstep, List.filter_append, hacts, List.filter_singleton,
      Effect.acts, cond_false]
  refine (Lockstep.of_set hafter).bind fun _ _ _ => Lockstep.of_pure ?_
  rw [hmachine, hstep]

/-- Everything but the logs is answered alike. -/
theorem CycleAnswers.AlikeButLogs.asked {α : Type} (question : CycleAnswers → α)
    (hquestion : ∀ logs diagnosticLogs writeBundle,
      question { first with
        logs := logs
        diagnosticLogs := diagnosticLogs
        writeBundle := writeBundle } = question first)
    (halike : first.AlikeButLogs config classifier second) :
    question second = question first :=
  (congrArg question halike.answers).trans (hquestion _ _ _)

theorem keepsDecisions_classifyLogs (answers : CycleAnswers) :
    Keeps Watchdog.decisions
      (Watchdog.classifyLogs config classifier answers) := by
  refine classifyLogs_keeps config answers classifier fun w _ => ?_
  simp only [Watchdog.decisions, Option.map_map]
  rfl

theorem lockstep_classifyLogs
    (hthresholds : ∀ category ∈ failureCategories,
      1 ≤ classifier.threshold category)
    (halike : first.AlikeButLogs config classifier second) :
    Lockstep Watchdog.decisions
      (fun signals others => failureSignals signals = failureSignals others)
      (Watchdog.classifyLogs config classifier first)
      (Watchdog.classifyLogs config classifier second) := by
  refine Lockstep.of_keeps (keepsDecisions_classifyLogs first)
    (keepsDecisions_classifyLogs second) fun s t _ => ?_
  obtain ⟨after, houtcome, _⟩ := asks_classifyLogs config classifier first s
  obtain ⟨other, hother, _⟩ := asks_classifyLogs config classifier second t
  rw [houtcome, hother]
  unfold gatherSignals
  by_cases hempty : classifier.isEmpty = true
  · rw [if_pos hempty, if_pos hempty]
    exact .returned rfl
  · rw [if_neg hempty, if_neg hempty]
    have hlog := halike.log
    revert hlog
    generalize first.logs config.teslamateContainer
      config.logAnalysisLookbackSeconds = reply
    generalize second.logs config.teslamateContainer
      config.logAnalysisLookbackSeconds = answered
    intro hlog
    cases hlog with
    | raised error error' => exact .raised error error'
    | @returned text others hsame =>
        apply Replies.returned
        rw [failureSignals_of_text hthresholds, failureSignals_of_text
          hthresholds, hsame.failureSignals_eq]

theorem lockstep_observe
    (hthresholds : ∀ category ∈ failureCategories,
      1 ≤ classifier.threshold category)
    (halike : first.AlikeButLogs config classifier second) :
    Lockstep Watchdog.decisions Observation.Alike
      (Watchdog.observe config classifier first)
      (Watchdog.observe config classifier second) := by
  have hevidence : Lockstep Watchdog.decisions Observation.Alike
      (Watchdog.evidence config classifier first)
      (Watchdog.evidence config classifier second) := by
    unfold Watchdog.evidence
    rw [halike.asked CycleAnswers.check fun _ _ _ => rfl,
      halike.asked CycleAnswers.loggerHealth fun _ _ _ => rfl,
      halike.asked CycleAnswers.status fun _ _ _ => rfl,
      halike.asked CycleAnswers.connect fun _ _ _ => rfl]
    refine (lockstep_answer (.refl _)).bind ?_
    rintro http _ rfl
    refine (lockstep_answer (.refl _)).bind ?_
    rintro status _ rfl
    refine (lockstep_answer (.refl _)).bind ?_
    rintro database _ rfl
    refine (lockstep_answer (.refl _)).bind ?_
    rintro teslamateDict _ rfl
    refine (lockstep_answer (.refl _)).bind ?_
    rintro databaseDict _ rfl
    refine (Lockstep.of_modify (fun seen : Decisions => { seen with
      dockerState := some ⟨teslamateDict, databaseDict, none⟩ })
      (fun _ => rfl) (fun _ => rfl)).bind fun _ _ _ => ?_
    refine (lockstep_classifyLogs hthresholds halike).bind
      fun signals others hsignals => ?_
    exact Lockstep.of_pure ⟨rfl, hsignals⟩
  unfold Watchdog.observe
  refine hevidence.bind fun observation other hobservation => ?_
  have hhealthy : observation.databaseHealthy = other.databaseHealthy := by
    have hevidence := congrArg Observation.databaseHealthy hobservation.evidence
    exact hevidence
  refine Lockstep.bind (Lockstep.of_modify (fun seen : Decisions => { seen with
    databaseHealthyStreak := if observation.databaseHealthy = some true then
      seen.databaseHealthyStreak + 1 else 0 }) (fun w => ?_) fun w => ?_)
    fun _ _ _ => Lockstep.of_pure hobservation
  · simp [Watchdog.decisions, Effect.acts]
  · simp [Watchdog.decisions, Effect.acts, hhealthy]

theorem lockstep_capture {observation other : Observation}
    (hobservation : observation.Alike other)
    (halike : first.AlikeButLogs config classifier second) (state : State)
    (reason : String) :
    Lockstep Watchdog.decisions (fun _ _ => True)
      (RecoveryController.capture config first state reason observation)
      (RecoveryController.capture config second state reason other) := by
  unfold RecoveryController.capture
  refine Lockstep.of_get.bind fun s t hview => ?_
  have hrestarts : s.restarts = t.restarts :=
    congrArg Decisions.restarts hview
  have hdocker : s.lastDockerState.map DockerState.withoutLog =
      t.lastDockerState.map DockerState.withoutLog :=
    congrArg Decisions.dockerState hview
  rw [hrestarts, halike.asked CycleAnswers.captureAt fun _ _ _ => rfl]
  refine (lockstep_answer (.refl _)).bind ?_
  rintro lastRestart _ rfl
  refine (lockstep_report (keepsDecisions_emit rfl) (keepsDecisions_emit rfl)
    fun _ _ _ => rfl).bind fun _ _ _ => ?_
  refine (lockstep_answer (.of_isOk (halike.bundle _ _ ?_))).bind
    fun incident incident' _ => ?_
  · simp only [CaptureRequest.withoutLogs, hobservation.evidence, hdocker]
  · refine lockstep_report ?_ ?_ fun _ _ _ => ?_
    · cases incident with
      | none => exact Keeps.of_pure _
      | some incident => exact keepsDecisions_publishEvent rfl
    · cases incident' with
      | none => exact Keeps.of_pure _
      | some incident => exact keepsDecisions_publishEvent rfl
    · cases incident <;> cases incident' <;> rfl

theorem lockstep_recordRestart (answers : CycleAnswers) (state : State)
    (reason : String) :
    Lockstep Watchdog.decisions (· = ·) (recordRestart answers state reason)
      (recordRestart answers state reason) := by
  refine Lockstep.of_get.bind fun s t hview => ?_
  obtain ⟨hmachine, hrestarts, hrecovery, hdatabase, hdocker, hacts⟩ :=
    Decisions.mk.inj hview
  rw [hrestarts]
  refine (Lockstep.of_set ?_).bind fun _ _ _ =>
    (lockstep_answer (.refl _)).bind fun _ _ _ => Lockstep.of_pure rfl
  simp only [Watchdog.decisions, hmachine, hrecovery, hdatabase, hdocker,
    List.filter_append, hacts]

theorem lockstep_refuse (detail : String) :
    Lockstep Watchdog.decisions (fun _ _ => True)
      (RecoveryController.refuse detail) (RecoveryController.refuse detail) := by
  unfold RecoveryController.refuse
  refine Lockstep.of_get.bind fun s t hview => ?_
  have hrecovery : s.recovery = t.recovery := congrArg Decisions.recovery hview
  rw [hrecovery]
  exact (lockstep_setRecovery _).bind fun _ _ _ =>
    (lockstep_forceState _ _).bind fun _ _ _ => lockstep_publishEvent _

theorem lockstep_begin (answers : CycleAnswers) (state : State)
    (reason : String) :
    Lockstep Watchdog.decisions (· = ·)
      (RecoveryController.begin config answers state reason)
      (RecoveryController.begin config answers state reason) := by
  unfold RecoveryController.begin Call.restart
  refine (lockstep_publishEvent _).bind fun _ _ _ => ?_
  refine Lockstep.bind ((lockstep_emitAll rfl).bind fun _ _ _ =>
    (lockstep_emitAll rfl).bind fun _ _ _ => lockstep_answer (.refl _)) ?_
  rintro ⟨success, detail⟩ _ rfl
  refine (lockstep_publishEvent _).bind fun _ _ _ => ?_
  cases success with
  | true =>
      refine (lockstep_recordRestart answers state reason).bind fun _ _ _ => ?_
      refine Lockstep.bind ((lockstep_setRecovery _).bind fun _ _ _ =>
        lockstep_forceState _ _) fun _ _ _ => Lockstep.of_pure rfl
  | false =>
      exact (lockstep_refuse detail).bind fun _ _ _ => Lockstep.of_pure rfl

theorem lockstep_considerRecovery {observation other : Observation}
    (hobservation : observation.Alike other)
    (halike : first.AlikeButLogs config classifier second) (state : State)
    (reason : String) :
    Lockstep Watchdog.decisions (· = ·)
      (Watchdog.considerRecovery config first state reason observation)
      (Watchdog.considerRecovery config second state reason other) := by
  unfold Watchdog.considerRecovery
  rw [halike.asked CycleAnswers.evaluateAt fun _ _ _ => rfl,
    halike.asked (fun answers => Watchdog.probeTeslaAuth config answers state)
      fun _ _ _ => rfl,
    halike.asked (fun answers => RecoveryController.begin config answers state
      reason) fun _ _ _ => rfl]
  cases restartAllowedForState state with
  | false =>
      exact (lockstep_capture hobservation halike state reason).bind
        fun _ _ _ => Lockstep.of_pure rfl
  | true =>
      refine (lockstep_answer (.refl _)).bind ?_
      rintro reachable _ rfl
      refine Lockstep.of_get.bind fun s t hview => ?_
      have hrestarts : s.restarts = t.restarts :=
        congrArg Decisions.restarts hview
      have hstreak : s.databaseHealthyStreak = t.databaseHealthyStreak :=
        congrArg Decisions.databaseHealthyStreak hview
      rw [hrestarts, hstreak]
      refine (lockstep_answer (.refl _)).bind ?_
      rintro decision _ rfl
      refine (lockstep_capture hobservation halike state reason).bind
        fun _ _ _ => ?_
      cases decision.allowed with
      | false => exact Lockstep.of_pure rfl
      | true => exact lockstep_begin first state reason

theorem keepsDecisions_publishFollowUp (report : FailureReport)
    (restarting : Bool) :
    Keeps Watchdog.decisions
      (Watchdog.publishFollowUp config report restarting) :=
  publishFollowUp_keeps config (fun _ _ _ _ => keepsDecisions_publishEvent rfl)
    (fun _ _ => keepsDecisions_publishEvent rfl) report restarting

theorem publishFollowUp_returns (report : FailureReport) (restarting : Bool)
    (w : Watchdog) :
    (outcome (Watchdog.publishFollowUp config report restarting) w).1 =
      .ok () := by
  unfold Watchdog.publishFollowUp
  by_cases hauth : report.state ∈ authStates ∧ restarting = false
  · rw [if_pos hauth]
    rfl
  · rw [if_neg hauth]
    by_cases hdatabase : report.state = .databaseUnhealthy
    · rw [if_pos hdatabase]
      rfl
    · rw [if_neg hdatabase]
      rfl

theorem lockstep_onTransition {observation other : Observation}
    (hobservation : observation.Alike other)
    (halike : first.AlikeButLogs config classifier second)
    (transition : Transition) :
    Lockstep Watchdog.decisions (fun _ _ => True)
      (Watchdog.onTransition config first transition observation)
      (Watchdog.onTransition config second transition other) := by
  unfold Watchdog.onTransition
  by_cases hfailure : transition.current ∈ failureStates
  · rw [if_neg (not_not_intro hfailure), if_neg (not_not_intro hfailure)]
    have hmark : ∀ answers : CycleAnswers, Keeps Watchdog.decisions
        (modify fun w => { w with lastFailure := answers.failureIso } :
          Call Unit) :=
      fun answers => Keeps.of_modify fun _ => rfl
    refine (lockstep_report (hmark first) (hmark second)
      fun _ _ _ => rfl).bind fun _ _ _ => ?_
    refine (lockstep_report (keepsDecisions_publishEvent rfl)
      (keepsDecisions_publishEvent rfl) fun _ _ _ => rfl).bind fun _ _ _ => ?_
    refine (lockstep_considerRecovery hobservation halike _ _).bind ?_
    rintro restarting _ rfl
    refine lockstep_report (keepsDecisions_publishFollowUp _ _)
      (keepsDecisions_publishFollowUp _ _) fun s t _ => ?_
    rw [publishFollowUp_returns, publishFollowUp_returns]
  · rw [if_pos hfailure, if_pos hfailure]
    exact Lockstep.of_pure trivial

/-- The closing event of a recovery, with the restarts counted in it. -/
theorem lockstep_publishCounted (published : Nat → Event) (now : ℚ) :
    Lockstep Watchdog.decisions (fun _ _ => True)
      (do
        let w ← get
        publishEvent (published (w.restarts.restartsIn24h now)))
      (do
        let w ← get
        publishEvent (published (w.restarts.restartsIn24h now))) := by
  refine Lockstep.of_get.bind fun s t hview => ?_
  have hrestarts : s.restarts = t.restarts := congrArg Decisions.restarts hview
  rw [hrestarts]
  exact lockstep_publishEvent _

theorem lockstep_finishRecovered (answers : CycleAnswers)
    (progress : Progress) :
    Lockstep Watchdog.decisions (fun _ _ => True)
      (RecoveryController.finishRecovered answers progress)
      (RecoveryController.finishRecovered answers progress) :=
  (lockstep_setRecovery _).bind fun _ _ _ =>
    (lockstep_forceState _ _).bind fun _ _ _ =>
      lockstep_publishCounted (.recovered progress.triggerState
        progress.reason) _

theorem lockstep_finishManual (answers : CycleAnswers) (progress : Progress)
    (detail : String) :
    Lockstep Watchdog.decisions (fun _ _ => True)
      (RecoveryController.finishManual answers progress detail)
      (RecoveryController.finishManual answers progress detail) :=
  (lockstep_setRecovery _).bind fun _ _ _ =>
    (lockstep_forceState _ _).bind fun _ _ _ =>
      lockstep_publishCounted (fun count => .manualInterventionRequired _ _ _
        (some count)) _

theorem lockstep_recoveryStep {observation other : Observation}
    (hobservation : observation.Alike other) (answers : CycleAnswers) :
    Lockstep Watchdog.decisions (fun _ _ => True)
      (RecoveryController.step config answers observation)
      (RecoveryController.step config answers other) := by
  have hturn : ∀ progress : Progress,
      turn config answers.monotonic progress observation =
        turn config answers.monotonic progress other := by
    intro progress
    rw [turn, hobservation.evaluate_eq, ← turn]
  rw [recoveryStep_eq, recoveryStep_eq]
  refine Lockstep.of_get.bind fun s t hview => ?_
  have hrecovery : s.recovery = t.recovery := congrArg Decisions.recovery hview
  rw [hrecovery]
  cases t.recovery.progress with
  | none => exact Lockstep.of_pure trivial
  | some progress =>
      dsimp only
      rw [hturn]
      cases turn config answers.monotonic progress other with
      | holds recovery => exact lockstep_setRecovery recovery
      | recovers counted =>
          exact (lockstep_setRecovery _).bind fun _ _ _ =>
            lockstep_finishRecovered answers counted
      | escalates counted detail =>
          exact (lockstep_setRecovery _).bind fun _ _ _ =>
            lockstep_finishManual answers counted detail

theorem keepsDecisions_publishStatus (answers : CycleAnswers)
    (observation : Observation) :
    Keeps Watchdog.decisions (Watchdog.publishStatus answers observation) :=
  publishStatus_keeps answers (fun _ => keepsDecisions_emit rfl) observation

theorem lockstep_publishStatus {observation other : Observation}
    (answers second : CycleAnswers) :
    Lockstep Watchdog.decisions (fun _ _ => True)
      (Watchdog.publishStatus answers observation)
      (Watchdog.publishStatus second other) := by
  refine lockstep_report (keepsDecisions_publishStatus _ _)
    (keepsDecisions_publishStatus _ _) fun s t hview => ?_
  have hrestarts : s.restarts = t.restarts := congrArg Decisions.restarts hview
  unfold Watchdog.publishStatus
  rw [outcome_bind_of_ok (outcome_get s), outcome_bind_of_ok (outcome_get t),
    outcome_answer_bind, outcome_answer_bind, hrestarts]
  cases t.restarts.lastRestartIso <;> rfl

/-- A cycle decides the same whatever else is in the log. -/
theorem lockstep_checkOnce
    (hthresholds : ∀ category ∈ failureCategories,
      1 ≤ classifier.threshold category)
    (halike : first.AlikeButLogs config classifier second) :
    Lockstep Watchdog.decisions (fun _ _ => True)
      (Watchdog.checkOnce config classifier first)
      (Watchdog.checkOnce config classifier second) := by
  unfold Watchdog.checkOnce
  refine (lockstep_observe hthresholds halike).bind
    fun observation other hobservation => ?_
  refine Lockstep.of_get.bind fun s t hview => ?_
  have hactive : s.recovery.active = t.recovery.active :=
    congrArg (fun seen => seen.recovery.active) hview
  rw [hactive, halike.asked (fun answers => RecoveryController.step config
    answers other) fun _ _ _ => rfl]
  have hpublish : Lockstep Watchdog.decisions (fun _ _ => True)
      (Watchdog.publishStatus first observation >>= fun _ =>
        (pure observation : Call Observation))
      (Watchdog.publishStatus second other >>= fun _ => pure other) :=
    (lockstep_publishStatus first second).bind fun _ _ _ =>
      Lockstep.of_pure trivial
  cases t.recovery.active with
  | true =>
      exact (lockstep_recoveryStep hobservation first).bind
        fun _ _ _ => hpublish
  | false =>
      refine (lockstep_stepMachine hobservation).bind ?_
      rintro transition _ rfl
      cases transition with
      | none => exact hpublish
      | some transition =>
          exact (lockstep_onTransition hobservation halike transition).bind
            fun _ _ _ => hpublish

/-- Runs side by side. -/
theorem run_decisions
    (hthresholds : ∀ category ∈ failureCategories,
      1 ≤ classifier.threshold category)
    {inputs others : List CycleAnswers}
    (halike : List.Forall₂ (CycleAnswers.AlikeButLogs config classifier) inputs
      others) (s t : Watchdog) (hview : s.decisions = t.decisions) :
    ((checkLoop config classifier).run s inputs).1.decisions =
        ((checkLoop config classifier).run t others).1.decisions ∧
      ((checkLoop config classifier).run s inputs).2.filter Effect.acts =
        ((checkLoop config classifier).run t others).2.filter Effect.acts := by
  induction halike generalizing s t with
  | nil => exact ⟨hview, rfl⟩
  | @cons answers others rest laterOthers hhead _ ih =>
      have hfresh : ({ s with trace := [] } : Watchdog).decisions =
          ({ t with trace := [] } : Watchdog).decisions := by
        obtain ⟨hmachine, hrestarts, hrecovery, hdatabase, hdocker, _⟩ :=
          Decisions.mk.inj hview
        simp only [Watchdog.decisions, hmachine, hrestarts, hrecovery,
          hdatabase, hdocker]
      have hcycle :=
        (lockstep_checkOnce hthresholds hhead _ _ hfresh).2
      obtain ⟨hstate, hacts⟩ := ih _ _ hcycle
      rw [Mealy.run_cons, Mealy.run_cons, List.filter_append,
        List.filter_append]
      refine ⟨hstate, ?_⟩
      have hown := congrArg Decisions.acts hcycle
      exact congrArg₂ (· ++ ·) hown hacts

/-- After any number of cycles, two runs that are told the same by everything
but the log, with equally many lines of each failure category in every text
read, have the same machine, restart history, recovery and streak, and have
asked for the same restarts and announced the same recoveries. -/
theorem informational_lines_inert
    (hthresholds : ∀ category ∈ failureCategories,
      1 ≤ classifier.threshold category)
    {inputs others : List CycleAnswers}
    (halike : List.Forall₂ (CycleAnswers.AlikeButLogs config classifier) inputs
      others) (start : Watchdog) (cycles : Nat) :
    ((checkLoop config classifier).run start
          (inputs.take cycles)).1.decisions =
        ((checkLoop config classifier).run start
          (others.take cycles)).1.decisions ∧
      ((checkLoop config classifier).run start
          (inputs.take cycles)).2.filter Effect.acts =
        ((checkLoop config classifier).run start
          (others.take cycles)).2.filter Effect.acts :=
  run_decisions hthresholds (List.forall₂_take cycles halike) start start rfl

end Cycle

/-- A stopped container, with this text in its log. -/
def CycleAnswers.stoppedWithLog (time : ℚ) (text : String) : CycleAnswers :=
  { stopped time with
    logs := fun _ _ => .ok text
    diagnosticLogs := fun _ _ => .ok text }

theorem alikeButLogs_stopped (time : ℚ) {text other : String}
    (hsame : LogClassifier.phrases.SameFailures text other) :
    CycleAnswers.AlikeButLogs .fromEmptyEnv .phrases
      (.stoppedWithLog time text) (.stoppedWithLog time other) :=
  ⟨rfl, .returned hsame, fun _ _ _ => rfl⟩

/-- A sign-out line counts the same among lines of success as alone. -/
theorem informational_lines_inert_stopped :
    ((checkLoop .fromEmptyEnv .phrases).run (.build ⟨[], .missing⟩)
      [.stoppedWithLog 60 "Error / not_signed_in\n",
        .stoppedWithLog 120 ""]).1.decisions =
    ((checkLoop .fromEmptyEnv .phrases).run (.build ⟨[], .missing⟩)
      [.stoppedWithLog 60 "Refreshed api tokens\nError / not_signed_in\n",
        .stoppedWithLog 120 "econnrefused\n"]).1.decisions :=
  (@informational_lines_inert .fromEmptyEnv .phrases (by decide) _ _
    (.cons (alikeButLogs_stopped 60 (by decide +kernel))
      (.cons (alikeButLogs_stopped 120 (by decide +kernel)) .nil))
    (.build ⟨[], .missing⟩) 2).1

end TeslamateWatchdog
