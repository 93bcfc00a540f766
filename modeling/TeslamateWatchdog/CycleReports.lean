/-
What a check cycle tells the user and puts on disk: the failures it announces,
the request to sign in, the diagnostics it captures.  With the courses of
`CycleCourse` this is everything a cycle does.
-/
import TeslamateWatchdog.RunHistory

namespace TeslamateWatchdog

open Foundation Call

/-- The events that report a failure state. -/
inductive Announcement where
  | failureDetected (state : State)
  | authenticationRequired (state : State)
deriving Repr, DecidableEq

@[simp]
def Effect.announcement? : Effect → Option Announcement
  | .event (.failureDetected report) => some (.failureDetected report.state)
  | .event (.authenticationRequired report _ _ _) =>
      some (.authenticationRequired report.state)
  | _ => none

@[simp]
def Effect.captured? : Effect → Option CaptureRequest
  | .captured request => some request
  | _ => none

abbrev announcements (effects : List Effect) : List Announcement :=
  collect Effect.announcement? effects

abbrev captures (effects : List Effect) : List CaptureRequest :=
  collect Effect.captured? effects

/-- What a trace announces and captures, and when the last failure was. -/
structure Publicity where
  announced : List Announcement
  captured : List CaptureRequest
  lastFailure : String

def Watchdog.publicity (w : Watchdog) : Publicity where
  announced := announcements w.trace
  captured := captures w.trace
  lastFailure := w.lastFailure

namespace Publicity

def announce (before : Publicity) (announced : List Announcement) : Publicity :=
  { before with announced := before.announced ++ announced }

def capture (before : Publicity) (captured : List CaptureRequest) : Publicity :=
  { before with captured := before.captured ++ captured }

end Publicity

theorem publicity_emit (w : Watchdog) (effects : List Effect) :
    ({ w with trace := w.trace ++ effects } : Watchdog).publicity =
      (w.publicity.announce (announcements effects)).capture
        (captures effects) := by
  simp [Watchdog.publicity, Publicity.announce, Publicity.capture]

/-- An effect that announces and captures nothing. -/
def Effect.Discreet (effect : Effect) : Prop :=
  effect.announcement? = none ∧ effect.captured? = none

theorem publicity_of_discreet (w : Watchdog) {effects : List Effect}
    (hdiscreet : ∀ effect ∈ effects, effect.Discreet) :
    ({ w with trace := w.trace ++ effects } : Watchdog).publicity =
      w.publicity := by
  have hannounced : announcements effects = [] :=
    List.filterMap_eq_nil_iff.mpr fun effect heffect =>
      (hdiscreet effect heffect).1
  have hcaptured : captures effects = [] :=
    List.filterMap_eq_nil_iff.mpr fun effect heffect =>
      (hdiscreet effect heffect).2
  rw [publicity_emit, hannounced, hcaptured]
  simp [Publicity.announce, Publicity.capture]

section Discreet

variable (config : Config) (classifier : LogClassifier)
  (answers : CycleAnswers)

theorem discreet_emitAll {effects : List Effect}
    (hdiscreet : ∀ effect ∈ effects, effect.Discreet) :
    Keeps Watchdog.publicity (emitAll effects) :=
  Keeps.of_modify fun w => publicity_of_discreet w hdiscreet

theorem discreet_singleton {effect : Effect} (hdiscreet : effect.Discreet) :
    ∀ other ∈ [effect], other.Discreet := by
  intro other hother
  rw [List.mem_singleton.mp hother]
  exact hdiscreet

theorem discreet_publishEvent {published : Event}
    (hdiscreet : (Effect.event published).Discreet) :
    Keeps Watchdog.publicity (publishEvent published) :=
  discreet_emitAll (discreet_singleton hdiscreet)

theorem discreet_forceState (state : State) (reason : String) :
    Keeps Watchdog.publicity (forceState state reason) :=
  Keeps.of_modify fun w => @publicity_of_discreet w [.forced state reason]
    (discreet_singleton ⟨rfl, rfl⟩)

theorem discreet_setRecovery (recovery : RecoveryController) :
    Keeps Watchdog.publicity (setRecovery recovery) :=
  Keeps.of_modify fun _ => rfl

theorem discreet_stepMachine (observation : Observation) :
    Keeps Watchdog.publicity (stepMachine config observation) :=
  fun w => @publicity_of_discreet w [.stepped observation]
    (discreet_singleton ⟨rfl, rfl⟩)

theorem discreet_restart (container : String) :
    Keeps Watchdog.publicity (Call.restart config answers container) := by
  refine (discreet_emitAll (discreet_singleton ⟨rfl, rfl⟩)).bind fun _ => ?_
  refine (discreet_emitAll fun effect heffect => ?_).bind fun _ =>
    keeps_answer _
  obtain ⟨id, _, rfl⟩ := List.mem_map.mp heffect
  exact ⟨rfl, rfl⟩

theorem discreet_recordRestart (state : State) (reason : String) :
    Keeps Watchdog.publicity (recordRestart answers state reason) := by
  intro w
  have hrecorded := @publicity_of_discreet w [.recorded state answers.recordAt]
    (discreet_singleton ⟨rfl, rfl⟩)
  unfold recordRestart
  rw [outcome_bind_of_ok (outcome_get w), outcome_bind_of_ok (outcome_set w _),
    outcome_answer_bind]
  cases (w.restarts.record state reason answers.recordAt
      answers.historyWritten).1 with
  | ok entry => exact hrecorded
  | error error => exact hrecorded

theorem discreet_refuse (detail : String) :
    Keeps Watchdog.publicity (RecoveryController.refuse detail) :=
  Keeps.of_get.bind fun _ => (discreet_setRecovery _).bind fun _ =>
    (discreet_forceState _ _).bind fun _ => discreet_publishEvent ⟨rfl, rfl⟩

theorem discreet_begin (state : State) (reason : String) :
    Keeps Watchdog.publicity
      (RecoveryController.begin config answers state reason) := by
  unfold RecoveryController.begin
  refine (discreet_publishEvent ⟨rfl, rfl⟩).bind fun _ => ?_
  refine (discreet_restart config answers _).bind fun reply => ?_
  obtain ⟨success, detail⟩ := reply
  refine (discreet_publishEvent ⟨rfl, rfl⟩).bind fun _ => ?_
  cases success with
  | true =>
      exact (discreet_recordRestart answers state reason).bind fun _ =>
        Keeps.bind ((discreet_setRecovery _).bind fun _ =>
          discreet_forceState _ _) fun _ => Keeps.of_pure _
  | false => exact (discreet_refuse detail).bind fun _ => Keeps.of_pure _

theorem discreet_finish (recovery : RecoveryController) (state : State)
    (reason : String) (published : Nat → Event) (now : ℚ)
    (hdiscreet : ∀ count, (Effect.event (published count)).Discreet) :
    Keeps Watchdog.publicity (do
      setRecovery recovery
      forceState state reason
      let w ← get
      publishEvent (published (w.restarts.restartsIn24h now))) :=
  (discreet_setRecovery _).bind fun _ => (discreet_forceState _ _).bind fun _ =>
    Keeps.of_get.bind fun _ => discreet_publishEvent (hdiscreet _)

/-- No turn of a recovery announces or captures anything. -/
theorem discreet_recoveryStep (observation : Observation) :
    Keeps Watchdog.publicity
      (RecoveryController.step config answers observation) := by
  rw [recoveryStep_eq]
  refine Keeps.of_get.bind fun w => ?_
  cases w.recovery.progress with
  | none => exact Keeps.of_pure _
  | some progress =>
      dsimp only
      cases turn config answers.monotonic progress observation with
      | holds recovery => exact discreet_setRecovery recovery
      | recovers counted =>
          exact (discreet_setRecovery _).bind fun _ =>
            discreet_finish _ _ _ (.recovered counted.triggerState
              counted.reason) _ fun _ => ⟨rfl, rfl⟩
      | escalates counted detail =>
          exact (discreet_setRecovery _).bind fun _ =>
            discreet_finish _ _ _ (fun count => .manualInterventionRequired
              _ _ _ (some count)) _ fun _ => ⟨rfl, rfl⟩

theorem discreet_publishStatus (observation : Observation) :
    Keeps Watchdog.publicity (Watchdog.publishStatus answers observation) :=
  publishStatus_keeps answers
    (fun _ => discreet_emitAll (discreet_singleton ⟨rfl, rfl⟩)) observation

theorem discreet_observe :
    Keeps Watchdog.publicity
      (Watchdog.observe config classifier answers) := by
  have hlogs : Keeps Watchdog.publicity
      (Watchdog.classifyLogs config classifier answers) :=
    classifyLogs_keeps config answers classifier fun _ _ => rfl
  have hevidence : Keeps Watchdog.publicity
      (Watchdog.evidence config classifier answers) := by
    unfold Watchdog.evidence
    refine (keeps_answer _).bind fun _ => (keeps_answer _).bind fun status => ?_
    refine (keeps_answer _).bind fun _ => (keeps_answer _).bind fun _ => ?_
    refine (keeps_answer _).bind fun _ => ?_
    exact Keeps.bind (Keeps.of_modify fun _ => rfl) fun _ =>
      hlogs.bind fun _ => Keeps.of_pure _
  unfold Watchdog.observe
  refine hevidence.bind fun observation => ?_
  refine Keeps.bind (Keeps.of_modify fun w => ?_) fun _ => Keeps.of_pure _
  exact @publicity_of_discreet w [.observed observation]
    (discreet_singleton ⟨rfl, rfl⟩)

end Discreet

section Capture

variable (config : Config) (classifier : LogClassifier)
  (answers : CycleAnswers)

/-- The classification of the container's log, if there is a log to classify. -/
def gatherClassification : Except PyError (Option Classification) :=
  if classifier.isEmpty then .ok none
  else do
    let text ← answers.logs config.teslamateContainer
      config.logAnalysisLookbackSeconds
    return if text = "" then none else some (classifier.classify text)

/-- The `docker_state` of a cycle whose observation was gathered. -/
def gatherDockerState : Except PyError DockerState := do
  let teslamateStatus ← answers.status config.teslamateContainer
  let database ← checkDatabase config answers.status answers.connect
  let teslamateDict ← teslamateStatus.asDict
  let databaseDict ← database.asDict
  let classification ← gatherClassification config classifier answers
  return ⟨teslamateDict, databaseDict, classification⟩

variable {config classifier answers}

theorem classifyLogs_dockerState {w : Watchdog} {teslamate database : Json}
    {classification : Option Classification}
    (hdocker : w.lastDockerState = some ⟨teslamate, database, none⟩)
    (hclassification : gatherClassification config classifier answers =
      .ok classification) :
    (outcome (Watchdog.classifyLogs config classifier answers)
      w).2.lastDockerState =
        some ⟨teslamate, database, classification⟩ := by
  unfold gatherClassification at hclassification
  unfold Watchdog.classifyLogs
  by_cases hempty : classifier.isEmpty = true
  · rw [if_pos hempty] at hclassification
    obtain rfl := Except.ok.inj hclassification
    rw [if_pos hempty]
    exact hdocker
  · rw [if_neg hempty] at hclassification
    obtain ⟨text, htext, hclassification⟩ := bind_eq_ok.mp hclassification
    obtain rfl := Except.ok.inj hclassification
    rw [if_neg hempty, htext, outcome_answer_bind]
    dsimp only
    by_cases hblank : text = ""
    · rw [if_pos hblank, if_pos hblank]
      exact hdocker
    · rw [if_neg hblank, if_neg hblank]
      exact congrArg (Option.map fun dockerState : DockerState =>
        { dockerState with
          logClassification := some (classifier.classify text) }) hdocker

/-- After `_observe` the last docker state is the one of this cycle. -/
theorem observe_dockerState (w : Watchdog) {observation : Observation}
    (hgather : gather config classifier answers = .ok observation) :
    ∃ dockerState, gatherDockerState config classifier answers =
        .ok dockerState ∧
      (outcome (Watchdog.observe config classifier answers)
        w).2.lastDockerState = some dockerState := by
  unfold gather at hgather
  obtain ⟨http, hhttp, hgather⟩ := bind_eq_ok.mp hgather
  obtain ⟨status, hstatus, hgather⟩ := bind_eq_ok.mp hgather
  obtain ⟨database, hdatabase, hgather⟩ := bind_eq_ok.mp hgather
  obtain ⟨teslamateDict, hteslamate, hgather⟩ := bind_eq_ok.mp hgather
  obtain ⟨databaseDict, hdict, hgather⟩ := bind_eq_ok.mp hgather
  obtain ⟨signals, hsignals, _⟩ := bind_eq_ok.mp hgather
  have hclassification : ∃ classification,
      gatherClassification config classifier answers = .ok classification := by
    unfold gatherSignals at hsignals
    unfold gatherClassification
    by_cases hempty : classifier.isEmpty = true
    · exact ⟨none, if_pos hempty⟩
    · rw [if_neg hempty] at hsignals
      obtain ⟨text, htext, _⟩ := bind_eq_ok.mp hsignals
      rw [if_neg hempty, htext]
      exact ⟨_, rfl⟩
  obtain ⟨classification, hclassification⟩ := hclassification
  refine ⟨⟨teslamateDict, databaseDict, classification⟩, ?_, ?_⟩
  · rw [gatherDockerState, hstatus, hdatabase]
    simp only [bind, Except.bind, hteslamate, hdict, hclassification]
    rfl
  · have hcounted : ∀ observation : Observation,
        Keeps Watchdog.lastDockerState (do
          modify fun w => { w with
            databaseHealthyStreak :=
              if observation.databaseHealthy = some true then
                w.databaseHealthyStreak + 1
              else 0
            trace := w.trace ++ [Effect.observed observation] }
          return observation : Call Observation) :=
      fun observation => Keeps.bind (Keeps.of_modify fun _ => rfl)
        fun _ => Keeps.of_pure _
    have hreturned : ∀ (call : Call (Option LogSignals))
        (report : Option LogSignals → Observation) (w : Watchdog),
        (outcome (call >>= fun signals => pure (report signals))
          w).2.lastDockerState = (outcome call w).2.lastDockerState :=
      fun _ _ w => Keeps.view_bind _ (fun _ => Keeps.of_pure _) w
    unfold Watchdog.observe
    rw [Keeps.view_bind _ hcounted]
    unfold Watchdog.evidence
    rw [hhttp, hstatus, hdatabase]
    simp only [outcome_answer_bind, hteslamate, hdict]
    rw [outcome_bind_of_ok rfl, hreturned]
    exact classifyLogs_dockerState rfl hclassification

end Capture

section Reaction

variable (config : Config) (classifier : LogClassifier)
  (answers : CycleAnswers)

/-- The request a capture makes, unless the last restart has no printable
time. -/
def capturedRequests (restarts : RestartManager)
    (dockerState : Option DockerState) (transition : Transition)
    (observation : Observation) : List CaptureRequest :=
  match restarts.lastRestartIso with
  | .ok lastRestart => [.of config answers restarts dockerState transition
      observation lastRestart]
  | .error _ => []

theorem publicity_capture (transition : Transition) (observation : Observation)
    (w : Watchdog) :
    (outcome (RecoveryController.capture config answers transition.current
      transition.reason observation) w).2.publicity =
      w.publicity.capture (capturedRequests config answers w.restarts
        w.lastDockerState transition observation) := by
  unfold RecoveryController.capture capturedRequests
  rw [outcome_bind_of_ok (outcome_get w), outcome_answer_bind]
  cases w.restarts.lastRestartIso with
  | error error => simp [Publicity.capture]
  | ok lastRestart =>
      dsimp only
      rw [Keeps.view_bind Watchdog.publicity]
      · have hrequest := publicity_emit w [.captured (.of config answers
          w.restarts w.lastDockerState transition observation lastRestart)]
        refine hrequest.trans ?_
        simp [Publicity.announce]
      · intro _
        refine (keeps_answer _).bind fun incident => ?_
        cases incident with
        | none => exact Keeps.of_pure _
        | some incident => exact discreet_publishEvent ⟨rfl, rfl⟩

/-- Considering a recovery captures one request at most, and announces
nothing. -/
theorem publicity_considerRecovery (transition : Transition)
    (observation : Observation) (w : Watchdog) :
    ∃ captured, captured <:+ capturedRequests config answers w.restarts
        w.lastDockerState transition observation ∧
      (outcome (Watchdog.considerRecovery config answers transition.current
        transition.reason observation) w).2.publicity =
          w.publicity.capture captured := by
  have hnone : w.publicity = w.publicity.capture [] := by
    simp [Publicity.capture]
  have hcapture := publicity_capture config answers transition observation w
  unfold Watchdog.considerRecovery
  by_cases hrestartable : restartAllowedForState transition.current = true
  · rw [hrestartable, Bool.not_true, if_neg Bool.false_ne_true,
      outcome_answer_bind]
    cases Watchdog.probeTeslaAuth config answers transition.current with
    | error error => exact ⟨[], List.nil_suffix, hnone⟩
    | ok reachable =>
        dsimp only
        rw [outcome_bind_of_ok (outcome_get w), outcome_answer_bind]
        cases w.restarts.evaluate config transition.current
            w.databaseHealthyStreak reachable answers.evaluateAt with
        | error error => exact ⟨[], List.nil_suffix, hnone⟩
        | ok decision =>
            refine ⟨_, List.suffix_rfl, ?_⟩
            dsimp only
            rw [Keeps.view_bind Watchdog.publicity]
            · exact hcapture
            · intro _
              cases decision.allowed with
              | false => exact Keeps.of_pure _
              | true => exact discreet_begin config answers _ _
  · rw [Bool.not_eq_true] at hrestartable
    rw [hrestartable, Bool.not_false, if_pos rfl]
    refine ⟨_, List.suffix_rfl, ?_⟩
    rw [Keeps.view_bind Watchdog.publicity]
    · exact hcapture
    · exact fun _ => Keeps.of_pure _

/-- The announcement that follows `failure_detected`, if any. -/
def followUp (state : State) (reply : Except PyError Bool) :
    List Announcement :=
  match reply with
  | .ok false => if state ∈ authStates then [.authenticationRequired state]
      else []
  | _ => []

theorem publicity_publishFollowUp (report : FailureReport) (restarting : Bool)
    (w : Watchdog) :
    (outcome (Watchdog.publishFollowUp config report restarting)
      w).2.publicity =
      w.publicity.announce (followUp report.state (.ok restarting)) := by
  have hsilent : w.publicity = w.publicity.announce [] := by
    simp [Publicity.announce]
  have hother : ∀ w : Watchdog, (outcome
      (if report.state = .databaseUnhealthy then
        publishEvent (.databaseUnhealthy report
          ("Check the TeslaMate PostgreSQL container. The watchdog never " ++
            "restarts the database."))
      else pure ()) w).2.publicity = w.publicity := by
    intro w
    by_cases hdatabase : report.state = .databaseUnhealthy
    · rw [if_pos hdatabase]
      exact discreet_publishEvent ⟨rfl, rfl⟩ w
    · rw [if_neg hdatabase]
      rfl
  unfold Watchdog.publishFollowUp followUp
  cases restarting with
  | true =>
      rw [if_neg (fun hboth => by cases hboth.2), hother]
      exact hsilent
  | false =>
      by_cases hauth : report.state ∈ authStates
      · rw [if_pos ⟨hauth, rfl⟩]
        dsimp only
        rw [if_pos hauth]
        have hpublished := publicity_emit w
          [.event (.authenticationRequired report authActionMessage
            config.teslamateUrl false)]
        refine hpublished.trans ?_
        simp [Publicity.capture]
      · rw [if_neg (fun hboth => hauth hboth.1), hother]
        dsimp only
        rw [if_neg hauth]
        exact hsilent

/-- A transition to a failure state is announced before anything else, and the
request to sign in comes last. -/
theorem onTransition_story (transition : Transition)
    (observation : Observation) (w : Watchdog) :
    if transition.current ∈ failureStates then
      ∃ reply after captured,
        Considered config answers w.digest w.lastDockerState transition
          observation reply after ∧
        captured <:+ capturedRequests config answers w.restarts
          w.lastDockerState transition observation ∧
        (outcome (Watchdog.onTransition config answers transition observation)
          w).2.digest = after ∧
        (outcome (Watchdog.onTransition config answers transition observation)
          w).2.publicity =
          ⟨w.publicity.announced ++ .failureDetected transition.current ::
            followUp transition.current reply,
            w.publicity.captured ++ captured, answers.failureIso⟩
    else
      (outcome (Watchdog.onTransition config answers transition observation)
        w).2 = w := by
  unfold Watchdog.onTransition
  by_cases hfailure : transition.current ∈ failureStates
  · rw [if_pos hfailure, if_neg (not_not_intro hfailure)]
    let report : FailureReport := ⟨transition.current, transition.previous,
      transition.reason, observation⟩
    let announced : Watchdog := { w with
      lastFailure := answers.failureIso
      trace := w.trace ++ [.event (.failureDetected report)] }
    have hdigest : announced.digest = w.digest := by
      simp [announced, Watchdog.digest, Effect.decides, Event.ofRecovery]
    have hpublicity : announced.publicity =
        ⟨w.publicity.announced ++ [.failureDetected transition.current],
          w.publicity.captured, answers.failureIso⟩ := by
      simp [announced, Watchdog.publicity, report]
    obtain ⟨reply, after, houtcome, hconsidered⟩ :=
      considerRecovery_considered config answers transition observation
        announced
    obtain ⟨captured, hcaptured, hconsider⟩ :=
      publicity_considerRecovery config answers transition observation
        announced
    rw [hdigest] at hconsidered
    rw [houtcome, hpublicity] at hconsider
    refine ⟨reply, after.digest, captured, hconsidered, hcaptured, ?_⟩
    rw [outcome_bind_of_ok (rfl : outcome _ w = (.ok (), _))]
    dsimp only
    rw [outcome_bind_of_ok (rfl : outcome _ _ = (.ok (), announced))]
    cases reply with
    | error error =>
        rw [outcome_bind_of_error houtcome]
        refine ⟨rfl, hconsider.trans ?_⟩
        simp [Publicity.capture, followUp]
    | ok restarting =>
        rw [outcome_bind_of_ok houtcome]
        refine ⟨keeps_publishFollowUp config report restarting after, ?_⟩
        rw [publicity_publishFollowUp, hconsider]
        simp [Publicity.announce, Publicity.capture]
  · rw [if_neg hfailure, if_pos hfailure]
    rfl

end Reaction

/-- What a cycle does, and what it tells. -/
inductive Story (config : Config) (classifier : LogClassifier)
    (answers : CycleAnswers) (w : Watchdog) : Digest → Publicity → Prop
  | blind {error : PyError}
      (hgather : gather config classifier answers = .error error) :
      Story config classifier answers w w.fresh ⟨[], [], w.lastFailure⟩
  | recovering {observation : Observation} {progress : Progress}
      (hgather : gather config classifier answers = .ok observation)
      (hprogress : w.recovery.progress = some progress) :
      Story config classifier answers w
        ((w.fresh.observe observation).take answers
          (turn config answers.monotonic progress observation))
        ⟨[], [], w.lastFailure⟩
  | calm {observation : Observation}
      (hgather : gather config classifier answers = .ok observation)
      (hinactive : w.recovery.progress = none)
      (hcalm : ∀ transition,
        (w.machine.step config observation).1 = some transition →
        transition.current ∉ failureStates) :
      Story config classifier answers w
        ((w.fresh.observe observation).step config observation)
        ⟨[], [], w.lastFailure⟩
  | failing {observation : Observation} {transition : Transition}
      {dockerState : DockerState} {reply : Except PyError Bool}
      {after : Digest} {captured : List CaptureRequest}
      (hgather : gather config classifier answers = .ok observation)
      (hinactive : w.recovery.progress = none)
      (htransition :
        (w.machine.step config observation).1 = some transition)
      (hfailure : transition.current ∈ failureStates)
      (hdocker : gatherDockerState config classifier answers =
        .ok dockerState)
      (hconsidered : Considered config answers
        ((w.fresh.observe observation).step config observation)
        (some dockerState) transition observation reply after)
      (hcaptured : captured <:+ capturedRequests config answers w.restarts
        (some dockerState) transition observation) :
      Story config classifier answers w after
        ⟨.failureDetected transition.current ::
          followUp transition.current reply, captured, answers.failureIso⟩

section Cycle

variable (config : Config) (classifier : LogClassifier)
  (answers : CycleAnswers)

/-- The end of a cycle only adds the status to its story. -/
theorem publish_story {observation : Observation} {w seen : Watchdog}
    (hstory : Story config classifier answers w seen.digest seen.publicity) :
    Story config classifier answers w
      (outcome (Watchdog.publishStatus answers observation >>= fun _ =>
        (pure observation : Call Observation)) seen).2.digest
      (outcome (Watchdog.publishStatus answers observation >>= fun _ =>
        (pure observation : Call Observation)) seen).2.publicity := by
  have hdigest := (keeps_publishStatus answers observation).bind
    (fun _ => Keeps.of_pure observation) seen
  have hpublicity := (discreet_publishStatus answers observation).bind
    (fun _ => Keeps.of_pure observation) seen
  rw [hdigest, hpublicity]
  exact hstory

theorem cycle_story (w : Watchdog) :
    Story config classifier answers w
      (cycle config classifier w answers).2.digest
      (cycle config classifier w answers).2.publicity := by
  let start : Watchdog := { w with trace := [] }
  obtain ⟨seen, hobserve, hseen⟩ :=
    observe_outcome config classifier answers start
  have hpublicity := discreet_observe config classifier answers start
  rw [hobserve] at hpublicity
  replace hpublicity : seen.publicity = ⟨[], [], w.lastFailure⟩ := hpublicity
  unfold cycle Watchdog.checkOnce
  cases hgather : gather config classifier answers with
  | error error =>
      rw [hgather] at hobserve hseen
      rw [outcome_bind_of_error hobserve, hseen, hpublicity]
      exact .blind hgather
  | ok observation =>
      obtain ⟨dockerState, hdocker, hlast⟩ :=
        observe_dockerState start hgather
      rw [hobserve] at hlast
      rw [hgather] at hobserve hseen
      replace hseen : seen.digest = w.fresh.observe observation := hseen
      rw [outcome_bind_of_ok hobserve, outcome_bind_of_ok (outcome_get seen)]
      have hrecovery : seen.recovery = w.recovery :=
        congrArg Digest.recovery hseen
      have hmachine : seen.machine = w.machine :=
        congrArg Digest.machine hseen
      cases hprogress : w.recovery.progress with
      | some progress =>
          rw [hrecovery, RecoveryController.active_of_some hprogress, if_pos rfl]
          obtain ⟨advanced, hadvanced, hturn⟩ := recoveryStep_outcome config
            answers (hrecovery ▸ hprogress) observation
          have hdiscreet :=
            discreet_recoveryStep config answers observation seen
          rw [hadvanced, hpublicity] at hdiscreet
          rw [outcome_bind_of_ok hadvanced]
          apply publish_story
          rw [hturn, hseen, hdiscreet]
          exact .recovering hgather hprogress
      | none =>
          rw [hrecovery, RecoveryController.active_of_none hprogress,
            if_neg Bool.false_ne_true]
          obtain ⟨stepped, hstepped, hdigest⟩ :=
            stepMachine_outcome config observation seen
          have hdiscreet := discreet_stepMachine config observation seen
          have hkept : stepped.lastDockerState = some dockerState := by
            have hstate : (outcome (stepMachine config observation)
                seen).2.lastDockerState = seen.lastDockerState := rfl
            rw [hstepped] at hstate
            exact hstate.trans hlast
          rw [hstepped, hpublicity] at hdiscreet
          rw [hseen] at hdigest
          rw [hmachine] at hstepped
          rw [outcome_bind_of_ok hstepped]
          cases htransition : (w.machine.step config observation).1 with
          | none =>
              apply publish_story
              rw [hdigest, hdiscreet]
              refine .calm hgather hprogress fun transition hsome => ?_
              rw [htransition] at hsome
              cases hsome
          | some transition =>
              dsimp only
              have hreaction := onTransition_story config answers transition
                observation stepped
              rcases hreact : outcome (Watchdog.onTransition config answers
                transition observation) stepped with ⟨result, reacted⟩
              rw [hreact] at hreaction
              have hstory : Story config classifier answers w reacted.digest
                  reacted.publicity := by
                by_cases hfailure : transition.current ∈ failureStates
                · rw [if_pos hfailure] at hreaction
                  obtain ⟨reply, after, captured, hconsidered, hcaptured,
                    hafter, htold⟩ := hreaction
                  rw [hdigest, hkept] at hconsidered
                  rw [hkept, ← stepped.digest_restarts, hdigest] at hcaptured
                  rw [hafter, htold, hdiscreet]
                  exact .failing hgather hprogress htransition hfailure hdocker
                    hconsidered hcaptured
                · rw [if_neg hfailure] at hreaction
                  rw [show reacted = stepped from hreaction, hdigest,
                    hdiscreet]
                  refine .calm hgather hprogress fun other hother => ?_
                  obtain rfl := Option.some.inj (htransition.symm.trans hother)
                  exact hfailure
              cases result with
              | error error =>
                  rw [outcome_bind_of_error hreact]
                  exact hstory
              | ok _ =>
                  rw [outcome_bind_of_ok hreact]
                  exact publish_story config classifier answers hstory

/-- A request that a cycle captures is that of its failing course. -/
theorem request_of_captures {w : Watchdog} {request : CaptureRequest}
    (hcaptured : request ∈ (cycle config classifier w answers).2.publicity.captured) :
    ∃ observation transition dockerState lastRestart,
      gather config classifier answers = .ok observation ∧
      w.recovery.progress = none ∧
      (w.machine.step config observation).1 = some transition ∧
      gatherDockerState config classifier answers = .ok dockerState ∧
      w.restarts.lastRestartIso = .ok lastRestart ∧
      request = .of config answers w.restarts (some dockerState) transition
        observation lastRestart := by
  have hstory := cycle_story config classifier answers w
  generalize (cycle config classifier w answers).2.digest = after at hstory
  generalize (cycle config classifier w answers).2.publicity = publicity
    at hstory hcaptured
  cases hstory with
  | blind hgather => cases hcaptured
  | recovering hgather hprogress => cases hcaptured
  | calm hgather hinactive hcalm => cases hcaptured
  | @failing observation transition dockerState _ _ _ hgather hinactive
      htransition hfailure hdocker hconsidered hmade =>
      have hrequest := hmade.subset hcaptured
      unfold capturedRequests at hrequest
      cases hlast : w.restarts.lastRestartIso with
      | error error =>
          rw [hlast] at hrequest
          cases hrequest
      | ok lastRestart =>
          rw [hlast] at hrequest
          exact ⟨observation, transition, dockerState, lastRestart, hgather,
            hinactive, htransition, hdocker, rfl,
            List.mem_singleton.mp hrequest⟩

end Cycle

end TeslamateWatchdog
