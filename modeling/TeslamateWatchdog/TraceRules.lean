/-
What a check cycle puts on its trace.  A kind of effect that covers every call
a cycle makes covers the traces of whole runs.
-/
import TeslamateWatchdog.CheckLoop
import TeslamateWatchdog.Foundation.Triple

namespace TeslamateWatchdog

open Foundation Call

/-- An effect that neither an event nor a status is. -/
def Effect.silent : Effect → Bool
  | .event _ => false
  | .status _ => false
  | _ => true

/-- The report a failure event carries. -/
def Event.report? : Event → Option FailureReport
  | .failureDetected report => some report
  | .authenticationRequired report _ _ _ => some report
  | .databaseUnhealthy report _ => some report
  | _ => none

/-- The kind covers all that a cycle with these answers can do once it has an
observation that fits. -/
structure Covering (answers : CycleAnswers) (fits : Observation → Prop)
    (kind : Effect → Prop) : Prop where
  silent : ∀ effect, effect.silent = true → kind effect
  reported : ∀ event report, event.report? = some report →
    fits report.observation → kind (.event event)
  announced : ∀ event, event.report? = none → kind (.event event)
  published : ∀ observation w lastRestart, fits observation →
    kind (.status (statusValues answers observation w lastRestart))

/-- Every effect on the trace is of the kind. -/
def TracesOnly (kind : Effect → Prop) (w : Watchdog) : Prop :=
  ∀ effect ∈ w.trace, kind effect

variable {config : Config} {classifier : LogClassifier}
  {answers : CycleAnswers} {fits : Observation → Prop} {kind : Effect → Prop}

theorem TracesOnly.append {w next : Watchdog} {effects : List Effect}
    (htraced : TracesOnly kind w) (heffects : ∀ effect ∈ effects, kind effect)
    (htrace : next.trace = w.trace ++ effects) : TracesOnly kind next := by
  intro effect heffect
  rw [htrace, List.mem_append] at heffect
  exact heffect.elim (htraced effect) (heffects effect)

theorem maintains_answer {α : Type} {invariant : Watchdog → Prop}
    (reply : Except PyError α) : Maintains invariant (answer reply) := by
  cases reply with
  | ok value => exact Maintains.of_pure value
  | error error => exact Triple.of_throw fun _ h => h

theorem tracesOnly_emitAll {effects : List Effect}
    (heffects : ∀ effect ∈ effects, kind effect) :
    Maintains (TracesOnly kind) (emitAll effects) :=
  Maintains.of_modify fun _ htraced => htraced.append heffects rfl

theorem tracesOnly_emit {effect : Effect} (heffect : kind effect) :
    Maintains (TracesOnly kind) (emit effect) :=
  tracesOnly_emitAll (List.forall_mem_singleton.mpr heffect)

theorem tracesOnly_setRecovery (recovery : RecoveryController) :
    Maintains (TracesOnly kind) (Call.setRecovery recovery) :=
  Maintains.of_modify fun _ htraced => htraced

/-- Gathering the evidence traces nothing. -/
theorem evidence_trace (config : Config) (classifier : LogClassifier)
    (answers : CycleAnswers) : Keeps Watchdog.trace
      (Watchdog.evidence config classifier answers) := by
  have hlogs : Keeps Watchdog.trace
      (Watchdog.classifyLogs config classifier answers) :=
    classifyLogs_keeps config answers classifier fun _ _ => rfl
  unfold Watchdog.evidence
  refine (keeps_answer _).bind fun httpResult => ?_
  refine (keeps_answer _).bind fun teslamateStatus => ?_
  refine (keeps_answer _).bind fun database => ?_
  refine (keeps_answer _).bind fun teslamateDict => ?_
  refine (keeps_answer _).bind fun databaseDict => ?_
  refine Keeps.bind (Keeps.of_modify fun _ => rfl) fun _ => ?_
  exact hlogs.bind fun logSignals => Keeps.of_pure _

section Calls

variable (hcovering : Covering answers fits kind)

include hcovering

theorem Covering.forceState (state : State) (reason : String) :
    Maintains (TracesOnly kind) (Call.forceState state reason) :=
  Maintains.of_modify fun _ htraced => htraced.append
    (List.forall_mem_singleton.mpr
      (hcovering.silent (.forced state reason) rfl)) rfl

theorem Covering.announce {event : Event} (hreport : event.report? = none) :
    Maintains (TracesOnly kind) (publishEvent event) :=
  tracesOnly_emit (hcovering.announced event hreport)

theorem Covering.report {event : Event} {report : FailureReport}
    (hreport : event.report? = some report) (hfits : fits report.observation) :
    Maintains (TracesOnly kind) (publishEvent event) :=
  tracesOnly_emit (hcovering.reported event report hreport hfits)

theorem Covering.restart (container : String) :
    Maintains (TracesOnly kind) (Call.restart config answers container) := by
  unfold Call.restart
  refine (tracesOnly_emit (hcovering.silent _ rfl)).bind fun _ => ?_
  refine (tracesOnly_emitAll fun effect heffect => ?_).bind fun _ =>
    maintains_answer _
  obtain ⟨id, _, rfl⟩ := List.mem_map.mp heffect
  exact hcovering.silent _ rfl

theorem Covering.recordRestart (state : State) (reason : String) :
    Maintains (TracesOnly kind) (Call.recordRestart answers state reason) := by
  unfold Call.recordRestart
  refine Triple.seq (fun w before => w = before ∧ TracesOnly kind before)
    (Triple.of_get fun w htraced => ⟨rfl, htraced⟩) fun w => ?_
  refine Triple.seq (fun _ => TracesOnly kind) (Triple.of_set ?_)
    fun _ => Maintains.bind (maintains_answer _) fun _ => Maintains.of_pure _
  rintro before ⟨rfl, htraced⟩
  exact htraced.append (List.forall_mem_singleton.mpr
    (hcovering.silent (.recorded state answers.recordAt) rfl)) rfl

theorem Covering.capture (state : State) (reason : String)
    (observation : Observation) :
    Maintains (TracesOnly kind)
      (RecoveryController.capture config answers state reason observation) := by
  unfold RecoveryController.capture
  refine Maintains.of_get.bind fun w => ?_
  refine (maintains_answer _).bind fun lastRestart => ?_
  refine (tracesOnly_emit (hcovering.silent _ rfl)).bind fun _ => ?_
  refine (maintains_answer _).bind fun incident => ?_
  cases incident with
  | none => exact Maintains.of_pure _
  | some incident => exact hcovering.announce rfl

theorem Covering.begin (state : State) (reason : String) :
    Maintains (TracesOnly kind)
      (RecoveryController.begin config answers state reason) := by
  unfold RecoveryController.begin
  refine (hcovering.announce rfl).bind fun _ => ?_
  refine (hcovering.restart _).bind fun reply => ?_
  obtain ⟨success, detail⟩ := reply
  refine (hcovering.announce rfl).bind fun _ => ?_
  cases success with
  | true =>
      refine (hcovering.recordRestart state reason).bind fun _ => ?_
      exact Maintains.bind ((tracesOnly_setRecovery _).bind fun _ =>
        hcovering.forceState _ _) fun _ => Maintains.of_pure _
  | false =>
      refine Maintains.bind (Maintains.of_get.bind fun _ =>
        (tracesOnly_setRecovery _).bind fun _ =>
          (hcovering.forceState _ _).bind fun _ => ?_) fun _ =>
        Maintains.of_pure _
      exact hcovering.announce rfl

theorem Covering.recoveryStep (observation : Observation) :
    Maintains (TracesOnly kind)
      (RecoveryController.step config answers observation) := by
  rw [recoveryStep_eq]
  refine Maintains.of_get.bind fun w => ?_
  cases w.recovery.progress with
  | none => exact Maintains.of_pure _
  | some progress =>
      dsimp only
      cases turn config answers.monotonic progress observation with
      | holds recovery => exact tracesOnly_setRecovery recovery
      | recovers counted =>
          exact (tracesOnly_setRecovery _).bind fun _ =>
            (tracesOnly_setRecovery _).bind fun _ =>
              (hcovering.forceState _ _).bind fun _ =>
                Maintains.of_get.bind fun _ => hcovering.announce rfl
      | escalates counted detail =>
          exact (tracesOnly_setRecovery _).bind fun _ =>
            (tracesOnly_setRecovery _).bind fun _ =>
              (hcovering.forceState _ _).bind fun _ =>
                Maintains.of_get.bind fun _ => hcovering.announce rfl

theorem Covering.considerRecovery (state : State) (reason : String)
    (observation : Observation) :
    Maintains (TracesOnly kind)
      (Watchdog.considerRecovery config answers state reason observation) := by
  unfold Watchdog.considerRecovery
  by_cases hrestartable : restartAllowedForState state = true
  · rw [hrestartable, Bool.not_true, if_neg Bool.false_ne_true]
    refine (maintains_answer _).bind fun reachable => ?_
    refine Maintains.of_get.bind fun w => ?_
    refine (maintains_answer _).bind fun decision => ?_
    refine (hcovering.capture state reason observation).bind fun _ => ?_
    cases decision.allowed with
    | true => exact hcovering.begin state reason
    | false => exact Maintains.of_pure _
  · rw [Bool.eq_false_of_not_eq_true hrestartable, Bool.not_false, if_pos rfl]
    exact (hcovering.capture state reason observation).bind fun _ =>
      Maintains.of_pure _

theorem Covering.publishFollowUp {report : FailureReport}
    (hfits : fits report.observation) (restarting : Bool) :
    Maintains (TracesOnly kind)
      (Watchdog.publishFollowUp config report restarting) := by
  unfold Watchdog.publishFollowUp
  by_cases hauth : report.state ∈ authStates ∧ restarting = false
  · rw [if_pos hauth]
    exact hcovering.report rfl hfits
  · rw [if_neg hauth]
    by_cases hdatabase : report.state = .databaseUnhealthy
    · rw [if_pos hdatabase]
      exact hcovering.report rfl hfits
    · rw [if_neg hdatabase]
      exact Maintains.of_pure _

theorem Covering.onTransition (transition : Transition)
    {observation : Observation} (hfits : fits observation) :
    Maintains (TracesOnly kind)
      (Watchdog.onTransition config answers transition observation) := by
  unfold Watchdog.onTransition
  by_cases hfailure : transition.current ∉ failureStates
  · rw [if_pos hfailure]
    exact Maintains.of_pure _
  · rw [if_neg hfailure]
    refine Maintains.bind (Maintains.of_modify fun _ htraced => htraced)
      fun _ => ?_
    refine (hcovering.report rfl hfits).bind fun _ => ?_
    refine (hcovering.considerRecovery _ _ observation).bind fun restarting => ?_
    exact hcovering.publishFollowUp hfits restarting

theorem Covering.publishStatus {observation : Observation}
    (hfits : fits observation) :
    Maintains (TracesOnly kind) (Watchdog.publishStatus answers observation) := by
  unfold Watchdog.publishStatus
  refine Maintains.of_get.bind fun w => ?_
  refine (maintains_answer _).bind fun lastRestart => ?_
  exact tracesOnly_emit (hcovering.published observation w lastRestart hfits)

theorem Covering.stepMachine (observation : Observation) :
    Maintains (TracesOnly kind) (Call.stepMachine config observation) := by
  unfold Call.stepMachine
  refine Triple.seq (fun w before => w = before ∧ TracesOnly kind before)
    (Triple.of_get fun w htraced => ⟨rfl, htraced⟩) fun w => ?_
  refine Triple.seq (fun _ => TracesOnly kind) (Triple.of_set ?_)
    fun _ => Maintains.of_pure _
  rintro before ⟨rfl, htraced⟩
  exact htraced.append (List.forall_mem_singleton.mpr
    (hcovering.silent (.stepped observation) rfl)) rfl

/-- Observing returns what the answers make up, and traces only that. -/
theorem Covering.observe (hgather : ∀ observation,
      gather config classifier answers = .ok observation → fits observation) :
    Triple (TracesOnly kind) (Watchdog.observe config classifier answers)
      (fun observation w => fits observation ∧ TracesOnly kind w)
      (TracesOnly kind) := by
  have hevidence : Triple (TracesOnly kind)
      (Watchdog.evidence config classifier answers)
      (fun observation w => fits observation ∧ TracesOnly kind w)
      (TracesOnly kind) := by
    intro w htraced
    have hkept := evidence_trace config classifier answers w
    obtain ⟨middle, houtcome, -⟩ := asks_evidence config classifier answers w
    rw [houtcome] at hkept
    have hmiddle : TracesOnly kind middle := by
      rw [TracesOnly, hkept]
      exact htraced
    rw [houtcome]
    constructor
    · intro observation after heq
      obtain ⟨hobservation, rfl⟩ := Prod.mk.inj heq
      exact ⟨hgather observation hobservation, hmiddle⟩
    · intro error after heq
      obtain ⟨-, rfl⟩ := Prod.mk.inj heq
      exact hmiddle
  unfold Watchdog.observe
  refine hevidence.bind fun observation => Triple.seq
    (fun _ w => fits observation ∧ TracesOnly kind w)
    (Triple.of_modify ?_) fun _ => Triple.of_pure fun _ h => h
  rintro w ⟨hfits, htraced⟩
  exact ⟨hfits, htraced.append (List.forall_mem_singleton.mpr
    (hcovering.silent (.observed observation) rfl)) rfl⟩

theorem Covering.checkOnce (hgather : ∀ observation,
      gather config classifier answers = .ok observation → fits observation) :
    Maintains (TracesOnly kind) (Watchdog.checkOnce config classifier answers) := by
  have hpublish : ∀ {observation : Observation}, fits observation →
      Maintains (TracesOnly kind) (do
        Watchdog.publishStatus answers observation
        return observation) := fun hfits =>
    (hcovering.publishStatus hfits).bind fun _ => Maintains.of_pure _
  unfold Watchdog.checkOnce
  refine (hcovering.observe hgather).bind fun observation => ?_
  refine Triple.of_fact fun hfits => ?_
  refine Maintains.of_get.bind fun w => ?_
  dsimp only
  by_cases hactive : w.recovery.active = true
  · rw [if_pos hactive]
    exact (hcovering.recoveryStep observation).bind fun _ => hpublish hfits
  · rw [if_neg hactive]
    refine (hcovering.stepMachine observation).bind fun stepped => ?_
    cases stepped with
    | none => exact hpublish hfits
    | some transition =>
        exact (hcovering.onTransition transition hfits).bind fun _ =>
          hpublish hfits

/-- A cycle traces effects of the kind only, however it ends. -/
theorem Covering.cycleTrace (hgather : ∀ observation,
      gather config classifier answers = .ok observation → fits observation)
    (w : Watchdog) :
    ∀ effect ∈ TeslamateWatchdog.cycleTrace config classifier w answers,
      kind effect :=
  (hcovering.checkOnce hgather).state fun _ heffect => by cases heffect

end Calls

/-- So does a run. -/
theorem tracesOnly_run {inputs : List CycleAnswers}
    (hcovering : ∀ answers ∈ inputs, Covering answers fits kind)
    (hgather : ∀ answers ∈ inputs, ∀ observation,
      gather config classifier answers = .ok observation → fits observation)
    (w : Watchdog) :
    ∀ effect ∈ ((checkLoop config classifier).run w inputs).2, kind effect := by
  induction inputs generalizing w with
  | nil =>
      intro effect heffect
      cases heffect
  | cons answers rest ih =>
      rw [List.forall_mem_cons] at hcovering hgather
      intro effect heffect
      rw [Mealy.run_cons, List.mem_append] at heffect
      rcases heffect with hfirst | hlater
      · exact hcovering.1.cycleTrace hgather.1 w effect hfirst
      · exact ih hcovering.2 hgather.2 _ effect hlater

/-- The last on the trace is the status of the watchdog as it is. -/
def EndsInStatus (answers : CycleAnswers) (observation : Observation)
    (w : Watchdog) : Prop :=
  ∃ front lastRestart, w.restarts.lastRestartIso = .ok lastRestart ∧
    w.trace = front ++
      [.status (statusValues answers observation w lastRestart)]

theorem publishStatus_traces (answers : CycleAnswers)
    (observation : Observation) :
    Triple (fun _ => True) (Watchdog.publishStatus answers observation)
      (fun _ => EndsInStatus answers observation) (fun _ => True) := by
  unfold Watchdog.publishStatus
  refine Triple.seq (fun w before => w = before) (Triple.of_get fun _ _ => rfl)
    fun w => ?_
  cases hlast : w.restarts.lastRestartIso with
  | error error =>
      exact Triple.seq (fun _ _ => False) (Triple.of_throw fun _ _ => trivial)
        fun _ _ hfalse => hfalse.elim
  | ok lastRestart =>
      refine Triple.seq (fun value before => value = lastRestart ∧ w = before)
        (Triple.of_pure fun before hbefore => ⟨rfl, hbefore⟩) fun value => ?_
      refine Triple.of_modify ?_
      rintro before ⟨rfl, rfl⟩
      exact ⟨w.trace, value, hlast, rfl⟩

theorem checkOnce_traces (config : Config) (classifier : LogClassifier)
    (answers : CycleAnswers) :
    Triple (fun _ => True) (Watchdog.checkOnce config classifier answers)
      (EndsInStatus answers) (fun _ => True) := by
  have hpublish : ∀ observation, Triple (fun _ => True) (do
      Watchdog.publishStatus answers observation
      return observation) (EndsInStatus answers) (fun _ => True) :=
    fun observation => (publishStatus_traces answers observation).bind fun _ =>
      Triple.of_pure fun _ hpost => hpost
  unfold Watchdog.checkOnce
  refine (Triple.of_true _).bind fun observation => ?_
  refine (Triple.of_true _).bind fun w => ?_
  dsimp only
  by_cases hactive : w.recovery.active = true
  · rw [if_pos hactive]
    exact (Triple.of_true _).bind fun _ => hpublish observation
  · rw [if_neg hactive]
    refine (Triple.of_true _).bind fun stepped => ?_
    cases stepped with
    | none => exact hpublish observation
    | some transition =>
        exact (Triple.of_true _).bind fun _ => hpublish observation

/-- A cycle that returns has published, at its end, the status of the watchdog
it leaves. -/
theorem checkOnce_publishes {w next : Watchdog} {observation : Observation}
    (hcycle : outcome (Watchdog.checkOnce config classifier answers) w =
      (.ok observation, next)) : EndsInStatus answers observation next :=
  (checkOnce_traces config classifier answers w trivial).1 observation next hcycle

end TeslamateWatchdog
