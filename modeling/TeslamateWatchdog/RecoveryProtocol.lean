/-
The recovery protocol: the events of the restart sequence form a regular
language, and three flags kept in two objects say the same thing about it.
-/
import Mathlib.Computability.Language
import TeslamateWatchdog.RestartSafety

namespace TeslamateWatchdog

open Computability Foundation

/-- The events of the restart sequence, without their payloads. -/
inductive RecoveryEvent where
  | started
  | executed (success : Bool)
  | recovered
  | manual
deriving Repr, DecidableEq

@[simp]
def Effect.recoveryEvent? : Effect → Option RecoveryEvent
  | .event (.recoveryStarted ..) => some .started
  | .event (.restartExecuted _ success _ _) => some (.executed success)
  | .event (.recovered ..) => some .recovered
  | .event (.manualInterventionRequired ..) => some .manual
  | _ => none

abbrev recoveryEvents (effects : List Effect) : List RecoveryEvent :=
  collect Effect.recoveryEvent? effects

theorem recoveryEvents_decides (effects : List Effect) :
    recoveryEvents (effects.filter Effect.decides) = recoveryEvents effects :=
  collect_decides _ (fun _ => rfl) (fun _ => rfl) (fun published hquiet => by
    cases published <;> first | rfl | cases hquiet) effects

@[simp]
theorem recoveryEvents_request {config : Config} {answers : CycleAnswers}
    {transition : Transition} (posted : Option Json) :
    recoveryEvents (requestEffects config answers transition posted) =
      [.started] := by
  cases posted <;> rfl

/-- The words one restart can put into the events: it is reported as failed, or
it is followed by exactly one outcome. -/
def restartWords : Language RecoveryEvent :=
  {[.started, .executed false, .manual],
    [.started, .executed true, .recovered],
    [.started, .executed true, .manual]}

/-- The statuses that stand for a recovery in progress. -/
def activeStatuses : List RecoveryStatus :=
  [.waitingAfterRestart, .confirmingRecovery]

/-- The controller, its status and the machine agree on whether a recovery is
in progress, and the events so far are those of complete restarts, followed by
the successful restart whose outcome is still open. -/
inductive Synchronised (digest : Digest) : Prop
  | idle (progress : digest.recovery.progress = none)
      (state : digest.machine.state ≠ .recovering)
      (status : digest.recovery.status ∉ activeStatuses)
      (events : recoveryEvents digest.effects ∈ restartWords∗)
  | active (progress : digest.recovery.progress ≠ none)
      (state : digest.machine.state = .recovering)
      (status : digest.recovery.status ∈ activeStatuses)
      {complete : List RecoveryEvent} (closed : complete ∈ restartWords∗)
      (events : recoveryEvents digest.effects =
        complete ++ [.started, .executed true])

theorem concat_restartWord {complete word : List RecoveryEvent}
    (hcomplete : complete ∈ restartWords∗) (hword : word ∈ restartWords) :
    complete ++ word ∈ restartWords∗ :=
  Set.mem_of_mem_of_subset (Language.append_mem_mul hcomplete hword)
    (@kstar_mul_le_kstar _ _ restartWords)

variable {config : Config} {classifier : LogClassifier}
  {answers : CycleAnswers}

/-- A recovery that goes on waits or confirms, and keeps its progress. -/
theorem holds_of_turn {monotonic : ℚ} {progress : Progress}
    {observation : Observation} {recovery : RecoveryController}
    (hturn : turn config monotonic progress observation = .holds recovery) :
    recovery.progress ≠ none ∧ recovery.status ∈ activeStatuses := by
  unfold turn at hturn
  repeat' split at hturn
  all_goals cases hturn
  all_goals exact ⟨Option.some_ne_none _, by simp [activeStatuses]⟩

/-- The machine never steps into RECOVERING by itself. -/
theorem step_state_ne_recovering {machine : StateMachine}
    (hstate : machine.state ≠ .recovering) (observation : Observation) :
    (machine.step config observation).2.state ≠ .recovering := by
  cases heffective : machine.effective? observation with
  | none =>
      obtain ⟨last, hnone⟩ :=
        StateMachine.step_of_not_effective config heffective
      rw [hnone]
      exact hstate
  | some evaluation =>
      obtain ⟨_, rfl, _⟩ := StateMachine.evaluate_of_effective heffective
      rw [StateMachine.step_of_effective heffective]
      dsimp only
      split
      · have hmem := (StateMachine.observable_evaluate observation).state
        intro hrecovering
        apply hmem
        have henter : (evaluate observation).state = .recovering := hrecovering
        rw [henter]
        decide
      · rwa [StateMachine.count_state, StateMachine.see_state]

namespace Synchronised

variable {before next : Digest}

theorem ofBuild (restarts : RestartManager) :
    Synchronised (Digest.ofRun (.build restarts, [])) :=
  .idle rfl State.noConfusion
    (show RecoveryStatus.idle ∉ activeStatuses by decide)
    (Language.nil_mem_kstar _)

/-- A recovery in progress goes on, or ends with its one outcome. -/
theorem take (hsync : Synchronised before) {progress : Progress}
    (hprogress : before.recovery.progress = some progress)
    (observation : Observation) :
    Synchronised ((before.observe observation).take answers
      (turn config answers.monotonic progress observation)) := by
  cases hsync with
  | idle hnone => rw [hprogress] at hnone; cases hnone
  | active _ hstate _ hclosed hevents =>
      cases hturn : turn config answers.monotonic progress observation with
      | holds recovery =>
          obtain ⟨hstill, hstatus⟩ := holds_of_turn hturn
          refine .active hstill hstate hstatus hclosed ?_
          simpa [Digest.take] using hevents
      | recovers progress =>
          refine .idle rfl State.noConfusion
            (show RecoveryStatus.recovered ∉ activeStatuses by decide) ?_
          have hword := concat_restartWord hclosed (.inr (.inl rfl) :
            [.started, .executed true, .recovered] ∈ restartWords)
          simpa [Digest.take, Digest.recoveredEvent, hevents] using hword
      | escalates progress detail =>
          refine .idle rfl State.noConfusion
            (show RecoveryStatus.manualInterventionRequired ∉ activeStatuses
              by decide) ?_
          have hword := concat_restartWord hclosed (.inr (.inr rfl) :
            [.started, .executed true, .manual] ∈ restartWords)
          simpa [Digest.take, Digest.escalatedEvent, hevents] using hword

/-- An ordinary check leaves the protocol where it is. -/
theorem step (hsync : Synchronised before)
    (hinactive : before.recovery.progress = none) (observation : Observation) :
    Synchronised ((before.observe observation).step config observation) := by
  cases hsync with
  | active hprogress => exact absurd hinactive hprogress
  | idle hprogress hstate hstatus hevents =>
      refine .idle hprogress (step_state_ne_recovering hstate observation)
        hstatus ?_
      simpa using hevents

/-- A restart that does not raise is refused, with its outcome, or opens a
recovery. -/
theorem begun {transition : Transition} {result : Except PyError Bool}
    (hsync : Synchronised before) (hinactive : before.recovery.progress = none)
    (hbegun : Begun config answers before transition result next)
    (hreturned : result.isOk = true) : Synchronised next := by
  cases hsync with
  | active hprogress => exact absurd hinactive hprogress
  | idle hprogress hstate hstatus hevents =>
      cases hbegun with
      | raised hcall => cases hreturned
      | unrecorded hcall hrecord => cases hreturned
      | refused hcall =>
          refine .idle hprogress State.noConfusion
            (show RecoveryStatus.manualInterventionRequired ∉ activeStatuses
              by decide) ?_
          have hword := concat_restartWord hevents (.inl rfl :
            [.started, .executed false, .manual] ∈ restartWords)
          simpa [Digest.request] using hword
      | restarted hcall hrecord =>
          refine .active (Option.some_ne_none _) rfl
            (show RecoveryStatus.waitingAfterRestart ∈ activeStatuses by decide)
            hevents ?_
          simp [Digest.request]

/-- A cycle that returns keeps the protocol. -/
theorem course (hsync : Synchronised before)
    (hcourse : Course config classifier answers before true next) :
    Synchronised next := by
  cases hcourse with
  | recovering hgather hprogress => exact hsync.take hprogress _
  | watching hgather hinactive => exact hsync.step hinactive _
  | restarting hgather hinactive htransition hcleared hbegun hreturned =>
      exact (hsync.step hinactive _).begun hinactive hbegun (hreturned rfl)

end Synchronised

/-- What a cycle may do to the machine while a recovery is in progress. -/
def OutcomeOnly (before after : StateMachine) (trace : List Effect) : Prop :=
  machineCalls trace = [] ∧ after = before ∧ recoveryEvents trace = [] ∨
  (∃ reason, machineCalls trace = [.forceState .healthy reason]) ∧
    after.state = .healthy ∧ recoveryEvents trace = [.recovered] ∨
  (∃ reason,
      machineCalls trace = [.forceState .manualInterventionRequired reason]) ∧
    after.state = .manualInterventionRequired ∧
    recoveryEvents trace = [.manual]

theorem Course.outcomeOnly {before next : Digest} {returned : Bool}
    (hcourse : Course config classifier answers before returned next)
    (hfresh : before.effects = [])
    (hactive : before.recovery.progress ≠ none) :
    restartCalls next.effects = [] ∧ posts next.effects = [] ∧
      OutcomeOnly before.machine next.machine next.effects := by
  cases hcourse with
  | blind hgather => simp [hfresh, OutcomeOnly]
  | @recovering observation progress _ hgather hprogress =>
      have hfirst : machineCalls (before.observe observation).effects = [] := by
        simp [hfresh]
      have hcalls := @machineCalls_take answers (before.observe observation)
        (turn config answers.monotonic progress observation)
      rw [hfirst, List.nil_append] at hcalls
      refine ⟨?_, ?_, ?_⟩
      · rw [restartCalls, collect_take _ (fun _ _ => rfl) (fun _ => rfl)]
        simp [hfresh]
      · rw [posts, collect_take _ (fun _ _ => rfl) (fun _ => rfl)]
        simp [hfresh]
      · rw [OutcomeOnly, hcalls]
        cases turn config answers.monotonic progress observation with
        | holds recovery => exact .inl ⟨rfl, rfl, by simp [Digest.take, hfresh]⟩
        | recovers counted =>
            refine .inr (.inl ⟨⟨_, rfl⟩, rfl, ?_⟩)
            simp [Digest.take, Digest.recoveredEvent, hfresh]
        | escalates counted detail =>
            refine .inr (.inr ⟨⟨_, rfl⟩, rfl, ?_⟩)
            simp [Digest.take, Digest.escalatedEvent, hfresh]
  | watching hgather hinactive => exact absurd hinactive hactive
  | restarting hgather hinactive => exact absurd hinactive hactive

/-- While a recovery is in progress, a cycle asks for no restart and moves the
machine by nothing but the recovery's outcome. -/
theorem outcomeOnly_of_active {w : Watchdog}
    (hactive : w.recovery.progress ≠ none) (answers : CycleAnswers) :
    restartCalls (cycleTrace config classifier w answers) = [] ∧
      posts (cycleTrace config classifier w answers) = [] ∧
      OutcomeOnly w.machine (cycle config classifier w answers).2.machine
        (cycleTrace config classifier w answers) := by
  have houtcome :=
    (cycle_course config classifier w answers).outcomeOnly rfl hactive
  have heffects : (cycleDigest config classifier w answers).effects =
      (cycleTrace config classifier w answers).filter Effect.decides := rfl
  rw [OutcomeOnly, heffects, restartCalls_decides, posts_decides,
    machineCalls_decides, recoveryEvents_decides] at houtcome
  exact houtcome

/-- After any run of cycles that return: the recovery events are a prefix of a
sequence of complete restarts, the three flags agree, and while they stand the
next cycle asks for no restart and moves the machine only by the outcome. -/
theorem recovery_protocol (config : Config) (classifier : LogClassifier)
    (restarts : RestartManager) (inputs : List CycleAnswers)
    (hreturns : (checkLoop config classifier).Along
      (Returns config classifier) (.build restarts) inputs) :
    let run := (checkLoop config classifier).run (.build restarts) inputs
    (∃ rest, recoveryEvents run.2 ++ rest ∈ restartWords∗) ∧
    (run.1.recovery.active = true ↔ run.1.machine.state = .recovering) ∧
    (run.1.recovery.active = true ↔ run.1.recovery.status ∈
      [RecoveryStatus.waitingAfterRestart, .confirmingRecovery]) ∧
    (run.1.recovery.active = true → ∀ answers,
      restartCalls (cycleTrace config classifier run.1 answers) = [] ∧
      posts (cycleTrace config classifier run.1 answers) = [] ∧
      OutcomeOnly run.1.machine
        (cycle config classifier run.1 answers).2.machine
        (cycleTrace config classifier run.1 answers)) := by
  intro run
  have hsync : Synchronised (Digest.ofRun run) :=
    @loop_induction config classifier (Returns config classifier)
      (fun _ digest => Synchronised digest) (.build restarts)
      (Synchronised.ofBuild restarts)
      (fun _ w answers _ _ hreturn hsync hcourse =>
        hsync.course (hreturn ▸ hcourse)) inputs hreturns
  have hevents : recoveryEvents (Digest.ofRun run).effects =
      recoveryEvents run.2 := recoveryEvents_decides run.2
  cases hsync with
  | idle hprogress hstate hstatus hwords =>
      have hinactive : run.1.recovery.active = false :=
        congrArg Option.isSome hprogress
      rw [hevents] at hwords
      refine ⟨⟨[], by rwa [List.append_nil]⟩, ?_, ?_, ?_⟩
      · rw [hinactive]
        exact ⟨fun h => absurd h Bool.false_ne_true, fun h => absurd h hstate⟩
      · rw [hinactive]
        exact ⟨fun h => absurd h Bool.false_ne_true, fun h => absurd h hstatus⟩
      · intro h
        rw [hinactive] at h
        cases h
  | @active hprogress hstate hstatus complete hclosed hwords =>
      have hactive : run.1.recovery.active = true :=
        Option.isSome_iff_ne_none.mpr hprogress
      rw [hevents] at hwords
      refine ⟨⟨[.recovered], ?_⟩, ?_, ?_, ?_⟩
      · rw [hwords, List.append_assoc]
        exact concat_restartWord hclosed (.inr (.inl rfl))
      · exact ⟨fun _ => hstate, fun _ => hactive⟩
      · exact ⟨fun _ => hstatus, fun _ => hactive⟩
      · exact fun _ answers => outcomeOnly_of_active hprogress answers

/-- A stopped container is restarted, waited for and found healthy twice. -/
theorem recovery_protocol_recovered :
    recoveryEvents ((checkLoop .fromEmptyEnv .withoutPatterns).run
      (.build ⟨[], .missing⟩)
      [.calm 0, .stopped 60, .calm 120, .calm 180, .calm 240]).2 =
        [.started, .executed true, .recovered] ∧
    ∃ rest, recoveryEvents ((checkLoop .fromEmptyEnv .withoutPatterns).run
      (.build ⟨[], .missing⟩)
      [.calm 0, .stopped 60, .calm 120, .calm 180, .calm 240]).2 ++ rest ∈
        restartWords∗ :=
  ⟨by decide +kernel, (recovery_protocol .fromEmptyEnv .withoutPatterns
    ⟨[], .missing⟩ [.calm 0, .stopped 60, .calm 120, .calm 180, .calm 240]
    (by decide +kernel)).1⟩

end TeslamateWatchdog
