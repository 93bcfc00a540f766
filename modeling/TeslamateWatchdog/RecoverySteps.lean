/-
What `RecoveryController.step` decides, over any sequence of calls after a
restart: the conclusive evaluations from the deadline on, and which ends of that
list settle the recovery.  The two counters are the streaks of that list.
-/
import TeslamateWatchdog.CheckLoop
import TeslamateWatchdog.Foundation.Streak

namespace TeslamateWatchdog

open Foundation

/-- One call of `step`, with what it reads. -/
structure StepCall where
  answers : CycleAnswers
  observation : Observation

namespace StepCall

/-- The evaluation a call adds, if it is made late enough and concludes. -/
def conclusion (deadline : ℚ) (call : StepCall) : Option Evaluation :=
  if call.answers.monotonic < deadline ∨
      (evaluate call.observation).inconclusive = true then none
  else some (evaluate call.observation)

/-- The conclusive evaluations made from the deadline on. -/
def conclusions (deadline : ℚ) (calls : List StepCall) : List Evaluation :=
  calls.filterMap (conclusion deadline)

end StepCall

namespace Evaluation

def isHealthy (evaluation : Evaluation) : Bool :=
  evaluation.state = .healthy

def isFailing (evaluation : Evaluation) : Bool :=
  evaluation.state ≠ .healthy

end Evaluation

/-- The last evaluations confirm that the restart helped. -/
abbrev ConfirmsRecovery (config : Config) (conclusions : List Evaluation) : Prop :=
  LastAll Evaluation.isHealthy config.recoveryConfirmationCount conclusions

/-- The last evaluations confirm that it did not. -/
abbrev ConfirmsFailure (config : Config) (conclusions : List Evaluation) : Prop :=
  LastAll Evaluation.isFailing config.failureConfirmationCount conclusions

/-- No call so far has settled the recovery, either way. -/
def Unsettled (config : Config) (deadline : ℚ) (calls : List StepCall) : Prop :=
  ∀ front, front <+: calls →
    ¬ ConfirmsRecovery config (StepCall.conclusions deadline front) ∧
      ¬ ConfirmsFailure config (StepCall.conclusions deadline front)

namespace RecoveryController

/-- The objects after a call of `step`. -/
def afterStep (config : Config) (w : Watchdog) (call : StepCall) : Watchdog :=
  (outcome (step config call.answers call.observation) w).2

def afterSteps (config : Config) (w : Watchdog) (calls : List StepCall) :
    Watchdog :=
  calls.foldl (afterStep config) w

end RecoveryController

section Conclusions

variable {deadline : ℚ}

theorem conclusions_concat (calls : List StepCall) (call : StepCall) :
    StepCall.conclusions deadline (calls ++ [call]) =
      StepCall.conclusions deadline calls ++
        (call.conclusion deadline).toList := by
  cases hconclusion : call.conclusion deadline <;>
    simp [StepCall.conclusions, hconclusion]

theorem Unsettled.init {config : Config} {calls : List StepCall}
    {call : StepCall} (hopen : Unsettled config deadline (calls ++ [call])) :
    Unsettled config deadline calls :=
  fun front hfront => hopen front (hfront.trans (List.prefix_append _ _))

theorem unsettled_concat {config : Config} {calls : List StepCall}
    {call : StepCall} :
    Unsettled config deadline (calls ++ [call]) ↔
      Unsettled config deadline calls ∧
        ¬ ConfirmsRecovery config
          (StepCall.conclusions deadline (calls ++ [call])) ∧
        ¬ ConfirmsFailure config
          (StepCall.conclusions deadline (calls ++ [call])) := by
  constructor
  · intro hopen
    exact ⟨hopen.init, hopen _ List.prefix_rfl⟩
  · rintro ⟨hopen, hlast⟩ front hfront
    rcases List.prefix_concat_iff.mp hfront with rfl | hearlier
    · exact hlast
    · exact hopen front hearlier

theorem unsettled_nil (config : Config) : Unsettled config deadline [] := by
  intro front hfront
  obtain rfl := List.prefix_nil.mp hfront
  have hfirst := config.recoveryConfirmationCount_pos
  have hsecond := config.failureConfirmationCount_pos
  simp only [ConfirmsRecovery, ConfirmsFailure, ← le_streak_iff, streak,
    StepCall.conclusions, List.filterMap_nil, List.rtakeWhile_nil,
    List.length_nil]
  omega

end Conclusions

section Step

open RecoveryController

variable {config : Config} {w : Watchdog} {progress : Progress}
  {call : StepCall}

/-- `step` never raises. -/
theorem step_returns (w : Watchdog) (call : StepCall) :
    (outcome (step config call.answers call.observation) w).1 = .ok () := by
  cases hprogress : w.recovery.progress with
  | none =>
      unfold step
      rw [outcome_bind_of_ok (outcome_get w), hprogress]
      rfl
  | some progress =>
      obtain ⟨after, houtcome, _⟩ := recoveryStep_outcome config call.answers
        hprogress call.observation
      rw [houtcome]

theorem afterStep_of_inactive (hinactive : w.recovery.progress = none) :
    afterStep config w call = w := by
  unfold afterStep step
  rw [outcome_bind_of_ok (outcome_get w), hinactive]
  rfl

/-- A call that comes too early, or does not conclude, changes nothing but the
status. -/
theorem afterStep_of_conclusion_none
    (hprogress : w.recovery.progress = some progress)
    (hnone : call.conclusion progress.deadline = none) :
    afterStep config w call =
      { w with recovery := ⟨some progress,
        if call.answers.monotonic < progress.deadline then
          .waitingAfterRestart
        else .confirmingRecovery⟩ } := by
  unfold afterStep step
  rw [outcome_bind_of_ok (outcome_get w), hprogress]
  dsimp only
  by_cases hearly : call.answers.monotonic < progress.deadline
  · rw [if_pos hearly, if_pos hearly]
    rfl
  · have hinconclusive : (evaluate call.observation).inconclusive = true := by
      by_contra hconclusive
      rw [StepCall.conclusion, if_neg (by simp [hearly, hconclusive])] at hnone
      cases hnone
    rw [if_neg hearly, if_neg hearly, if_pos hinconclusive]
    rfl

/-- A conclusion is counted, and settles the recovery when it completes the
count it belongs to. -/
theorem afterStep_of_conclusion {evaluation : Evaluation}
    (hprogress : w.recovery.progress = some progress)
    (hconclusion : call.conclusion progress.deadline = some evaluation) :
    afterStep config w call =
      if evaluation.state = .healthy then
        if config.recoveryConfirmationCount ≤
            progress.countHealthy.healthyStreak then
          (outcome (finishRecovered call.answers progress.countHealthy)
            { w with recovery :=
              ⟨some progress.countHealthy, .confirmingRecovery⟩ }).2
        else { w with recovery :=
          ⟨some progress.countHealthy, .confirmingRecovery⟩ }
      else
        if config.failureConfirmationCount ≤
            progress.countFailure.failureStreak then
          (outcome (finishManual call.answers progress.countFailure
            evaluation.reason) { w with recovery :=
              ⟨some progress.countFailure, .confirmingRecovery⟩ }).2
        else { w with recovery :=
          ⟨some progress.countFailure, .confirmingRecovery⟩ } := by
  rw [StepCall.conclusion] at hconclusion
  by_cases hnone : call.answers.monotonic < progress.deadline ∨
      (evaluate call.observation).inconclusive = true
  · rw [if_pos hnone] at hconclusion
    cases hconclusion
  · rw [if_neg hnone] at hconclusion
    obtain rfl := Option.some.inj hconclusion
    obtain ⟨hlate, hconclusive⟩ := not_or.mp hnone
    unfold afterStep step
    rw [outcome_bind_of_ok (outcome_get w), hprogress]
    dsimp only
    rw [if_neg hlate, if_neg hconclusive]
    by_cases hhealthy : (evaluate call.observation).state = .healthy
    · rw [if_pos hhealthy, if_pos hhealthy,
        outcome_bind_of_ok (digest_setRecovery w _).1]
      by_cases henough : config.recoveryConfirmationCount ≤
          progress.countHealthy.healthyStreak
      · rw [if_pos henough, if_pos henough]
      · rw [if_neg henough, if_neg henough]
        rfl
    · rw [if_neg hhealthy, if_neg hhealthy,
        outcome_bind_of_ok (digest_setRecovery w _).1]
      by_cases henough : config.failureConfirmationCount ≤
          progress.countFailure.failureStreak
      · rw [if_pos henough, if_pos henough]
      · rw [if_neg henough, if_neg henough]
        rfl

/-- The recovery is still in progress, and its counters are the streaks of the
conclusions. -/
structure Counts (deadline : ℚ) (conclusions : List Evaluation)
    (progress : Progress) : Prop where
  deadline : progress.deadline = deadline
  healthy : progress.healthyStreak = streak Evaluation.isHealthy conclusions
  failing : progress.failureStreak = streak Evaluation.isFailing conclusions

variable {deadline : ℚ} {conclusions : List Evaluation}
  {evaluation : Evaluation}

theorem Counts.countHealthy (hcounts : Counts deadline conclusions progress)
    (hhealthy : evaluation.state = .healthy) :
    Counts deadline (conclusions ++ [evaluation]) progress.countHealthy := by
  refine ⟨hcounts.deadline, ?_, ?_⟩
  · rw [streak_concat, if_pos (by simp [Evaluation.isHealthy, hhealthy]),
      ← hcounts.healthy]
    rfl
  · rw [streak_concat, if_neg (by simp [Evaluation.isFailing, hhealthy])]
    rfl

theorem Counts.countFailure (hcounts : Counts deadline conclusions progress)
    (hfailing : evaluation.state ≠ .healthy) :
    Counts deadline (conclusions ++ [evaluation]) progress.countFailure := by
  refine ⟨hcounts.deadline, ?_, ?_⟩
  · rw [streak_concat, if_neg (by simp [Evaluation.isHealthy, hfailing])]
    rfl
  · rw [streak_concat, if_pos (by simp [Evaluation.isFailing, hfailing]),
      ← hcounts.failing]
    rfl

theorem Counts.confirmsRecovery_iff
    (hcounts : Counts deadline conclusions progress) :
    config.recoveryConfirmationCount ≤ progress.healthyStreak ↔
      ConfirmsRecovery config conclusions := by
  rw [hcounts.healthy, le_streak_iff]

theorem Counts.confirmsFailure_iff
    (hcounts : Counts deadline conclusions progress) :
    config.failureConfirmationCount ≤ progress.failureStreak ↔
      ConfirmsFailure config conclusions := by
  rw [hcounts.failing, le_streak_iff]

/-- How a call that concludes leaves the recovery. -/
structure Verdict (config : Config) (deadline : ℚ)
    (conclusions : List Evaluation) (after : Watchdog) : Prop where
  recovered : ConfirmsRecovery config conclusions →
    after.recovery = ⟨none, .recovered⟩ ∧ after.machine.state = .healthy
  failed : ConfirmsFailure config conclusions →
    after.recovery = ⟨none, .manualInterventionRequired⟩ ∧
      after.machine.state = .manualInterventionRequired
  goesOn : ¬ ConfirmsRecovery config conclusions →
    ¬ ConfirmsFailure config conclusions →
    ∃ progress, after.recovery.progress = some progress ∧
      Counts deadline conclusions progress

theorem verdict_of_conclusion (hprogress : w.recovery.progress = some progress)
    (hcounts : Counts deadline conclusions progress)
    (hconclusion : call.conclusion deadline = some evaluation) :
    Verdict config deadline (conclusions ++ [evaluation])
      (afterStep config w call) := by
  rw [← hcounts.deadline] at hconclusion
  rw [afterStep_of_conclusion hprogress hconclusion]
  by_cases hhealthy : evaluation.state = .healthy
  · have hcounted := hcounts.countHealthy hhealthy
    have hnofailure : ¬ ConfirmsFailure config (conclusions ++ [evaluation]) := by
      rw [← hcounted.confirmsFailure_iff]
      have hpositive := config.failureConfirmationCount_pos
      simp only [Progress.countHealthy]
      omega
    rw [if_pos hhealthy]
    by_cases henough : config.recoveryConfirmationCount ≤
        progress.countHealthy.healthyStreak
    · rw [if_pos henough]
      exact ⟨fun _ => ⟨rfl, rfl⟩, fun hfailure => absurd hfailure hnofailure,
        fun hnot => absurd (hcounted.confirmsRecovery_iff.mp henough) hnot⟩
    · rw [if_neg henough]
      refine ⟨fun hrecovery => ?_, fun hfailure => absurd hfailure hnofailure,
        fun _ _ => ⟨_, rfl, hcounted⟩⟩
      exact absurd (hcounted.confirmsRecovery_iff.mpr hrecovery) henough
  · have hcounted := hcounts.countFailure hhealthy
    have hnorecovery :
        ¬ ConfirmsRecovery config (conclusions ++ [evaluation]) := by
      rw [← hcounted.confirmsRecovery_iff]
      have hpositive := config.recoveryConfirmationCount_pos
      simp only [Progress.countFailure]
      omega
    rw [if_neg hhealthy]
    by_cases henough : config.failureConfirmationCount ≤
        progress.countFailure.failureStreak
    · rw [if_pos henough]
      exact ⟨fun hrecovery => absurd hrecovery hnorecovery,
        fun _ => ⟨rfl, rfl⟩,
        fun _ hnot => absurd (hcounted.confirmsFailure_iff.mp henough) hnot⟩
    · rw [if_neg henough]
      refine ⟨fun hrecovery => absurd hrecovery hnorecovery,
        fun hfailure => ?_, fun _ _ => ⟨_, rfl, hcounted⟩⟩
      exact absurd (hcounted.confirmsFailure_iff.mpr hfailure) henough

end Step

section Steps

open RecoveryController

variable {config : Config} {deadline : ℚ}

theorem afterSteps_concat (w : Watchdog) (calls : List StepCall)
    (call : StepCall) :
    afterSteps config w (calls ++ [call]) =
      afterStep config (afterSteps config w calls) call := by
  simp [afterSteps]

theorem afterSteps_of_inactive {w : Watchdog}
    (hinactive : w.recovery.progress = none) (calls : List StepCall) :
    afterSteps config w calls = w := by
  induction calls with
  | nil => rfl
  | cons call rest ih =>
      rw [afterSteps, List.foldl_cons, afterStep_of_inactive hinactive]
      exact ih

/-- A restart that `begin` reports leaves a recovery with nothing counted. -/
theorem begin_counts {answers : CycleAnswers} {state : State} {reason : String}
    {w started : Watchdog}
    (hbegin : outcome (RecoveryController.begin config answers state reason) w =
      (.ok true, started)) :
    ∃ progress, started.recovery.progress = some progress ∧
      Counts (answers.monotonic + config.postRestartWaitSeconds) []
        progress := by
  obtain ⟨result, after, houtcome, hbegun⟩ :=
    begin_begun config answers ⟨.starting, state, reason⟩ w
  obtain ⟨rfl, rfl⟩ := Prod.mk.inj (hbegin.symm.trans houtcome)
  have hrecovery : ∀ {reply : Except PyError Bool} {next : Digest},
      Begun config answers w.digest ⟨.starting, state, reason⟩ reply next →
      reply = .ok true →
      next.recovery.progress = some {
        triggerState := state
        reason := reason
        deadline := answers.monotonic + config.postRestartWaitSeconds } := by
    intro reply next hnext hreply
    cases hnext with
    | raised hcall => cases hreply
    | refused hcall => cases hreply
    | unrecorded hcall hrecord => cases hreply
    | restarted hcall hrecord => rfl
  exact ⟨_, hrecovery hbegun rfl, rfl, rfl, rfl⟩

/-- As long as nothing has settled the recovery it is in progress, with its
conclusions counted; once something has, it is over. -/
theorem afterSteps_counts {started : Watchdog} {progress : Progress}
    (hstarted : started.recovery.progress = some progress)
    (hcounts : Counts deadline [] progress) (calls : List StepCall) :
    (Unsettled config deadline calls →
      ∃ counted, (afterSteps config started calls).recovery.progress =
          some counted ∧
        Counts deadline (StepCall.conclusions deadline calls) counted) ∧
    (¬ Unsettled config deadline calls →
      (afterSteps config started calls).recovery.progress = none) := by
  induction calls using List.reverseRecOn with
  | nil =>
      exact ⟨fun _ => ⟨progress, hstarted, hcounts⟩,
        fun hsettled => absurd (unsettled_nil config) hsettled⟩
  | append_singleton calls call ih =>
      rw [afterSteps_concat]
      by_cases hopen : Unsettled config deadline calls
      · obtain ⟨counted, hcounted, hnow⟩ := ih.1 hopen
        rw [unsettled_concat, conclusions_concat]
        cases hconclusion : call.conclusion deadline with
        | none =>
            have hsame := hopen calls List.prefix_rfl
            rw [Option.toList_none, List.append_nil]
            rw [afterStep_of_conclusion_none hcounted
              (hnow.deadline ▸ hconclusion)]
            exact ⟨fun _ => ⟨counted, rfl, hnow⟩,
              fun hsettled => absurd ⟨hopen, hsame⟩ hsettled⟩
        | some evaluation =>
            have hverdict := @verdict_of_conclusion config _ _ _ _ _ _
              hcounted hnow hconclusion
            rw [Option.toList_some]
            refine ⟨fun hlast => hverdict.goesOn hlast.2.1 hlast.2.2,
              fun hsettled => ?_⟩
            by_cases hrecovery : ConfirmsRecovery config
                (StepCall.conclusions deadline calls ++ [evaluation])
            · exact congrArg RecoveryController.progress
                (hverdict.recovered hrecovery).1
            · by_cases hfailure : ConfirmsFailure config
                  (StepCall.conclusions deadline calls ++ [evaluation])
              · exact congrArg RecoveryController.progress
                  (hverdict.failed hfailure).1
              · exact absurd ⟨hopen, hrecovery, hfailure⟩ hsettled
      · have hover := ih.2 hopen
        rw [afterStep_of_inactive hover]
        exact ⟨fun hlast => absurd hlast.init hopen, fun _ => hover⟩

/-- After a restart, `step` never raises.  While nothing has settled the
recovery it is in progress; a call that adds no conclusion changes only the
status; a call that completes one of the two counts ends it accordingly; and
once it has ended no call changes anything. -/
theorem recovery_step_exact {answers : CycleAnswers} {state : State}
    {reason : String} {w started : Watchdog}
    (hbegin : outcome (RecoveryController.begin config answers state reason) w =
      (.ok true, started))
    (hdeadline : deadline = answers.monotonic + config.postRestartWaitSeconds)
    (calls : List StepCall) :
    (Unsettled config deadline calls ↔
      (afterSteps config started calls).recovery.active = true) ∧
    (Unsettled config deadline calls → ∀ call : StepCall,
      (call.conclusion deadline = none →
        StepCall.conclusions deadline (calls ++ [call]) =
          StepCall.conclusions deadline calls ∧
        afterSteps config started (calls ++ [call]) =
          { afterSteps config started calls with
            recovery := { (afterSteps config started calls).recovery with
              status := if call.answers.monotonic < deadline then
                .waitingAfterRestart else .confirmingRecovery } }) ∧
      (ConfirmsRecovery config
          (StepCall.conclusions deadline (calls ++ [call])) →
        (afterSteps config started (calls ++ [call])).recovery =
            ⟨none, .recovered⟩ ∧
          (afterSteps config started (calls ++ [call])).machine.state =
            .healthy) ∧
      (ConfirmsFailure config
          (StepCall.conclusions deadline (calls ++ [call])) →
        (afterSteps config started (calls ++ [call])).recovery =
            ⟨none, .manualInterventionRequired⟩ ∧
          (afterSteps config started (calls ++ [call])).machine.state =
            .manualInterventionRequired)) ∧
    (¬ Unsettled config deadline calls → ∀ later : List StepCall,
      afterSteps config (afterSteps config started calls) later =
        afterSteps config started calls) ∧
    ∀ call : StepCall,
      (outcome (step config call.answers call.observation)
        (afterSteps config started calls)).1 = .ok () := by
  obtain ⟨progress, hstarted, hcounts⟩ := begin_counts hbegin
  rw [← hdeadline] at hcounts
  obtain ⟨hunsettled, hsettled⟩ :=
    @afterSteps_counts config _ _ _ hstarted hcounts calls
  refine ⟨⟨fun hopen => ?_, fun hactive => ?_⟩, fun hopen call => ?_,
    fun hclosed => afterSteps_of_inactive (hsettled hclosed),
    step_returns _⟩
  · obtain ⟨counted, hcounted, _⟩ := hunsettled hopen
    exact RecoveryController.active_of_some hcounted
  · by_contra hclosed
    rw [RecoveryController.active_of_none (hsettled hclosed)] at hactive
    cases hactive
  · obtain ⟨counted, hcounted, hnow⟩ := hunsettled hopen
    rw [conclusions_concat, afterSteps_concat]
    cases hconclusion : call.conclusion deadline with
    | none =>
        have hsame := hopen calls List.prefix_rfl
        rw [Option.toList_none, List.append_nil]
        refine ⟨fun _ => ⟨rfl, ?_⟩, fun hrecovery => absurd hrecovery hsame.1,
          fun hfailure => absurd hfailure hsame.2⟩
        rw [afterStep_of_conclusion_none hcounted
          (hnow.deadline ▸ hconclusion), hnow.deadline]
        simp only [hcounted]
    | some evaluation =>
        have hverdict := @verdict_of_conclusion config _ _ _ _ _ _
          hcounted hnow hconclusion
        exact ⟨fun hnone => (by cases hnone), hverdict.recovered,
          hverdict.failed⟩

/-- A check at `time` that finds the vehicle logger well, or not. -/
def StepCall.check (time : ℚ) (loggerHealthy : Bool) : StepCall where
  answers := .calm time
  observation := {
    http := { category := .authenticated }
    loggerHealthy := some loggerHealthy }

/-- The objects after a restart at 60. -/
def restartedAt60 : Watchdog :=
  (outcome (RecoveryController.begin .fromEmptyEnv (.calm 60) .loggerUnhealthy
    "vehicle logger reports unhealthy") (.build ⟨[], .missing⟩)).2

/-- An early success and an interrupted one count for nothing: the recovery ends
at the second success in a row. -/
theorem recovery_step_exact_recovered :
    (afterSteps .fromEmptyEnv restartedAt60
      [.check 120 true, .check 180 true, .check 240 false, .check 300 true,
        .check 360 true]).recovery = ⟨none, .recovered⟩ := by
  have hexact := @recovery_step_exact .fromEmptyEnv 150 (.calm 60)
    .loggerUnhealthy "vehicle logger reports unhealthy" (.build ⟨[], .missing⟩)
    restartedAt60 (Prod.ext (by decide +kernel) rfl) (by decide +kernel)
    [.check 120 true, .check 180 true, .check 240 false, .check 300 true]
  exact ((hexact.2.1 (hexact.1.mpr (by decide +kernel)) (.check 360 true)).2.1
    (by decide +kernel)).1

end Steps

end TeslamateWatchdog
