/-
How soon the watchdog answers to what the checks keep finding: it settles on
HEALTHY, and no lasting outage goes unnoticed, whatever went before.
-/
import TeslamateWatchdog.CycleReports
import TeslamateWatchdog.RecoveryProtocol

namespace TeslamateWatchdog

open Foundation

/-- The check is conclusive and finds the state. -/
def Finds (config : Config) (classifier : LogClassifier) (state : State)
    (answers : CycleAnswers) : Prop :=
  ∃ observation, gather config classifier answers = .ok observation ∧
    (evaluate observation).inconclusive = false ∧
    (evaluate observation).state = state

/-- The check is conclusive and finds some failure. -/
def FindsFailure (config : Config) (classifier : LogClassifier)
    (answers : CycleAnswers) : Prop :=
  ∃ state, state ≠ .healthy ∧ Finds config classifier state answers

/-- Healthy, with no recovery in progress. -/
def Settled (w : Watchdog) : Prop :=
  w.machine.state = .healthy ∧ w.recovery.progress = none

/-- The count that a check raises which finds all well. -/
def healthyCount (w : Watchdog) : Nat :=
  match w.recovery.progress with
  | some progress => progress.healthyStreak
  | none => w.machine.healthyStreak

/-- The failed checks of the recovery in progress. -/
def failureCount (w : Watchdog) : Nat :=
  match w.recovery.progress with
  | some progress => progress.failureStreak
  | none => 0

/-- The machine is not held without a recovery, and a recovery in progress has
waited long enough for all of the checks. -/
structure Waited (checks : List CycleAnswers) (w : Watchdog) : Prop where
  idle : w.recovery.progress = none → w.machine.state ≠ .recovering
  waited : ∀ progress, w.recovery.progress = some progress →
    ∀ answers ∈ checks, progress.deadline ≤ answers.monotonic

variable {config : Config} {classifier : LogClassifier}

section Turns

variable {monotonic : ℚ} {progress : Progress} {observation : Observation}

theorem turn_of_healthy (hlate : progress.deadline ≤ monotonic)
    (hconclusive : (evaluate observation).inconclusive = false)
    (hhealthy : (evaluate observation).state = .healthy) :
    turn config monotonic progress observation =
      if config.recoveryConfirmationCount ≤ progress.healthyStreak + 1 then
        .recovers progress.countHealthy
      else .holds ⟨some progress.countHealthy, .confirmingRecovery⟩ := by
  rw [turn, if_neg (not_lt.mpr hlate), hconclusive, if_neg Bool.false_ne_true,
    if_pos hhealthy]
  rfl

theorem turn_of_failure (hlate : progress.deadline ≤ monotonic)
    (hconclusive : (evaluate observation).inconclusive = false)
    (hfailure : (evaluate observation).state ≠ .healthy) :
    turn config monotonic progress observation =
      if config.failureConfirmationCount ≤ progress.failureStreak + 1 then
        .escalates progress.countFailure (evaluate observation).reason
      else .holds ⟨some progress.countFailure, .confirmingRecovery⟩ := by
  rw [turn, if_neg (not_lt.mpr hlate), hconclusive, if_neg Bool.false_ne_true,
    if_neg hfailure]
  rfl

end Turns

section Steps

variable {machine : StateMachine} {observation : Observation}

/-- A conclusive check that finds another state enters it, or is one more of a
count that does not reach what it takes. -/
theorem StateMachine.step_found (config : Config)
    (hrecovering : machine.state ≠ .recovering)
    (hconclusive : (evaluate observation).inconclusive = false)
    (hmoves : (evaluate observation).state ≠ machine.state) :
    (∃ transition, (machine.step config observation).1 = some transition ∧
        transition.current = (evaluate observation).state) ∨
      ∃ counted, machine.step config observation = (none, counted) ∧
        counted =
          (machine.see (evaluate observation)).count (evaluate observation) ∧
        ¬Reached config counted (evaluate observation) := by
  have heffective : machine.effective? observation =
      some (evaluate observation) := by
    rw [effective?, if_neg]
    rintro (hheld | hinconclusive)
    · exact hrecovering hheld
    · rw [hconclusive] at hinconclusive
      cases hinconclusive
  rw [step_of_effective heffective]
  dsimp only
  split
  · exact .inl ⟨_, rfl, rfl⟩
  · rename_i hstays
    exact .inr ⟨_, rfl, rfl, fun hreached => hstays ⟨hmoves, hreached⟩⟩

end Steps

section Healthy

variable {checks : List CycleAnswers} {answers : CycleAnswers} {w : Watchdog}

/-- A check that finds all well asks for no restart, so that a cycle takes it to
the recovery in progress or to the machine. -/
theorem course_of_healthy {before next : Digest} {returned : Bool}
    (hcourse : Course config classifier answers before returned next)
    (hfinds : Finds config classifier .healthy answers) :
    ∃ observation, (evaluate observation).inconclusive = false ∧
      (evaluate observation).state = .healthy ∧
      ((∃ progress, before.recovery.progress = some progress ∧
          next = (before.observe observation).take answers
            (turn config answers.monotonic progress observation)) ∨
        before.recovery.progress = none ∧
          next = (before.observe observation).step config observation) := by
  obtain ⟨observation, hfound, hconclusive, hhealthy⟩ := hfinds
  refine ⟨observation, hconclusive, hhealthy, ?_⟩
  cases hcourse with
  | blind hgather =>
      rw [hfound] at hgather
      cases hgather
  | recovering hgather hprogress =>
      obtain rfl := Except.ok.inj (hfound.symm.trans hgather)
      exact .inl ⟨_, hprogress, rfl⟩
  | watching hgather hinactive =>
      obtain rfl := Except.ok.inj (hfound.symm.trans hgather)
      exact .inr ⟨hinactive, rfl⟩
  | restarting hgather hinactive htransition hcleared =>
      obtain rfl := Except.ok.inj (hfound.symm.trans hgather)
      obtain ⟨_, _, hguarded⟩ := hcleared
      have hrestartable := hguarded.restartable
      rw [(StateMachine.evaluate_of_step_some htransition).1, hhealthy]
        at hrestartable
      cases hrestartable

/-- Whoever has settled stays so. -/
theorem Settled.cycle (hsettled : Settled w)
    (hfinds : Finds config classifier .healthy answers) :
    Settled (cycle config classifier w answers).2 := by
  obtain ⟨observation, -, hhealthy, hnext⟩ := course_of_healthy
    (cycle_course config classifier w answers) hfinds
  rcases hnext with ⟨progress, hprogress, -⟩ | ⟨hinactive, hnext⟩
  · exact absurd (hprogress.symm.trans hsettled.2) (Option.some_ne_none progress)
  · have hmachine := congrArg Digest.machine hnext
    have hrecovery := congrArg Digest.recovery hnext
    have hstate : (w.machine.step config observation).2.state = .healthy := by
      rw [StateMachine.state_of_step]
      cases hmoved : (w.machine.step config observation).1 with
      | none => exact hsettled.1
      | some transition =>
          exact (StateMachine.evaluate_of_step_some hmoved).1.trans hhealthy
    refine ⟨?_, ?_⟩
    · exact (congrArg StateMachine.state hmachine).trans hstate
    · exact (congrArg RecoveryController.progress hrecovery).trans hinactive

/-- Until it settles, every check that finds all well is counted. -/
theorem Waited.cycle_healthy (hwaited : Waited checks w)
    (hmem : answers ∈ checks)
    (hfinds : Finds config classifier .healthy answers) :
    Settled (cycle config classifier w answers).2 ∨
      Waited checks (cycle config classifier w answers).2 ∧
        healthyCount w < healthyCount (cycle config classifier w answers).2 ∧
        healthyCount (cycle config classifier w answers).2 <
          config.recoveryConfirmationCount := by
  obtain ⟨observation, hconclusive, hhealthy, hnext⟩ := course_of_healthy
    (cycle_course config classifier w answers) hfinds
  rcases hnext with ⟨progress, hprogress, hnext⟩ | ⟨hinactive, hnext⟩
  · have hlate := hwaited.waited progress hprogress answers hmem
    rw [turn_of_healthy hlate hconclusive hhealthy] at hnext
    by_cases henough :
        config.recoveryConfirmationCount ≤ progress.healthyStreak + 1
    · left
      rw [if_pos henough] at hnext
      exact ⟨congrArg (·.machine.state) hnext,
        congrArg (·.recovery.progress) hnext⟩
    · right
      rw [if_neg henough] at hnext
      have hcounted : (cycle config classifier w answers).2.recovery.progress =
          some progress.countHealthy := congrArg (·.recovery.progress) hnext
      have hbefore : healthyCount w = progress.healthyStreak := by
        rw [healthyCount, show w.recovery.progress = _ from hprogress]
      have hafter : healthyCount (cycle config classifier w answers).2 =
          progress.healthyStreak + 1 := by
        rw [healthyCount, hcounted]
        rfl
      rw [hbefore, hafter]
      refine ⟨⟨fun hnone => ?_, fun other hother => ?_⟩, Nat.lt_succ_self _,
        Nat.lt_of_not_le henough⟩
      · rw [hcounted] at hnone
        cases hnone
      · rw [hcounted] at hother
        obtain rfl := Option.some.inj hother
        exact hwaited.waited progress hprogress
  · have hsame : (cycle config classifier w answers).2.machine =
        (w.machine.step config observation).2 := congrArg Digest.machine hnext
    have hnone : (cycle config classifier w answers).2.recovery.progress = none :=
      (congrArg (·.recovery.progress) hnext).trans hinactive
    by_cases hstate : w.machine.state = .healthy
    · exact .inl (Settled.cycle ⟨hstate, hinactive⟩ hfinds)
    · rcases StateMachine.step_found config (hwaited.idle hinactive) hconclusive
        (by rw [hhealthy]; exact Ne.symm hstate) with
        ⟨transition, hmoved, hcurrent⟩ | ⟨counted, hstep, hcounted, hbelow⟩
      · left
        refine ⟨?_, hnone⟩
        rw [hsame, StateMachine.state_of_step, hmoved]
        exact hcurrent.trans hhealthy
      · right
        rw [StateMachine.reached_of_healthy _ hhealthy] at hbelow
        rw [hstep] at hsame
        rw [StateMachine.count, if_pos hhealthy] at hcounted
        have hbefore : healthyCount w = w.machine.healthyStreak := by
          rw [healthyCount, show w.recovery.progress = _ from hinactive]
        have hafter : healthyCount (cycle config classifier w answers).2 =
            counted.healthyStreak := by
          rw [healthyCount, hnone]
          exact congrArg StateMachine.healthyStreak hsame
        rw [hbefore, hafter]
        refine ⟨⟨fun _ => ?_, fun other hother => ?_⟩, ?_,
          Nat.lt_of_not_le hbelow⟩
        · rw [hsame, hcounted]
          exact hwaited.idle hinactive
        · rw [hnone] at hother
          cases hother
        · rw [hcounted]
          exact Nat.lt_succ_self _

end Healthy

section Outage

variable {answers : CycleAnswers} {w : Watchdog} {state : State}

theorem mem_failureStates_of_evaluate {observation : Observation}
    (hfailure : (evaluate observation).state ≠ .healthy) :
    (evaluate observation).state ∈ failureStates := by
  have hstate := (StateMachine.observable_evaluate observation).state
  generalize (evaluate observation).state = found at hfailure hstate ⊢
  revert hfailure hstate
  cases found <;> decide

/-- Until it is reported, every check that finds the failure is counted. -/
theorem Story.outage {after : Digest} {told : Publicity}
    (hstory : Story config classifier answers w after told)
    (hfinds : Finds config classifier state answers)
    (hfailure : state ≠ .healthy) (hinactive : w.recovery.progress = none)
    (hrecovering : w.machine.state ≠ .recovering)
    (hother : w.machine.state ≠ state) :
    .failureDetected state ∈ told.announced ∨
      after.recovery.progress = none ∧
        after.machine.state = w.machine.state ∧
        after.machine.countFor state = w.machine.countFor state + 1 ∧
        after.machine.countFor state < StateMachine.required config state := by
  obtain ⟨observation, hfound, hconclusive, rfl⟩ := hfinds
  cases hstory with
  | blind hgather =>
      rw [hfound] at hgather
      cases hgather
  | recovering hgather hprogress =>
      rw [hinactive] at hprogress
      cases hprogress
  | calm hgather _ hcalm =>
      obtain rfl := Except.ok.inj (hfound.symm.trans hgather)
      rcases StateMachine.step_found config hrecovering hconclusive
        (Ne.symm hother) with
        ⟨transition, hmoved, hcurrent⟩ | ⟨counted, hstep, hcounted, hbelow⟩
      · refine absurd ?_ (hcalm transition hmoved)
        rw [hcurrent]
        exact mem_failureStates_of_evaluate hfailure
      · have hmachine : ((w.fresh.observe observation).step config
            observation).machine = counted := congrArg Prod.snd hstep
        rw [StateMachine.reached_of_failure _ hfailure, not_or] at hbelow
        rw [StateMachine.count, if_neg hfailure] at hcounted
        have hcount : counted.countFor (evaluate observation).state =
            w.machine.countFor (evaluate observation).state + 1 := by
          rw [hcounted, StateMachine.countFor_countFailure]
          rfl
        rw [hmachine]
        refine .inr ⟨hinactive, ?_, hcount, Nat.lt_of_not_le hbelow.2⟩
        rw [hcounted]
        rfl
  | failing hgather _ htransition =>
      obtain rfl := Except.ok.inj (hfound.symm.trans hgather)
      left
      rw [(StateMachine.evaluate_of_step_some htransition).1]
      exact List.mem_cons_self

/-- Until the recovery is given up, every check that fails is counted. -/
theorem course_of_outage {before next : Digest} {returned : Bool}
    {progress : Progress}
    (hcourse : Course config classifier answers before returned next)
    (hfinds : FindsFailure config classifier answers)
    (hprogress : before.recovery.progress = some progress)
    (hlate : progress.deadline ≤ answers.monotonic) :
    .manual ∈ recoveryEvents next.effects ∨
      next.recovery.progress = some progress.countFailure ∧
        progress.failureStreak + 1 < config.failureConfirmationCount := by
  obtain ⟨_, hfailure, observation, hfound, hconclusive, rfl⟩ := hfinds
  cases hcourse with
  | blind hgather =>
      rw [hfound] at hgather
      cases hgather
  | recovering hgather hheld =>
      obtain rfl := Except.ok.inj (hfound.symm.trans hgather)
      obtain rfl := Option.some.inj (hprogress.symm.trans hheld)
      rw [turn_of_failure hlate hconclusive hfailure]
      by_cases henough :
          config.failureConfirmationCount ≤ progress.failureStreak + 1
      · left
        rw [if_pos henough]
        simp [Digest.take, Digest.escalatedEvent]
      · right
        rw [if_neg henough]
        exact ⟨rfl, Nat.lt_of_not_le henough⟩
  | watching hgather hinactive =>
      rw [hprogress] at hinactive
      cases hinactive
  | restarting hgather hinactive =>
      rw [hprogress] at hinactive
      cases hinactive

end Outage

/-- No run leaves the machine at RECOVERING without a recovery. -/
theorem idle_run (restarts : RestartManager) (inputs : List CycleAnswers)
    (hinactive : ((checkLoop config classifier).run (.build restarts)
      inputs).1.recovery.progress = none) :
    ((checkLoop config classifier).run (.build restarts)
      inputs).1.machine.state ≠ .recovering := by
  have hidle : ∀ digest : Digest, (digest.recovery.progress = none →
      digest.machine.state ≠ .recovering) → ∀ answers returned next,
      Course config classifier answers digest returned next →
      next.recovery.progress = none → next.machine.state ≠ .recovering := by
    intro digest hbefore answers returned next hcourse hnone
    cases hcourse with
    | blind hgather => exact hbefore hnone
    | @recovering observation progress _ hgather hprogress =>
        cases hturn : turn config answers.monotonic progress observation with
        | holds recovery =>
            rw [hturn] at hnone
            exact absurd hnone (holds_of_turn hturn).1
        | recovers counted => exact State.noConfusion
        | escalates counted detail => exact State.noConfusion
    | watching hgather hinactive =>
        exact step_state_ne_recovering (hbefore hinactive) _
    | restarting hgather hinactive htransition hcleared hbegun =>
        have hstepped := @step_state_ne_recovering config digest.machine
          (hbefore hinactive)
        cases hbegun with
        | raised hcall => exact hstepped _
        | refused hcall => exact State.noConfusion
        | unrecorded hcall hrecord => exact hstepped _
        | restarted hcall hrecord => cases hnone
  exact @loop_induction config classifier (fun _ _ => True)
    (fun _ digest => digest.recovery.progress = none →
      digest.machine.state ≠ .recovering) (.build restarts)
    (fun _ => State.noConfusion)
    (fun _ _ _ digest _ _ hbefore hcourse =>
      hidle digest hbefore _ _ _ hcourse) inputs
    (Mealy.along_of_forall (fun _ _ => trivial) inputs) hinactive

/-- Whatever went before, and whether a restart is being waited for or not: as
many checks in a row as confirm a recovery, all of which find TeslaMate well,
leave the watchdog at HEALTHY, with no recovery in progress. -/
theorem settles_healthy (config : Config) (classifier : LogClassifier)
    (restarts : RestartManager) (inputs : List CycleAnswers)
    {checks : List CycleAnswers} (hne : checks ≠ [])
    (hlength : config.recoveryConfirmationCount ≤ checks.length)
    (hfinds : ∀ answers ∈ checks, Finds config classifier .healthy answers)
    (hwaited : ∀ progress, ((checkLoop config classifier).run (.build restarts)
        inputs).1.recovery.progress = some progress →
      ∀ answers ∈ checks, progress.deadline ≤ answers.monotonic) :
    Settled ((checkLoop config classifier).run (.build restarts)
      (inputs ++ checks)).1 := by
  rw [Mealy.run_append]
  obtain ⟨front, answers, back, hsplit, hsettled⟩ :=
    @Mealy.exists_response _ _ _ (checkLoop config classifier)
      (fun _ answers => answers ∈ checks) _ checks (Waited checks)
      (fun w answers => Settled (cycle config classifier w answers).2)
      healthyCount config.recoveryConfirmationCount
      (fun _ answers hbefore hmem =>
        hbefore.cycle_healthy hmem (hfinds answers hmem))
      ⟨idle_run restarts inputs, hwaited⟩
      (Mealy.along_of_mem fun _ hmem _ => hmem) hne hlength
  have hback : ∀ later ∈ back, later ∈ checks := by
    intro later hlater
    rw [hsplit]
    exact List.mem_append_right front (List.mem_cons_of_mem answers hlater)
  rw [hsplit, Mealy.run_append, Mealy.run_cons]
  exact Mealy.run_invariant Settled hsettled
    (fun _ later hbefore hmem => hbefore.cycle (hfinds later (hback later hmem)))
    back (Mealy.along_of_mem fun _ hmem _ => hmem)

/-- A restarted container that is well after the wait, and at the next check. -/
theorem settles_healthy_restarted :
    Settled ((checkLoop .fromEmptyEnv .withoutPatterns).run
      (.build ⟨[], .missing⟩)
      ([.calm 0, .stopped 60] ++ [.calm 150, .calm 210])).1 := by
  have hdeadline : ∀ progress ∈ ((checkLoop .fromEmptyEnv .withoutPatterns).run
      (.build ⟨[], .missing⟩) [.calm 0, .stopped 60]).1.recovery.progress,
      progress.deadline ≤ 150 := by
    decide +kernel
  refine settles_healthy .fromEmptyEnv .withoutPatterns ⟨[], .missing⟩
    [.calm 0, .stopped 60] (List.cons_ne_nil _ _) (by decide) ?_ ?_
  · intro answers hmem
    rcases List.mem_pair.mp hmem with rfl | rfl
    · exact ⟨_, rfl, rfl, rfl⟩
    · exact ⟨_, rfl, rfl, rfl⟩
  · intro progress hprogress answers hmem
    refine (hdeadline progress hprogress).trans ?_
    rcases List.mem_pair.mp hmem with rfl | rfl
    · exact le_rfl
    · decide +kernel

section Outages

variable {state : State} {outage : List CycleAnswers} {w : Watchdog}

/-- What one cycle of a run puts on its trace, the run does. -/
theorem mem_collect_run {α : Type} {pick : Effect → Option α} {value : α}
    {front back : List CycleAnswers} {answers : CycleAnswers}
    (hsplit : outage = front ++ answers :: back)
    (hvalue : value ∈ collect pick (cycleTrace config classifier
      ((checkLoop config classifier).run w front).1 answers)) :
    value ∈ collect pick ((checkLoop config classifier).run w outage).2 := by
  obtain ⟨effect, heffect, hpicked⟩ := List.mem_filterMap.mp hvalue
  refine List.mem_filterMap.mpr ⟨effect, ?_, hpicked⟩
  rw [hsplit]
  exact Mealy.subset_run_output front back heffect

theorem reported_of_outage (hfailure : state ≠ .healthy) (hne : outage ≠ [])
    (hfinds : ∀ answers ∈ outage, Finds config classifier state answers)
    (hinactive : w.recovery.progress = none)
    (hrecovering : w.machine.state ≠ .recovering)
    (hother : w.machine.state ≠ state)
    (hlength : StateMachine.required config state ≤ outage.length) :
    .failureDetected state ∈
      announcements ((checkLoop config classifier).run w outage).2 := by
  obtain ⟨front, answers, back, hsplit, htold⟩ :=
    @Mealy.exists_response _ _ _ (checkLoop config classifier)
      (fun _ answers => answers ∈ outage) w outage
      (fun w => w.recovery.progress = none ∧
        w.machine.state ≠ .recovering ∧ w.machine.state ≠ state)
      (fun w answers => .failureDetected state ∈
        announcements (cycleTrace config classifier w answers))
      (fun w => w.machine.countFor state) (StateMachine.required config state)
      (by
        rintro w answers ⟨hnone, hrecovering, hother⟩ hmem
        rcases (cycle_story config classifier answers w).outage
          (hfinds answers hmem) hfailure hnone hrecovering hother with
          htold | ⟨hstill, hsame, hcount, hbelow⟩
        · exact .inl htold
        · exact .inr ⟨⟨hstill, hsame ▸ hrecovering, hsame ▸ hother⟩,
            lt_of_lt_of_eq (Nat.lt_succ_self _) hcount.symm, hbelow⟩)
      ⟨hinactive, hrecovering, hother⟩
      (Mealy.along_of_mem fun _ hmem _ => hmem) hne hlength
  exact mem_collect_run hsplit htold

theorem escalated_of_outage (hne : outage ≠ [])
    (hfinds : ∀ answers ∈ outage, FindsFailure config classifier answers)
    {progress : Progress} (hprogress : w.recovery.progress = some progress)
    (hwaited : ∀ answers ∈ outage, progress.deadline ≤ answers.monotonic)
    (hlength : config.failureConfirmationCount ≤ outage.length) :
    .manual ∈
      recoveryEvents ((checkLoop config classifier).run w outage).2 := by
  obtain ⟨front, answers, back, hsplit, htold⟩ :=
    @Mealy.exists_response _ _ _ (checkLoop config classifier)
      (fun _ answers => answers ∈ outage) w outage
      (fun w => ∃ progress, w.recovery.progress = some progress ∧
        ∀ answers ∈ outage, progress.deadline ≤ answers.monotonic)
      (fun w answers => .manual ∈
        recoveryEvents (cycleTrace config classifier w answers))
      failureCount config.failureConfirmationCount
      (by
        rintro w answers ⟨progress, hprogress, hwaited⟩ hmem
        rcases course_of_outage (cycle_course config classifier w answers)
          (hfinds answers hmem) hprogress (hwaited answers hmem) with
          htold | ⟨hstill, hbelow⟩
        · left
          rwa [cycleDigest, Watchdog.digest, recoveryEvents_decides] at htold
        · right
          have hbefore : failureCount w = progress.failureStreak := by
            rw [failureCount, hprogress]
          have hafter : failureCount (cycle config classifier w answers).2 =
              progress.failureStreak + 1 := by
            rw [failureCount, show (cycle config classifier w
              answers).2.recovery.progress = _ from hstill]
            rfl
          refine ⟨⟨_, hstill, hwaited⟩, ?_, ?_⟩
          · exact lt_of_eq_of_lt hbefore
              (lt_of_lt_of_eq (Nat.lt_succ_self _) hafter.symm)
          · exact lt_of_eq_of_lt hafter hbelow)
      ⟨progress, hprogress, hwaited⟩
      (Mealy.along_of_mem fun _ hmem _ => hmem) hne hlength
  exact mem_collect_run hsplit htold

end Outages

/-- No lasting outage goes unnoticed, whatever went before it.  Outside of a
recovery, as many checks in a row as confirm the failure they find have it
reported, unless the watchdog was in that state already; and a recovery that has
waited long enough is given up after that many failing checks, whichever failures
they find. -/
theorem outage_noticed (config : Config) (classifier : LogClassifier)
    (restarts : RestartManager) (inputs : List CycleAnswers)
    {outage : List CycleAnswers} (hne : outage ≠ []) :
    let w := ((checkLoop config classifier).run (.build restarts) inputs).1
    let effects := ((checkLoop config classifier).run w outage).2
    (∀ state, state ≠ .healthy →
      (∀ answers ∈ outage, Finds config classifier state answers) →
      w.recovery.progress = none →
      StateMachine.required config state ≤ outage.length →
      w.machine.state = state ∨
        .failureDetected state ∈ announcements effects) ∧
    ((∀ answers ∈ outage, FindsFailure config classifier answers) →
      ∀ progress, w.recovery.progress = some progress →
        (∀ answers ∈ outage, progress.deadline ≤ answers.monotonic) →
        config.failureConfirmationCount ≤ outage.length →
        .manual ∈ recoveryEvents effects) := by
  intro w effects
  constructor
  · intro state hfailure hfinds hinactive hlength
    rw [or_iff_not_imp_left]
    intro hother
    exact reported_of_outage hfailure hne hfinds hinactive
      (idle_run restarts inputs hinactive) hother hlength
  · intro hfinds progress hprogress hwaited hlength
    exact escalated_of_outage hne hfinds hprogress hwaited hlength

/-- The third sign-in page is reported; and a recovery is given up when the
checks after it find TeslaMate stopped, signed out, and stopped again. -/
theorem outage_noticed_signedOut :
    .failureDetected .loggedOut ∈ announcements ((checkLoop .fromEmptyEnv
        .withoutPatterns).run ((checkLoop .fromEmptyEnv .withoutPatterns).run
          (.build ⟨[], .missing⟩) [.calm 0]).1
        [.signedOut 60 true, .signedOut 120 true, .signedOut 180 true]).2 ∧
      .manual ∈ recoveryEvents ((checkLoop .fromEmptyEnv
        .withoutPatterns).run ((checkLoop .fromEmptyEnv .withoutPatterns).run
          (.build ⟨[], .missing⟩) [.calm 0, .stopped 60]).1
        [.stopped 150, .signedOut 210 true, .stopped 270]).2 := by
  constructor
  · have hfinds : ∀ answers ∈ [CycleAnswers.signedOut 60 true,
        .signedOut 120 true, .signedOut 180 true],
        Finds .fromEmptyEnv .withoutPatterns .loggedOut answers := by
      simp only [List.forall_mem_cons, List.not_mem_nil, false_imp_iff,
        implies_true, and_true]
      exact ⟨⟨_, rfl, rfl, rfl⟩, ⟨_, rfl, rfl, rfl⟩, ⟨_, rfl, rfl, rfl⟩⟩
    have hnoticed := (outage_noticed .fromEmptyEnv .withoutPatterns
      ⟨[], .missing⟩ [.calm 0] (List.cons_ne_nil _ _)).1 _ State.noConfusion
        hfinds (by decide +kernel) (by decide)
    exact hnoticed.resolve_left (by decide +kernel)
  · have hfinds : ∀ answers ∈ [CycleAnswers.stopped 150, .signedOut 210 true,
        .stopped 270],
        FindsFailure .fromEmptyEnv .withoutPatterns answers := by
      simp only [List.forall_mem_cons, List.not_mem_nil, false_imp_iff,
        implies_true, and_true]
      exact ⟨⟨.teslamateUnreachable, State.noConfusion, _, rfl, rfl, rfl⟩,
        ⟨.loggedOut, State.noConfusion, _, rfl, rfl, rfl⟩,
        ⟨.teslamateUnreachable, State.noConfusion, _, rfl, rfl, rfl⟩⟩
    have hheld : ∃ progress, ((checkLoop .fromEmptyEnv .withoutPatterns).run
        (.build ⟨[], .missing⟩) [.calm 0, .stopped 60]).1.recovery.progress =
          some progress ∧ progress.deadline ≤ 150 := by
      have hdue := Option.any_eq_true (fun progress : Progress =>
        decide (progress.deadline ≤ 150)) ((checkLoop .fromEmptyEnv
          .withoutPatterns).run (.build ⟨[], .missing⟩)
            [.calm 0, .stopped 60]).1.recovery.progress
      simp only [decide_eq_true_eq] at hdue
      exact hdue.mp (by decide +kernel)
    obtain ⟨progress, hprogress, hdeadline⟩ := hheld
    refine (outage_noticed .fromEmptyEnv .withoutPatterns ⟨[], .missing⟩
      [.calm 0, .stopped 60] (List.cons_ne_nil _ _)).2 hfinds progress
        hprogress ?_ (by decide)
    simp only [List.forall_mem_cons, List.not_mem_nil, false_imp_iff,
      implies_true, and_true]
    refine ⟨hdeadline, hdeadline.trans ?_, hdeadline.trans ?_⟩
    · decide +kernel
    · decide +kernel

end TeslamateWatchdog
