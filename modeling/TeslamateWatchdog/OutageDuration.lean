/-
How long an outage has been seen when a restart is asked for.  The counters of
the state machine count cycles, and cycles are an interval apart.
-/
import TeslamateWatchdog.CheckSchedule
import TeslamateWatchdog.RecoveryProtocol

namespace TeslamateWatchdog

open Foundation

section Counting

variable {config : Config} {machine : StateMachine}
  {observation : Observation} {state : State}

/-- The candidate is counted up by a check that evaluates to it, kept by one
that says nothing, and dropped by every other. -/
theorem StateMachine.countFor_step (config : Config)
    (hrecovering : machine.state ≠ .recovering) :
    (machine.step config observation).2.countFor state = 0 ∨
      (machine.step config observation).2.countFor state ≤
          machine.countFor state + 1 ∧
        ((evaluate observation).inconclusive = true ∨
          (evaluate observation).state = state) := by
  cases heffective : machine.effective? observation with
  | none =>
      obtain ⟨last, hnone⟩ := step_of_not_effective config heffective
      unfold effective? at heffective
      split at heffective
      · rename_i hinert
        rw [hnone]
        exact .inr ⟨Nat.le_succ _, .inl (hinert.resolve_left hrecovering)⟩
      · cases heffective
  | some evaluation =>
      obtain ⟨-, rfl, -⟩ := evaluate_of_effective heffective
      have hcounted : (machine.step config observation).2.countFor state =
          ((machine.see (evaluate observation)).count
            (evaluate observation)).countFor state := by
        rw [step_of_effective heffective]
        dsimp only
        split <;> rfl
      rw [hcounted, count]
      split
      · exact .inl rfl
      · by_cases hsame : (evaluate observation).state = state
        · rw [hsame, countFor_countFailure]
          exact .inr ⟨le_rfl, .inr rfl⟩
        · exact .inl (countFor_countFailure_of_ne hsame)

/-- What it takes for a failure to be entered: a stopped container, or a count
that this check completes. -/
theorem StateMachine.required_le_of_step_some {transition : Transition}
    (hmoved : (machine.step config observation).1 = some transition)
    (hfailure : transition.current ≠ .healthy) :
    observation.teslamateContainerRunning = some false ∨
      required config transition.current ≤
        machine.countFor transition.current + 1 := by
  have hcurrent := (evaluate_of_step_some hmoved).1
  cases heffective : machine.effective? observation with
  | none =>
      obtain ⟨last, hnone⟩ := step_of_not_effective config heffective
      rw [hnone] at hmoved
      cases hmoved
  | some evaluation =>
      obtain ⟨-, rfl, -⟩ := evaluate_of_effective heffective
      rw [step_of_effective heffective] at hmoved
      dsimp only at hmoved
      split at hmoved
      · rename_i hfires
        rw [hcurrent] at hfailure ⊢
        rw [reached_of_failure _ hfailure] at hfires
        rcases hfires.2 with himmediate | hcount
        · exact .inl ((observable_evaluate observation).immediate himmediate)
        · rw [count, if_neg hfailure, countFor_countFailure] at hcount
          exact .inr hcount
      · cases hmoved

end Counting

/-- The check raised, or was inconclusive, or found the state. -/
def SeenAs (config : Config) (classifier : LogClassifier) (state : State)
    (answers : CycleAnswers) : Prop :=
  ∀ observation, gather config classifier answers = .ok observation →
    (evaluate observation).inconclusive = true ∨
      (evaluate observation).state = state

/-- Every count stands for as many cycles at the end of the past, and nothing
is counted while a recovery is under way. -/
structure Counted (config : Config) (classifier : LogClassifier)
    (past : List CycleAnswers) (digest : Digest) : Prop where
  resting : digest.recovery.progress ≠ none ∨
    digest.machine.state = .recovering →
      ∀ state, digest.machine.countFor state = 0
  seen : ∀ state, ∃ ending, ending <:+ past ∧
    digest.machine.countFor state ≤ ending.length ∧
      ∀ answers ∈ ending, SeenAs config classifier state answers

section Counted

variable {config : Config} {classifier : LogClassifier}
  {past : List CycleAnswers} {answers : CycleAnswers} {before next : Digest}

theorem counted_of_zero
    (hzero : ∀ state, next.machine.countFor state = 0) :
    Counted config classifier past next where
  resting _ := hzero
  seen state := ⟨[], List.nil_suffix, (hzero state).le, fun _ hmem => by
    cases hmem⟩

/-- A cycle in which nothing was counted, and nothing was seen. -/
theorem Counted.blind (hcounted : Counted config classifier past before)
    {error : PyError} (hgather : gather config classifier answers = .error error)
    : Counted config classifier (past ++ [answers]) before where
  resting := hcounted.resting
  seen state := by
    obtain ⟨ending, ⟨front, hfront⟩, hcount, hseen⟩ := hcounted.seen state
    refine ⟨ending ++ [answers], ⟨front, ?_⟩, ?_, ?_⟩
    · rw [← List.append_assoc, hfront]
    · rw [List.length_append]
      exact hcount.trans (Nat.le_add_right _ _)
    · intro other hother
      rcases List.mem_append.mp hother with hold | hnew
      · exact hseen other hold
      · rw [List.mem_singleton.mp hnew]
        intro observation hok
        rw [hgather] at hok
        cases hok

theorem Counted.step (hcounted : Counted config classifier past before)
    {observation : Observation}
    (hgather : gather config classifier answers = .ok observation)
    (hinactive : before.recovery.progress = none) :
    Counted config classifier (past ++ [answers])
      ((before.observe observation).step config observation) := by
  by_cases hrecovering : before.machine.state = .recovering
  · have hzero := hcounted.resting (.inr hrecovering)
    apply counted_of_zero
    intro state
    have hsame : (before.machine.step config observation).2 = before.machine := by
      rw [StateMachine.step, if_pos hrecovering]
    change (before.machine.step config observation).2.countFor state = 0
    rw [hsame]
    exact hzero state
  · constructor
    · rintro (hprogress | hstate)
      · exact absurd hinactive hprogress
      · exact absurd hstate (step_state_ne_recovering hrecovering observation)
    · intro state
      rcases StateMachine.countFor_step config hrecovering with
        hzero | ⟨hcount, hfound⟩
      · exact ⟨[], List.nil_suffix, hzero.le, fun _ hmem => by cases hmem⟩
      · obtain ⟨ending, ⟨front, hfront⟩, hbefore, hseen⟩ :=
          hcounted.seen state
        refine ⟨ending ++ [answers], ⟨front, ?_⟩, ?_, ?_⟩
        · rw [← List.append_assoc, hfront]
        · rw [List.length_append]
          exact hcount.trans (Nat.add_le_add_right hbefore 1)
        · intro other hother
          rcases List.mem_append.mp hother with hold | hnew
          · exact hseen other hold
          · rw [List.mem_singleton.mp hnew]
            intro found hok
            rw [hgather] at hok
            cases hok
            exact hfound

/-- A restart that is begun leaves the counts, or clears them. -/
theorem Begun.machine_cases {transition : Transition}
    {result : Except PyError Bool}
    (hbegun : Begun config answers before transition result next) :
    next.machine = before.machine ∧ next.recovery = before.recovery ∨
      ∀ state, next.machine.countFor state = 0 := by
  cases hbegun with
  | raised hcall => exact .inl ⟨rfl, rfl⟩
  | refused hcall => exact .inr fun _ => rfl
  | unrecorded hcall hrecord => exact .inl ⟨rfl, rfl⟩
  | restarted hcall hrecord => exact .inr fun _ => rfl

theorem Course.counted {returned : Bool}
    (hcourse : Course config classifier answers before returned next)
    (hcounted : Counted config classifier past before) :
    Counted config classifier (past ++ [answers]) next := by
  cases hcourse with
  | blind hgather => exact hcounted.blind hgather
  | @recovering observation progress _ hgather hprogress =>
      apply counted_of_zero
      intro state
      cases turn config answers.monotonic progress observation with
      | holds recovery =>
          exact hcounted.resting (.inl (by simp [hprogress])) state
      | recovers counted => rfl
      | escalates counted detail => rfl
  | watching hgather hinactive => exact hcounted.step hgather hinactive
  | restarting hgather hinactive htransition hcleared hbegun hreturned =>
      have hstepped := hcounted.step hgather hinactive
      rcases hbegun.machine_cases with ⟨hmachine, hrecovery⟩ | hzero
      · exact ⟨by rw [hmachine, hrecovery]; exact hstepped.resting,
          by rw [hmachine]; exact hstepped.seen⟩
      · exact counted_of_zero hzero

theorem run_counted (restarts : RestartManager) (inputs : List CycleAnswers) :
    Counted config classifier inputs (Digest.ofRun
      ((checkLoop config classifier).run (.build restarts) inputs)) :=
  @loop_induction config classifier (fun _ _ => True)
    (fun inputs digest => Counted config classifier inputs digest)
    (.build restarts) (counted_of_zero fun _ => rfl)
    (fun _ _ _ _ _ _ hbefore hcourse => hcourse.counted hbefore) inputs
    (Mealy.along_of_forall (fun _ _ => trivial) inputs)

end Counted

/-- A cycle asks for a restart, after any run of the loop and with any times
between its steps, only if the container was seen stopped, or if the state has
been all that the checks could find since one that was started as many
intervals ago as its confirmation count asks for. -/
theorem restart_takes_time (config : Config) (classifier : LogClassifier)
    (checkIntervalSeconds : ℕ) (restarts : RestartManager) (clock : ℚ)
    (events : List (LoopEvent ℚ CycleAnswers)) {started : ℚ}
    (hworking : ((runLoop config classifier checkIntervalSeconds).run
      (.initial clock (.build restarts)) events).1.phase = .working started)
    {answers : CycleAnswers} {container : String}
    (hcalled : .restartCalled container ∈ cycleTrace config classifier
      ((runLoop config classifier checkIntervalSeconds).run
        (.initial clock (.build restarts)) events).1.state answers) :
    ∃ observation, gather config classifier answers = .ok observation ∧
      (observation.teslamateContainerRunning = some false ∨
        ∃ first checks, first :: checks <:+
            ((runLoop config classifier checkIntervalSeconds).run
              (.initial clock (.build restarts)) events).1.rounds ++
              [(started, answers)] ∧
          (∀ check ∈ first :: checks,
            SeenAs config classifier (evaluate observation).state check.2) ∧
          first.1 + (StateMachine.required config
            (evaluate observation).state - 1 : ℕ) * checkIntervalSeconds ≤
              started) := by
  generalize hrun : ((runLoop config classifier checkIntervalSeconds).run
    (.initial clock (.build restarts)) events).1 = loop at hworking hcalled ⊢
  have htimely : loop.Timely (checkIntervalSeconds : ℚ) := by
    rw [← hrun]
    exact PeriodicLoop.timely_run events
  have hstate : loop.state = ((checkLoop config classifier).run
      (.build restarts) (loop.rounds.map Prod.snd)).1 := by
    rw [← hrun]
    exact state_runLoop events
  obtain ⟨observation, transition, hasking⟩ := asking_of_restartCalled hcalled
  refine ⟨observation, hasking.gathered, ?_⟩
  obtain ⟨reachable, -, hguarded⟩ := hasking.cleared
  have hcurrent := (StateMachine.evaluate_of_step_some hasking.moved).1
  have hfailure : transition.current ≠ .healthy := by
    intro hhealthy
    have hrestartable := hguarded.restartable
    rw [hhealthy] at hrestartable
    exact absurd hrestartable (by decide)
  rcases StateMachine.required_le_of_step_some hasking.moved hfailure with
    hstopped | hrequired
  · exact .inl hstopped
  right
  have hcounted : Counted config classifier (loop.rounds.map Prod.snd)
      (Digest.ofRun ((checkLoop config classifier).run (.build restarts)
        (loop.rounds.map Prod.snd))) := run_counted restarts _
  obtain ⟨ending, hending, hcount, hseen⟩ := hcounted.seen transition.current
  have hmachine : (loop.state.fresh).machine.countFor transition.current ≤
      ending.length := by
    rw [hstate]
    exact hcount
  obtain ⟨recent, hrecent, rfl⟩ := List.suffix_map_iff.mp hending
  rw [List.length_map] at hmachine
  obtain ⟨first, checks, hchecks⟩ := List.exists_cons_of_ne_nil
    (List.append_ne_nil_of_right_ne_nil recent
      (List.cons_ne_nil (started, answers) []))
  have hlength : checks.length = recent.length := by
    have hboth := congrArg List.length hchecks
    simpa using hboth.symm
  obtain ⟨front, hfront⟩ := hrecent
  refine ⟨first, checks, ⟨front, ?_⟩, ?_, ?_⟩
  · rw [← hchecks, ← List.append_assoc, hfront]
  · rw [← hchecks, ← hcurrent]
    intro check hcheck
    rcases List.mem_append.mp hcheck with hold | hnew
    · exact hseen check.2 (List.mem_map_of_mem hold)
    · rw [List.mem_singleton.mp hnew]
      intro found hfound
      obtain rfl := Except.ok.inj (hasking.gathered.symm.trans hfound)
      exact .inr hcurrent.symm
  · have hspaced : Spaced (checkIntervalSeconds : ℚ)
        ((first :: checks).map Prod.fst) := by
      have hall := htimely.spaced_begun
      rw [PeriodicLoop.begun, hworking, ← hfront, List.map_append,
        List.append_assoc] at hall
      have hend := (List.pairwise_append.mp hall).2.1
      rw [← hchecks, List.map_append]
      exact hend
    have hlast : ((first :: checks).map Prod.fst).getLast? = some started := by
      rw [← hchecks]
      simp
    have hspan := PeriodicLoop.nsmul_le_of_spaced hspaced hlast
    rw [List.length_map, hlength, nsmul_eq_mul] at hspan
    have hsteps : ((StateMachine.required config
        (evaluate observation).state - 1 : ℕ) : ℚ) ≤ recent.length := by
      rw [← hcurrent]
      exact_mod_cast (by omega : _ - 1 ≤ recent.length)
    have hinterval : (0 : ℚ) ≤ checkIntervalSeconds := Nat.cast_nonneg _
    calc first.1 + ((StateMachine.required config
            (evaluate observation).state - 1 : ℕ) : ℚ) * checkIntervalSeconds
        ≤ first.1 + recent.length * checkIntervalSeconds := by gcongr
      _ ≤ started := hspan

/-- Two cycles that show the sign-in page, and a third one a minute later. -/
def signedOutLoop : PeriodicLoop ℚ Watchdog CycleAnswers :=
  ((runLoop .fromEmptyEnv .withoutPatterns 60).run
    (.initial 0 (.build ⟨[], .missing⟩))
    [.test, .enter, .finish (.signedOut 0 true), .elapse 60, .wake,
      .test, .enter, .elapse 10, .finish (.signedOut 60 true), .elapse 50, .wake,
      .test, .enter]).1

theorem restart_takes_time_signedOut :
    ∃ observation,
      gather .fromEmptyEnv .withoutPatterns (.signedOut 120 true) =
        .ok observation ∧
      (observation.teslamateContainerRunning = some false ∨
        ∃ first checks, first :: checks <:+
            signedOutLoop.rounds ++ [(120, .signedOut 120 true)] ∧
          (∀ check ∈ first :: checks, SeenAs .fromEmptyEnv .withoutPatterns
            (evaluate observation).state check.2) ∧
          first.1 + ((StateMachine.required .fromEmptyEnv
            (evaluate observation).state - 1 : ℕ) : ℚ) * (60 : ℕ) ≤ 120) := by
  have hworking : signedOutLoop.phase = .working 120 := by decide +kernel
  have hcalled : .restartCalled "teslamate" ∈ cycleTrace .fromEmptyEnv
      .withoutPatterns signedOutLoop.state (.signedOut 120 true) := by
    rw [mem_restartCalls]
    decide +kernel
  exact restart_takes_time .fromEmptyEnv .withoutPatterns 60 _ 0 _ hworking
    hcalled

end TeslamateWatchdog
