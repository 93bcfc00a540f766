/-
The state machine over whole runs.  Its one candidate and two counters are read
against the history they abbreviate: the evaluations that counted since the
state was last forced.
-/
import TeslamateWatchdog.Foundation.Streak
import TeslamateWatchdog.StateMachine

namespace TeslamateWatchdog

open Foundation

/-- The calls the watchdog and the recovery controller make on the machine. -/
inductive MachineCall where
  | step (observation : Observation)
  | forceState (state : State) (reason : String)
deriving Repr, DecidableEq

namespace StateMachine

/-- The evaluation a step counts: it is conclusive, and the state is not
RECOVERING. -/
def effective? (machine : StateMachine) (observation : Observation) :
    Option Evaluation :=
  if machine.state = .recovering ∨ (evaluate observation).inconclusive then
    none
  else some (evaluate observation)

/-- One call, on the machine and on the evaluations that counted since the last
`force_state`. -/
def observeCall (config : Config) (run : StateMachine × List Evaluation) :
    MachineCall → StateMachine × List Evaluation
  | .step observation =>
      ((run.1.step config observation).2,
        run.2 ++ (run.1.effective? observation).toList)
  | .forceState state reason => ((run.1.forceState state reason).2, [])

/-- The machine after a list of calls, and the history at that point. -/
def replay (config : Config) (start : StateMachine)
    (calls : List MachineCall) : StateMachine × List Evaluation :=
  calls.foldl (observeCall config) (start, [])

/-- What confirms an evaluation, given the history it ends: healthy checks need
the recovery count, failures need their own count unless they are immediate. -/
def Confirmed (config : Config) (history : List Evaluation)
    (evaluation : Evaluation) : Prop :=
  if evaluation.state = .healthy then
    LastAll (·.state == .healthy) config.recoveryConfirmationCount history
  else
    evaluation.immediate = true ∨
      LastAll (·.state == evaluation.state)
        (required config evaluation.state) history

/-- The candidate's streak, seen as a count kept for every state. -/
def countFor (machine : StateMachine) (state : State) : Nat :=
  if machine.candidate = some state then machine.candidateStreak else 0

/-- The counters are the lengths of the agreeing ends of the history. -/
structure Tracks (machine : StateMachine) (history : List Evaluation) :
    Prop where
  healthy : machine.healthyStreak = streak (·.state == .healthy) history
  failures : ∀ state, state ≠ .healthy →
    machine.countFor state = streak (·.state == state) history

/-- The counters after an effective evaluation. -/
def count (machine : StateMachine) (evaluation : Evaluation) : StateMachine :=
  if evaluation.state = .healthy then machine.countHealthy
  else machine.countFailure evaluation.state

/-- The counters have reached the threshold of the evaluation just counted. -/
def Reached (config : Config) (counted : StateMachine)
    (evaluation : Evaluation) : Prop :=
  if evaluation.state = .healthy then
    config.recoveryConfirmationCount ≤ counted.healthyStreak
  else
    evaluation.immediate = true ∨
      required config evaluation.state ≤ counted.countFor evaluation.state

instance (config : Config) (counted : StateMachine) (evaluation : Evaluation) :
    Decidable (Reached config counted evaluation) :=
  inferInstanceAs (Decidable (ite _ _ _))

/-- What a check can evaluate to: never a state that only the recovery
controller or the start of the process sets, and immediate over a stopped
container alone. -/
structure Observable (observation : Observation) (evaluation : Evaluation) :
    Prop where
  state : evaluation.state ∉
    [State.starting, .recovering, .manualInterventionRequired]
  immediate : evaluation.immediate = true →
    observation.teslamateContainerRunning = some false

theorem observable_evaluate (observation : Observation) :
    Observable observation (evaluate observation) := by
  have hcounted : ∀ {evaluation : Evaluation},
      evaluation.state ∉
        [State.starting, .recovering, .manualInterventionRequired] →
      evaluation.immediate = false → Observable observation evaluation :=
    fun hstate hcounted => ⟨hstate, fun himmediate =>
      absurd (hcounted.symm.trans himmediate) Bool.false_ne_true⟩
  unfold evaluate
  refine iteInduction (fun _ => hcounted (by simp) rfl) fun _ => ?_
  refine iteInduction (fun hstopped => ⟨by simp, fun _ => hstopped⟩) fun _ => ?_
  iterate 8 refine iteInduction (fun _ => hcounted (by simp) rfl) fun _ => ?_
  exact hcounted (by simp) rfl

/-- The evidence behind an evaluation that blames the database or the logger. -/
structure Grounded (observation : Observation) (evaluation : Evaluation) :
    Prop where
  database : evaluation.state = .databaseUnhealthy →
    observation.databaseHealthy = some false
  logger : evaluation.state = .loggerUnhealthy →
    observation.loggerHealthy = some false ∨ observation.loggerStale = true

theorem grounded_evaluate (observation : Observation) :
    Grounded observation (evaluate observation) := by
  have hother : ∀ {evaluation : Evaluation},
      evaluation.state ≠ .databaseUnhealthy →
      evaluation.state ≠ .loggerUnhealthy → Grounded observation evaluation :=
    fun hdatabase hlogger => ⟨fun hsame => absurd hsame hdatabase,
      fun hsame => absurd hsame hlogger⟩
  unfold evaluate
  refine iteInduction
    (fun hfalse => ⟨fun _ => hfalse, State.noConfusion⟩) fun _ => ?_
  iterate 6
    refine iteInduction
      (fun _ => hother State.noConfusion State.noConfusion) fun _ => ?_
  refine iteInduction
    (fun hfalse => ⟨State.noConfusion, fun _ => .inl hfalse⟩) fun _ => ?_
  refine iteInduction
    (fun hstale => ⟨State.noConfusion, fun _ => .inr hstale⟩) fun _ => ?_
  refine iteInduction
    (fun _ => hother State.noConfusion State.noConfusion) fun _ => ?_
  exact hother State.noConfusion State.noConfusion

section Step

variable {config : Config} {machine : StateMachine}
  {observation : Observation} {evaluation : Evaluation}
  {history : List Evaluation}

@[simp]
theorem count_state : (machine.count evaluation).state = machine.state := by
  unfold count
  split <;> rfl

@[simp]
theorem see_state : (machine.see evaluation).state = machine.state := rfl

theorem countFor_countFailure (machine : StateMachine) (state : State) :
    (machine.countFailure state).countFor state =
      machine.countFor state + 1 := by
  have hsame : (machine.countFailure state).candidate = some state := rfl
  rw [countFor, if_pos hsame]
  unfold countFailure countFor
  split <;> rfl

theorem countFor_countFailure_of_ne {machine : StateMachine}
    {counted state : State} (hne : counted ≠ state) :
    (machine.countFailure counted).countFor state = 0 := by
  have hother : (machine.countFailure counted).candidate ≠ some state :=
    fun hsame => hne (Option.some.inj hsame)
  rw [countFor, if_neg hother]

theorem reached_of_healthy (counted : StateMachine)
    (hhealthy : evaluation.state = .healthy) :
    Reached config counted evaluation ↔
      config.recoveryConfirmationCount ≤ counted.healthyStreak := by
  rw [Reached, if_pos hhealthy]

theorem reached_of_failure (counted : StateMachine)
    (hfailure : evaluation.state ≠ .healthy) :
    Reached config counted evaluation ↔
      evaluation.immediate = true ∨
        required config evaluation.state ≤
          counted.countFor evaluation.state := by
  rw [Reached, if_neg hfailure]

/-- Both observers count first and compare with the threshold then. -/
theorem observeHealthy_eq (config : Config) (machine : StateMachine)
    (hhealthy : evaluation.state = .healthy) :
    observeHealthy config machine evaluation =
      if evaluation.state ≠ machine.state ∧
          Reached config (machine.count evaluation) evaluation then
        (machine.count evaluation).enter evaluation
      else (none, machine.count evaluation) := by
  have hcounted : machine.count evaluation = machine.countHealthy := by
    rw [count, if_pos hhealthy]
  have hreached := @reached_of_healthy config evaluation machine.countHealthy
    hhealthy
  rw [hcounted, observeHealthy]
  by_cases hstate : machine.state = .healthy
  · rw [if_pos hstate, if_neg fun hfires => hfires.1 (hhealthy.trans hstate.symm)]
  · by_cases hcount :
        config.recoveryConfirmationCount ≤ machine.countHealthy.healthyStreak
    · rw [if_neg hstate, if_neg (Nat.not_lt.mpr hcount),
        if_pos ⟨fun h => hstate (h.symm.trans hhealthy), hreached.mpr hcount⟩]
    · rw [if_neg hstate, if_pos (Nat.not_le.mp hcount),
        if_neg fun hfires => hcount (hreached.mp hfires.2)]

theorem observeFailure_eq (config : Config) (machine : StateMachine)
    (hfailure : evaluation.state ≠ .healthy) :
    observeFailure config machine evaluation =
      if evaluation.state ≠ machine.state ∧
          Reached config (machine.count evaluation) evaluation then
        (machine.count evaluation).enter evaluation
      else (none, machine.count evaluation) := by
  have hcounted :
      machine.count evaluation = machine.countFailure evaluation.state := by
    rw [count, if_neg hfailure]
  have hstreak : (machine.countFailure evaluation.state).candidateStreak =
      (machine.countFailure evaluation.state).countFor evaluation.state := by
    simp [countFor, countFailure]
  have hreached := @reached_of_failure config evaluation
    (machine.countFailure evaluation.state) hfailure
  rw [hcounted, observeFailure, hstreak]
  by_cases hstate : machine.state = evaluation.state
  · simp [hstate]
  · by_cases hconfirmed : evaluation.immediate = true ∨
        required config evaluation.state ≤
          (machine.countFailure evaluation.state).countFor evaluation.state
    · rw [if_neg (by simpa [hstate, or_iff_not_imp_left] using hconfirmed),
        if_pos ⟨Ne.symm hstate, hreached.mpr hconfirmed⟩]
    · rw [if_pos (by simpa [hstate] using hconfirmed),
        if_neg fun hfires => hconfirmed (hreached.mp hfires.2)]

theorem evaluate_of_effective
    (heffective : machine.effective? observation = some evaluation) :
    machine.state ≠ .recovering ∧ evaluate observation = evaluation ∧
      evaluation.inconclusive = false := by
  unfold effective? at heffective
  split at heffective
  · cases heffective
  · rename_i hcounts
    rw [not_or] at hcounts
    obtain rfl := Option.some.inj heffective
    exact ⟨hcounts.1, rfl, Bool.eq_false_iff.mpr hcounts.2⟩

/-- An effective step: count, and change state once the count is reached. -/
theorem step_of_effective
    (heffective : machine.effective? observation = some evaluation) :
    machine.step config observation =
      let counted := (machine.see evaluation).count evaluation
      if evaluation.state ≠ machine.state ∧
          Reached config counted evaluation then
        counted.enter evaluation
      else (none, counted) := by
  obtain ⟨hstate, rfl, hconclusive⟩ := evaluate_of_effective heffective
  by_cases hhealthy : (evaluate observation).state = .healthy
  · simp only [step, hstate, hconclusive, hhealthy, if_true, if_false,
      Bool.false_eq_true]
    rw [observeHealthy_eq config _ hhealthy, hhealthy, see_state]
  · simp only [step, hstate, hconclusive, hhealthy, if_false,
      Bool.false_eq_true]
    exact observeFailure_eq config _ hhealthy

/-- An ineffective step returns nothing and touches only the last evaluation. -/
theorem step_of_not_effective (config : Config)
    (heffective : machine.effective? observation = none) :
    ∃ last, machine.step config observation =
      (none, { machine with lastEvaluation := last }) := by
  unfold effective? at heffective
  split at heffective
  · rename_i hinert
    by_cases hstate : machine.state = .recovering
    · exact ⟨machine.lastEvaluation, by rw [step, if_pos hstate]⟩
    · have hinconclusive := hinert.resolve_left hstate
      exact ⟨some (evaluate observation), by
        simp [step, hstate, hinconclusive, see]⟩
  · cases heffective

/-- The state changes exactly when a transition says so. -/
theorem state_of_step (config : Config) (machine : StateMachine)
    (observation : Observation) :
    (machine.step config observation).2.state =
      ((machine.step config observation).1.map Transition.current).getD
        machine.state := by
  cases heffective : machine.effective? observation with
  | none =>
      obtain ⟨last, hnone⟩ := step_of_not_effective config heffective
      rw [hnone]
      rfl
  | some evaluation =>
      rw [step_of_effective heffective]
      dsimp only
      split
      · rfl
      · rw [count_state, see_state]
        rfl

/-- A transition is that of its observation: it leads into the state this
evaluates to, for the reason given there, and away from the state the machine was
in. -/
theorem transition_of_step_some {transition : Transition}
    (hmoved : (machine.step config observation).1 = some transition) :
    transition = ⟨machine.state, (evaluate observation).state,
        (evaluate observation).reason⟩ ∧
      transition.current ≠ machine.state := by
  cases heffective : machine.effective? observation with
  | none =>
      obtain ⟨last, hnone⟩ :=
        step_of_not_effective config heffective
      rw [hnone] at hmoved
      cases hmoved
  | some evaluation =>
      obtain ⟨_, rfl, _⟩ := evaluate_of_effective heffective
      rw [step_of_effective heffective] at hmoved
      dsimp only at hmoved
      split at hmoved
      · rename_i hfires
        obtain rfl := Option.some.inj hmoved
        rw [count_state, see_state]
        exact ⟨rfl, hfires.1⟩
      · cases hmoved

theorem evaluate_of_step_some {transition : Transition}
    (hmoved : (machine.step config observation).1 = some transition) :
    transition.current = (evaluate observation).state ∧
      transition.current ≠ machine.state := by
  obtain ⟨htransition, haway⟩ := transition_of_step_some hmoved
  exact ⟨congrArg Transition.current htransition, haway⟩

theorem tracks_initial (state : State) : Tracks (initial state) [] :=
  ⟨rfl, fun _ _ => rfl⟩

theorem tracks_forceState (machine : StateMachine) (state : State)
    (reason : String) : Tracks (machine.forceState state reason).2 [] :=
  ⟨rfl, fun _ _ => rfl⟩

theorem tracks_see (htracks : Tracks machine history)
    (evaluation : Evaluation) : Tracks (machine.see evaluation) history :=
  ⟨htracks.healthy, htracks.failures⟩

/-- Counting moves both counters the way it moves the history. -/
theorem tracks_count (htracks : Tracks machine history)
    (evaluation : Evaluation) :
    Tracks (machine.count evaluation) (history ++ [evaluation]) := by
  by_cases hhealthy : evaluation.state = .healthy
  · rw [count, if_pos hhealthy]
    constructor
    · rw [streak_concat, if_pos (beq_iff_eq.mpr hhealthy), ← htracks.healthy]
      rfl
    · intro state hstate
      have hne : ¬(evaluation.state == state) = true := by
        rw [hhealthy, beq_iff_eq]
        exact Ne.symm hstate
      rw [streak_concat, if_neg hne]
      rfl
  · rw [count, if_neg hhealthy]
    constructor
    · rw [streak_concat, if_neg (by rwa [beq_iff_eq])]
      rfl
    · intro state hstate
      by_cases hsame : evaluation.state = state
      · subst hsame
        rw [streak_concat, if_pos (beq_self_eq_true _), countFor_countFailure,
          htracks.failures _ hstate]
      · rw [streak_concat, if_neg (by rwa [beq_iff_eq]),
          countFor_countFailure_of_ne hsame]

/-- The counters answer the question about the history. -/
theorem reached_iff_confirmed {counted : StateMachine}
    (htracks : Tracks counted history) (evaluation : Evaluation) :
    Reached config counted evaluation ↔ Confirmed config history evaluation := by
  by_cases hhealthy : evaluation.state = .healthy
  · rw [Reached, Confirmed, if_pos hhealthy, if_pos hhealthy, htracks.healthy,
      le_streak_iff]
  · rw [Reached, Confirmed, if_neg hhealthy, if_neg hhealthy,
      htracks.failures _ hhealthy, le_streak_iff]

/-- An effective step, in terms of the history it ends. -/
theorem step_confirmed (htracks : Tracks machine history)
    (heffective : machine.effective? observation = some evaluation)
    (hne : evaluation.state ≠ machine.state)
    (hconfirmed : Confirmed config (history ++ [evaluation]) evaluation) :
    (machine.step config observation).1 =
        some ⟨machine.state, evaluation.state, evaluation.reason⟩ ∧
      (machine.step config observation).2.state = evaluation.state := by
  have hcounted := tracks_count (tracks_see htracks evaluation) evaluation
  have hreached := (reached_iff_confirmed hcounted evaluation).mpr hconfirmed
  rw [step_of_effective heffective, if_pos ⟨hne, hreached⟩]
  exact ⟨by rw [enter, count_state, see_state], rfl⟩

theorem step_unconfirmed (htracks : Tracks machine history)
    (heffective : machine.effective? observation = some evaluation)
    (hstays : ¬(evaluation.state ≠ machine.state ∧
      Confirmed config (history ++ [evaluation]) evaluation)) :
    (machine.step config observation).1 = none ∧
      (machine.step config observation).2.state = machine.state := by
  have hcounted := tracks_count (tracks_see htracks evaluation) evaluation
  rw [← reached_iff_confirmed hcounted] at hstays
  rw [step_of_effective heffective, if_neg hstays]
  exact ⟨rfl, by rw [count_state, see_state]⟩

/-- A returned transition was confirmed by the history it ends. -/
theorem confirmed_of_step_some (htracks : Tracks machine history)
    {transition : Transition}
    (hstep : (machine.step config observation).1 = some transition) :
    ∃ evaluation, machine.effective? observation = some evaluation ∧
      transition = ⟨machine.state, evaluation.state, evaluation.reason⟩ ∧
      evaluation.state ≠ machine.state ∧
      Confirmed config (history ++ [evaluation]) evaluation := by
  cases heffective : machine.effective? observation with
  | none =>
      obtain ⟨last, hnone⟩ := step_of_not_effective config heffective
      rw [hnone] at hstep
      cases hstep
  | some evaluation =>
      by_cases hfires : evaluation.state ≠ machine.state ∧
          Confirmed config (history ++ [evaluation]) evaluation
      · have hsome := (step_confirmed htracks heffective hfires.1 hfires.2).1
        rw [hstep] at hsome
        exact ⟨evaluation, rfl, Option.some.inj hsome, hfires⟩
      · rw [(step_unconfirmed htracks heffective hfires).1] at hstep
        cases hstep

end Step

/-- One call preserves the reading of the counters. -/
theorem tracks_observeCall (config : Config)
    (run : StateMachine × List Evaluation) (htracks : Tracks run.1 run.2)
    (call : MachineCall) :
    Tracks (observeCall config run call).1 (observeCall config run call).2 := by
  cases call with
  | forceState state reason => exact tracks_forceState run.1 state reason
  | step observation =>
      cases heffective : run.1.effective? observation with
      | some evaluation =>
          have hcounted :=
            tracks_count (tracks_see htracks evaluation) evaluation
          simp only [observeCall, heffective, step_of_effective heffective,
            Option.toList_some]
          split
          · exact ⟨hcounted.healthy, hcounted.failures⟩
          · exact hcounted
      | none =>
          obtain ⟨last, hnone⟩ := step_of_not_effective config heffective
          simp only [observeCall, heffective, hnone, Option.toList_none,
            List.append_nil]
          exact ⟨htracks.healthy, htracks.failures⟩

theorem replay_concat (config : Config) (start : StateMachine)
    (calls : List MachineCall) (call : MachineCall) :
    replay config start (calls ++ [call]) =
      observeCall config (replay config start calls) call := by
  simp [replay]

/-- The counters are read off the history in every run. -/
theorem tracks_replay (config : Config) {start : StateMachine}
    (hstart : Tracks start []) (calls : List MachineCall) :
    Tracks (replay config start calls).1 (replay config start calls).2 := by
  induction calls using List.reverseRecOn with
  | nil => exact hstart
  | append_singleton calls call ih =>
      rw [replay_concat]
      exact tracks_observeCall config _ ih call

/-- The machine over whole runs.  A step changes state exactly when its
evaluation names another state and is confirmed by the history it ends; any
other step stays where it is, and one that does not count leaves the counters
alone.  No step leaves RECOVERING, or enters a state of the controller's. -/
theorem step_exact (config : Config) (start : State)
    (calls : List MachineCall) (observation : Observation) :
    let run := replay config (initial start) calls
    let stepped := run.1.step config observation
    (∀ evaluation, run.1.effective? observation = some evaluation →
      (stepped.1 =
            some ⟨run.1.state, evaluation.state, evaluation.reason⟩ ∧
          stepped.2.state = evaluation.state ↔
        evaluation.state ≠ run.1.state ∧
          Confirmed config (run.2 ++ [evaluation]) evaluation)) ∧
    ((∀ evaluation, run.1.effective? observation = some evaluation →
        ¬(evaluation.state ≠ run.1.state ∧
          Confirmed config (run.2 ++ [evaluation]) evaluation)) →
      stepped.1 = none ∧ stepped.2.state = run.1.state) ∧
    (run.1.effective? observation = none →
      stepped.2.candidate = run.1.candidate ∧
        stepped.2.candidateStreak = run.1.candidateStreak ∧
        stepped.2.healthyStreak = run.1.healthyStreak) ∧
    (∀ transition, stepped.1 = some transition →
      transition.previous ≠ .recovering ∧
        transition.current ∉
          [State.starting, .recovering, .manualInterventionRequired]) := by
  intro run stepped
  have htracks : Tracks run.1 run.2 :=
    tracks_replay config (tracks_initial start) calls
  refine ⟨?_, ?_, ?_, ?_⟩
  · intro evaluation heffective
    constructor
    · intro hmoved
      obtain ⟨other, hother, htransition, hfires⟩ :=
        confirmed_of_step_some htracks hmoved.1
      obtain rfl : evaluation = other :=
        Option.some.inj (heffective.symm.trans hother)
      exact hfires
    · intro hfires
      exact step_confirmed htracks heffective hfires.1 hfires.2
  · intro hstays
    cases heffective : run.1.effective? observation with
    | none =>
        obtain ⟨last, hnone⟩ := step_of_not_effective config heffective
        simp only [stepped, hnone, and_self]
    | some evaluation =>
        exact step_unconfirmed htracks heffective (hstays evaluation heffective)
  · intro heffective
    obtain ⟨last, hnone⟩ := step_of_not_effective config heffective
    simp only [stepped, hnone, and_self]
  · intro transition hmoved
    obtain ⟨evaluation, heffective, rfl, _⟩ :=
      confirmed_of_step_some htracks hmoved
    obtain ⟨hstate, rfl, _⟩ := evaluate_of_effective heffective
    exact ⟨hstate, (observable_evaluate observation).state⟩

end StateMachine

end TeslamateWatchdog
