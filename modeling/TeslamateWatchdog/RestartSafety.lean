/-
When a cycle asks for a restart, and what must have been true for it to: the
guards of the cycle, and behind them the history of the run.
-/
import TeslamateWatchdog.RunHistory

namespace TeslamateWatchdog

open Foundation

variable {config : Config} {classifier : LogClassifier}
  {answers : CycleAnswers}

/-- A cycle that asks for a restart, told from the state it starts in. -/
structure Asking (config : Config) (classifier : LogClassifier)
    (answers : CycleAnswers) (before : Digest) (trace : List Effect)
    (observation : Observation) (transition : Transition) : Prop where
  gathered : gather config classifier answers = .ok observation
  inactive : before.recovery.progress = none
  moved : (before.machine.step config observation).1 = some transition
  cleared : Cleared config answers
    ((before.observe observation).step config observation) transition
  observed : observations trace = [observation]
  stepped : (machineCalls trace).head? = some (.step observation)

/-- What a begun restart adds to the trace. -/
theorem Begun.added {before next : Digest} {transition : Transition}
    {result : Except PyError Bool}
    (hbegun : Begun config answers before transition result next) :
    restartCalls next.effects =
        restartCalls before.effects ++ [config.teslamateContainer] ∧
      (∃ calls, machineCalls next.effects =
        machineCalls before.effects ++ calls) ∧
      observations next.effects = observations before.effects ∧
      posts next.effects = posts before.effects ++
        ((restartCall config answers).posted.map fun _ =>
          (answers.post, answers.postAt)).toList := by
  cases hbegun with
  | raised hcall => simp [Digest.request]
  | refused hcall => simp [Digest.request]
  | unrecorded hcall hrecord => simp [Digest.request]
  | restarted hcall hrecord => simp [Digest.request]

/-- A course asks for no restart, or for one, with every guard passed. -/
theorem Course.asks {before next : Digest} {returned : Bool}
    (hcourse : Course config classifier answers before returned next)
    (hfresh : before.effects = []) :
    restartCalls next.effects = [] ∧ posts next.effects = [] ∨
    restartCalls next.effects = [config.teslamateContainer] ∧
      (posts next.effects).length ≤ 1 ∧
      ∃ observation transition, Asking config classifier answers before
        next.effects observation transition := by
  cases hcourse with
  | blind hgather => simp [hfresh]
  | recovering hgather hprogress =>
      left
      constructor
      · rw [restartCalls, collect_take _ (fun _ _ => rfl) (fun _ => rfl)]
        simp [hfresh]
      · rw [posts, collect_take _ (fun _ _ => rfl) (fun _ => rfl)]
        simp [hfresh]
  | watching hgather hinactive => simp [hfresh]
  | @restarting observation transition _ _ _ hgather hinactive htransition
      hcleared hbegun hreturned =>
      obtain ⟨hcalls, ⟨calls, hmachine⟩, hobserved, hposts⟩ := hbegun.added
      right
      refine ⟨by simpa [hfresh] using hcalls, ?_, observation, transition,
        hgather, hinactive, htransition, hcleared, ?_, ?_⟩
      · rw [hposts]
        cases (restartCall config answers).posted <;> simp [hfresh]
      · simpa [hfresh] using hobserved
      · rw [hmachine]
        simp [hfresh]

theorem mem_restartCalls {container : String} {effects : List Effect} :
    Effect.restartCalled container ∈ effects ↔
      container ∈ restartCalls effects := by
  constructor
  · intro hmem
    exact List.mem_filterMap.mpr ⟨_, hmem, rfl⟩
  · intro hmem
    obtain ⟨effect, heffect, hview⟩ := List.mem_filterMap.mp hmem
    cases effect <;> cases hview
    exact heffect

/-- The same for a cycle of the loop, on its own trace. -/
theorem cycle_asks (w : Watchdog) :
    restartCalls (cycleTrace config classifier w answers) = [] ∧
      posts (cycleTrace config classifier w answers) = [] ∨
    restartCalls (cycleTrace config classifier w answers) =
        [config.teslamateContainer] ∧
      (posts (cycleTrace config classifier w answers)).length ≤ 1 ∧
      ∃ observation transition, Asking config classifier answers w.fresh
        (cycleTrace config classifier w answers) observation transition := by
  have hasks := (cycle_course config classifier w answers).asks rfl
  have heffects : (cycleDigest config classifier w answers).effects =
      (cycleTrace config classifier w answers).filter Effect.decides := rfl
  rw [heffects, restartCalls_decides, posts_decides] at hasks
  rcases hasks with hnone | ⟨hcalls, hposts, observation, transition, hasking⟩
  · exact .inl hnone
  · refine .inr ⟨hcalls, hposts, observation, transition, hasking.gathered,
      hasking.inactive, hasking.moved, hasking.cleared, ?_, ?_⟩
    · rw [← observations_decides]
      exact hasking.observed
    · rw [← machineCalls_decides]
      exact hasking.stepped

theorem asking_of_restartCalled {w : Watchdog} {container : String}
    (hcalled : .restartCalled container ∈
      cycleTrace config classifier w answers) :
    ∃ observation transition, Asking config classifier answers w.fresh
      (cycleTrace config classifier w answers) observation transition := by
  rw [mem_restartCalls] at hcalled
  rcases @cycle_asks config classifier answers w with
    ⟨hnone, _⟩ | ⟨_, _, hasking⟩
  · rw [hnone] at hcalled
    cases hcalled
  · exact hasking

/-- What a restart asked for in the cycle after a run rests on: the guards of
the cycle, and the run's own history. -/
structure Justified (config : Config) (times : List ℚ)
    (run : Watchdog × List Effect) (answers : CycleAnswers)
    (trace : List Effect) (observation : Observation)
    (transition : Transition) : Prop where
  enabled : config.autoRestartEnabled = true
  inactive : run.1.recovery.active = false
  observed : observations trace = [observation]
  stepped : (machineCalls trace).head? = some (.step observation)
  moved : (run.1.machine.step config observation).1 = some transition
  restartable : transition.current ∈
    [State.loggerUnhealthy, .teslamateUnreachable, .loggedOut]
  confirmed : observation.teslamateContainerRunning = some false ∨
    LastAll (·.state == transition.current)
      (if transition.current = .loggerUnhealthy then
        config.loggerUnhealthyConfirmationCount
      else config.failureConfirmationCount)
      (StateMachine.replay config (.initial .starting)
        (machineCalls run.2 ++ [.step observation])).2
  database : LastAll (·.databaseHealthy == some true) 2
    (observations (run.2 ++ trace))
  reachable : transition.current = .loggedOut →
    config.loggedOutRestartEnabled = true ∧
      ∃ detail, tcpProbe answers.connect config.teslaAuthHost
        config.teslaAuthPort config.httpTimeoutSeconds = .ok (true, detail)
  cooled : ∀ time ∈ times ++ recordedTimes run.2,
    time + config.restartCooldownSeconds ≤ answers.evaluateAt
  under_cap : (times ++ recordedTimes run.2).countP
    (fun time => answers.evaluateAt - 86400 ≤ time) <
      config.maxRestartsPer24Hours

/-- The machine moves on the strength of its history. -/
theorem confirmed_of_moved {calls : List MachineCall}
    {observation : Observation} {transition : Transition}
    (hmoved : ((StateMachine.replay config (.initial .starting) calls).1.step
      config observation).1 = some transition)
    (hfailure : transition.current ≠ .healthy) :
    observation.teslamateContainerRunning = some false ∨
      LastAll (·.state == transition.current)
        (StateMachine.required config transition.current)
        (StateMachine.replay config (.initial .starting)
          (calls ++ [.step observation])).2 := by
  have htracks := StateMachine.tracks_replay config
    (StateMachine.tracks_initial .starting) calls
  obtain ⟨evaluation, heffective, rfl, hne, hconfirmed⟩ :=
    StateMachine.confirmed_of_step_some htracks hmoved
  rw [StateMachine.Confirmed, if_neg hfailure] at hconfirmed
  rcases hconfirmed with himmediate | hlast
  · left
    obtain ⟨_, rfl, _⟩ := StateMachine.evaluate_of_effective heffective
    exact (StateMachine.observable_evaluate observation).immediate himmediate
  · right
    rw [StateMachine.replay_concat]
    simpa only [StateMachine.observeCall, heffective, Option.toList_some]
      using hlast

/-- The probe found Tesla's auth host, where the state needs it. -/
theorem tcpProbe_of_guarded {manager : RestartManager} {state : State}
    {databaseHealthyStreak : Nat} {reachable : Option Bool} {now : ℚ}
    (hprobe : Watchdog.probeTeslaAuth config answers state = .ok reachable)
    (hguarded : manager.Guarded config state databaseHealthyStreak reachable
      now) (hneeds : state = .loggedOut) :
    config.loggedOutRestartEnabled = true ∧
      ∃ detail, tcpProbe answers.connect config.teslaAuthHost
        config.teslaAuthPort config.httpTimeoutSeconds = .ok (true, detail) := by
  have hmem : state ∈ restartNeedsTeslaAuth := by
    rw [hneeds]
    exact List.mem_singleton_self _
  obtain ⟨henabled, hreachable⟩ := hguarded.reachable hmem
  refine ⟨henabled, ?_⟩
  rw [Watchdog.probeTeslaAuth, if_pos hmem, hreachable] at hprobe
  cases hresult : tcpProbe answers.connect config.teslaAuthHost
      config.teslaAuthPort config.httpTimeoutSeconds with
  | error error =>
      rw [hresult] at hprobe
      cases hprobe
  | ok probe =>
      rw [hresult] at hprobe
      obtain ⟨found, detail⟩ := probe
      have hfound : found = true :=
        Option.some.inj (Except.ok.inj hprobe)
      exact ⟨detail, by rw [hfound]⟩

/-- End-to-end restart safety: from the state the process starts in, whatever
the world answers, a cycle sends at most one restart request, and only one that
is justified. -/
theorem restart_justified (config : Config) (classifier : LogClassifier)
    {restarts : RestartManager} {times : List ℚ}
    (hhistory : RestartManager.Chronological restarts.history times)
    (inputs : List CycleAnswers) (answers : CycleAnswers)
    (hclock : (wallClocks (inputs ++ [answers])).Pairwise (· ≤ ·)) :
    let run := (checkLoop config classifier).run (.build restarts) inputs
    let trace := cycleTrace config classifier run.1 answers
    (restartCalls trace).length ≤ 1 ∧ (posts trace).length ≤ 1 ∧
      ∀ container, .restartCalled container ∈ trace →
        ∃ observation transition, Justified config times run answers trace
          observation transition := by
  intro run trace
  have hasks := @cycle_asks config classifier answers run.1
  refine ⟨?_, ?_, ?_⟩
  · rcases hasks with ⟨hnone, _⟩ | ⟨hone, _⟩
    · simp [trace, hnone]
    · simp [trace, hone]
  · rcases hasks with ⟨_, hnone⟩ | ⟨_, hone, _⟩
    · simp [trace, hnone]
    · exact hone
  · intro container hcalled
    obtain ⟨observation, transition, hasking⟩ := asking_of_restartCalled hcalled
    obtain ⟨reachable, hprobe, hguarded⟩ := hasking.cleared
    have htraced := run_traced config classifier restarts inputs
    have hmachine : (StateMachine.replay config (.initial .starting)
        (machineCalls run.2)).1 = run.1.machine := by
      rw [← machineCalls_decides]
      exact htraced.machine
    have hstreak : run.1.databaseHealthyStreak =
        streak (·.databaseHealthy == some true) (observations run.2) := by
      rw [← observations_decides]
      exact htraced.streak
    have hrestartable : transition.current ∈ restartAllowedStates := by
      simpa [restartAllowedForState] using hguarded.restartable
    have hclocks := List.pairwise_append.mp (wallClocks_concat inputs answers ▸
      hclock)
    have hadmits := RestartManager.admits_of_guarded
      (run_remembers hhistory inputs hclocks.1 fun reading hreading =>
        hclocks.2.2 reading hreading answers.evaluateAt
          (by simp [CycleAnswers.wallClock])) le_rfl hguarded
    refine ⟨observation, transition, ?_⟩
    exact {
      enabled := hguarded.enabled
      inactive := RecoveryController.active_of_none hasking.inactive
      observed := hasking.observed
      stepped := hasking.stepped
      moved := hasking.moved
      restartable := hrestartable
      confirmed := by
        have hmoved : (run.1.machine.step config observation).1 =
            some transition := hasking.moved
        rw [← hmachine] at hmoved
        refine confirmed_of_moved hmoved ?_
        intro hhealthy
        rw [hhealthy] at hrestartable
        exact absurd hrestartable (by decide)
      database := by
        have hseen : observations trace = [observation] := hasking.observed
        simp only [← le_streak_iff, collect_append, hseen, streak_concat,
          ← hstreak]
        have hguard : 2 ≤ (run.1.fresh.observe observation).databaseHealthyStreak :=
          hguarded.database
        simp only [beq_iff_eq]
        exact hguard
      reachable := tcpProbe_of_guarded hprobe hguarded
      cooled := hadmits.gap_passed
      under_cap := hadmits.under_cap }

/-- A container seen stopped after one good check is restarted in that cycle. -/
theorem restart_justified_stopped :
    restartCalls (cycleTrace .fromEmptyEnv .withoutPatterns
        ((checkLoop .fromEmptyEnv .withoutPatterns).run
          (.build ⟨[], .missing⟩) [.calm 0]).1 (.stopped 60)) =
      ["teslamate"] ∧
    ∃ observation transition, Justified .fromEmptyEnv []
      ((checkLoop .fromEmptyEnv .withoutPatterns).run
        (.build ⟨[], .missing⟩) [.calm 0]) (.stopped 60)
      (cycleTrace .fromEmptyEnv .withoutPatterns
        ((checkLoop .fromEmptyEnv .withoutPatterns).run
          (.build ⟨[], .missing⟩) [.calm 0]).1 (.stopped 60))
      observation transition := by
  have hcalls : restartCalls (cycleTrace .fromEmptyEnv .withoutPatterns
      ((checkLoop .fromEmptyEnv .withoutPatterns).run
        (.build ⟨[], .missing⟩) [.calm 0]).1 (.stopped 60)) =
      ["teslamate"] := by decide +kernel
  have hsafe := @restart_justified .fromEmptyEnv .withoutPatterns
    ⟨[], .missing⟩ [] ⟨rfl, List.Pairwise.nil⟩ [.calm 0] (.stopped 60)
    (by decide +kernel)
  refine ⟨hcalls, hsafe.2.2 "teslamate" ?_⟩
  rw [mem_restartCalls, hcalls]
  exact List.mem_singleton_self _

end TeslamateWatchdog
