/-
The schedule of the check loop: when its cycles are started, and when it stops.
-/
import TeslamateWatchdog.CheckLoop
import TeslamateWatchdog.Foundation.PeriodicLoop

namespace TeslamateWatchdog

open Foundation

/-- `Watchdog.run`: a cycle, whatever it raises, and then the rest of the
interval.  `request_stop` sets the event that ends the wait. -/
def runLoop (config : Config) (classifier : LogClassifier)
    (checkIntervalSeconds : ℕ) :
    Mealy (PeriodicLoop ℚ Watchdog CycleAnswers) (LoopEvent ℚ CycleAnswers) ℚ :=
  PeriodicLoop.machine (checkIntervalSeconds : ℚ) fun w answers =>
    (cycle config classifier w answers).2

section Schedule

variable {config : Config} {classifier : LogClassifier}
  {checkIntervalSeconds : ℕ} {restarts : RestartManager} {clock : ℚ}

/-- The watchdog goes through the cycles as the check loop does. -/
theorem state_runLoop (events : List (LoopEvent ℚ CycleAnswers)) :
    ((runLoop config classifier checkIntervalSeconds).run
      (.initial clock (.build restarts)) events).1.state =
    ((checkLoop config classifier).run (.build restarts)
      (((runLoop config classifier checkIntervalSeconds).run
        (.initial clock (.build restarts)) events).1.rounds.map
          Prod.snd)).1 := by
  have hfold : ∀ inputs : List CycleAnswers,
      ((checkLoop config classifier).run (.build restarts) inputs).1 =
        inputs.foldl (fun w answers => (cycle config classifier w answers).2)
          (.build restarts) := by
    intro inputs
    induction inputs using List.reverseRecOn with
    | nil => rfl
    | append_singleton inputs answers ih =>
        rw [Mealy.run_concat, List.foldl_append, ← ih]
        rfl
  rw [hfold]
  exact PeriodicLoop.state_run events

end Schedule

/-- Whatever the cycles do and however long they take, they are started at
least an interval apart, and the watchdog is that of the check loop on them.
Once it was asked to stop, no cycle is started but one that the loop was about
to enter, and the loop ends with the cycle under way. -/
theorem run_schedule (config : Config) (classifier : LogClassifier)
    (checkIntervalSeconds : ℕ) (restarts : RestartManager) (clock : ℚ)
    (front back : List (LoopEvent ℚ CycleAnswers)) :
    let loop := runLoop config classifier checkIntervalSeconds
    let before := loop.run (.initial clock (.build restarts)) front
    let run := loop.run (.initial clock (.build restarts))
      (front ++ .stop :: back)
    Spaced (checkIntervalSeconds : ℚ) before.2 ∧
      before.1.state = ((checkLoop config classifier).run (.build restarts)
        (before.1.rounds.map Prod.snd)).1 ∧
      run.2.length ≤ before.2.length + 1 ∧
      (before.1.phase ≠ .entering → run.2 = before.2) ∧
      ∀ answers, (loop.run run.1
        [.enter, .finish answers, .wake, .test]).1.phase = .ended := by
  intro loop before run
  let stopped := (loop.step before.1 .stop).1
  have hstopped : stopped.stopped = true := rfl
  have hsplit : run.2 = before.2 ++ (loop.run stopped back).2 := by
    rw [Mealy.run_append_output, Mealy.run_cons]
    rfl
  refine ⟨?_, state_runLoop front, ?_, fun hphase => ?_, fun answers => ?_⟩
  · have hbegun : before.2 = before.1.begun := PeriodicLoop.begun_run front
    rw [hbegun]
    exact (PeriodicLoop.timely_run front).spaced_begun
  · have hone : (loop.run stopped back).2.length ≤ 1 :=
      PeriodicLoop.length_run_of_stopped hstopped back
    rw [hsplit, List.length_append]
    exact Nat.add_le_add_left hone _
  · have hclosing : stopped.Closing := ⟨rfl, hphase⟩
    rw [hsplit]
    exact (congrArg _ (hclosing.run back).2).trans (List.append_nil _)
  · apply PeriodicLoop.ended_of_stopped
    have hlast : run.1 = (loop.run stopped back).1 := by
      rw [Mealy.run_append, Mealy.run_cons]
    rw [hlast]
    exact PeriodicLoop.stopped_run hstopped back

/-- Three cycles of ten seconds, a minute apart, and a request during the
third. -/
theorem run_schedule_stopped :
    let loop := runLoop .fromEmptyEnv .withoutPatterns 60
    let front : List (LoopEvent ℚ CycleAnswers) :=
      [.test, .enter, .elapse 10, .finish (.calm 0), .wake, .elapse 50, .wake,
        .test, .enter, .elapse 10, .finish (.calm 60), .elapse 50, .wake,
        .test, .enter, .elapse 5]
    let before := loop.run (.initial 0 (.build ⟨[], .missing⟩)) front
    let run := loop.run (.initial 0 (.build ⟨[], .missing⟩))
      (front ++ .stop :: [.elapse 5, .finish (.calm 120), .wake, .test, .enter])
    before.2 = [0, 60, 120] ∧ run.2 = before.2 := by
  intro loop front before run
  have hworking : before.1.phase ≠ .entering := by decide +kernel
  exact ⟨by decide +kernel, (run_schedule .fromEmptyEnv .withoutPatterns 60
    ⟨[], .missing⟩ 0 front _).2.2.2.1 hworking⟩

end TeslamateWatchdog
