/-
Whether a bundle tells the truth about the restart.  Its `restart_attempted` is
read off the state alone, the restart is decided by the guards; the two agree
in a cycle exactly when the state and the guards do.
-/
import TeslamateWatchdog.CycleReports
import TeslamateWatchdog.RestartSafety

namespace TeslamateWatchdog

open Foundation

variable {config : Config} {classifier : LogClassifier} {w : Watchdog}
  {answers : CycleAnswers}

/-- Every bundle of the cycle says that a restart was attempted exactly when
the cycle asks for one. -/
def TellsTruth (config : Config) (classifier : LogClassifier) (w : Watchdog)
    (answers : CycleAnswers) : Prop :=
  ∀ request ∈ captures (cycleTrace config classifier w answers),
    request.restartAttempted = true ↔
      restartCalls (cycleTrace config classifier w answers) ≠ []

instance : Decidable (TellsTruth config classifier w answers) :=
  inferInstanceAs (Decidable (∀ request ∈ captures _, _ ↔ _))

/-- The cycle moves the machine, with no recovery in progress. -/
structure Moving (config : Config) (classifier : LogClassifier) (w : Watchdog)
    (answers : CycleAnswers) (observation : Observation)
    (transition : Transition) : Prop where
  gathered : gather config classifier answers = .ok observation
  inactive : w.recovery.progress = none
  moved : (w.machine.step config observation).1 = some transition

/-- The cycle enters LOGGER_UNHEALTHY or TESLAMATE_UNREACHABLE. -/
def EntersAttempted (config : Config) (classifier : LogClassifier)
    (w : Watchdog) (answers : CycleAnswers) : Prop :=
  ∃ observation transition,
    Moving config classifier w answers observation transition ∧
    transition.current ∈ [State.loggerUnhealthy, .teslamateUnreachable]

/-- The cycle moves the machine, every guard lets a restart through, and the
capture before it does not raise. -/
def RestartGoesAhead (config : Config) (classifier : LogClassifier)
    (w : Watchdog) (answers : CycleAnswers) : Prop :=
  ∃ observation transition dockerState,
    Moving config classifier w answers observation transition ∧
    gatherDockerState config classifier answers = .ok dockerState ∧
    Cleared config answers
      ((w.fresh.observe observation).step config observation) transition ∧
    (captureReply config answers w.restarts (some dockerState) transition
      observation).isOk = true

theorem Moving.unique {observation other : Observation}
    {transition next : Transition}
    (hmoving : Moving config classifier w answers observation transition)
    (hother : Moving config classifier w answers other next) :
    observation = other ∧ transition = next := by
  obtain rfl := Except.ok.inj (hmoving.gathered.symm.trans hother.gathered)
  exact ⟨rfl, Option.some.inj (hmoving.moved.symm.trans hother.moved)⟩

/-- After a transition, `begin` is reached exactly when the guards and the
capture let the restart through. -/
theorem Considered.restartCalls_iff {before after : Digest}
    {dockerState : Option DockerState} {transition : Transition}
    {observation : Observation} {reply : Except PyError Bool}
    (hconsidered : Considered config answers before dockerState transition
      observation reply after)
    (hnone : restartCalls before.effects = []) :
    restartCalls after.effects ≠ [] ↔
      Cleared config answers before transition ∧
        (captureReply config answers before.restarts dockerState transition
          observation).isOk = true := by
  cases hconsidered with
  | raised hstops => exact iff_of_false (not_not_intro hnone) hstops
  | withheld hwithheld hcaptured =>
      exact iff_of_false (not_not_intro hnone) fun hboth => hwithheld hboth.1
  | begun hcleared hcaptured hbegun =>
      refine iff_of_true ?_ ⟨hcleared, hcaptured⟩
      rw [hbegun.added.1, hnone]
      exact List.cons_ne_nil _ _

/-- A cycle asks for a restart exactly when one goes ahead in it. -/
theorem restartCalls_iff_goesAhead :
    restartCalls (cycleTrace config classifier w answers) ≠ [] ↔
      RestartGoesAhead config classifier w answers := by
  have hstory := cycle_story config classifier answers w
  have heffects : (cycle config classifier w answers).2.digest.effects =
      (cycleTrace config classifier w answers).filter Effect.decides := rfl
  rw [← restartCalls_decides, ← heffects]
  generalize (cycle config classifier w answers).2.digest = after at hstory
  generalize (cycle config classifier w answers).2.publicity = told at hstory
  cases hstory with
  | blind hgather =>
      refine iff_of_false (not_not_intro rfl) ?_
      rintro ⟨_, _, _, hmoving, _⟩
      have hgathered := hmoving.gathered
      rw [hgather] at hgathered
      cases hgathered
  | recovering hgather hprogress =>
      refine iff_of_false (not_not_intro ?_) ?_
      · rw [restartCalls, collect_take _ (fun _ _ => rfl) (fun _ => rfl)]
        rfl
      · rintro ⟨_, _, _, hmoving, _⟩
        have hinactive := hmoving.inactive
        rw [hprogress] at hinactive
        cases hinactive
  | calm hgather hinactive hcalm =>
      refine iff_of_false (not_not_intro rfl) ?_
      rintro ⟨_, transition, _, hmoving, _, hcleared, _⟩
      obtain rfl := Except.ok.inj (hgather.symm.trans hmoving.gathered)
      exact hcalm transition hmoving.moved hcleared.failure
  | failing hgather hinactive htransition hfailure hdocker hconsidered =>
      rw [hconsidered.restartCalls_iff rfl]
      constructor
      · rintro ⟨hcleared, hcaptured⟩
        exact ⟨_, _, _, ⟨hgather, hinactive, htransition⟩, hdocker, hcleared,
          hcaptured⟩
      · rintro ⟨_, _, _, hmoving, hdockerState, hcleared, hcaptured⟩
        obtain ⟨rfl, rfl⟩ := Moving.unique ⟨hgather, hinactive, htransition⟩
          hmoving
        obtain rfl := Except.ok.inj (hdocker.symm.trans hdockerState)
        exact ⟨hcleared, hcaptured⟩

/-- A bundle says that a restart was attempted exactly when its cycle enters
one of the two states. -/
theorem restartAttempted_iff {request : CaptureRequest}
    (hcaptured : request ∈
      captures (cycleTrace config classifier w answers)) :
    request.restartAttempted = true ↔
      EntersAttempted config classifier w answers := by
  obtain ⟨_, _, _, _, hgather, hinactive, htransition, _, _, rfl⟩ :=
    request_of_captures config classifier answers hcaptured
  refine decide_eq_true_iff.trans ⟨fun hentered => ?_, ?_⟩
  · exact ⟨_, _, ⟨hgather, hinactive, htransition⟩, hentered⟩
  · rintro ⟨_, _, hmoving, hentered⟩
    obtain ⟨rfl, rfl⟩ := Moving.unique ⟨hgather, hinactive, htransition⟩
      hmoving
    exact hentered

/-- The bundles of a cycle tell the truth exactly when the state it enters and
the restart it makes agree. -/
theorem tellsTruth_iff :
    TellsTruth config classifier w answers ↔
      (captures (cycleTrace config classifier w answers) ≠ [] →
        (EntersAttempted config classifier w answers ↔
          RestartGoesAhead config classifier w answers)) := by
  constructor
  · intro htruth hcaptures
    obtain ⟨request, hrequest⟩ := List.exists_mem_of_ne_nil _ hcaptures
    rw [← restartAttempted_iff hrequest, ← restartCalls_iff_goesAhead]
    exact htruth request hrequest
  · intro hagree request hrequest
    rw [restartAttempted_iff hrequest, restartCalls_iff_goesAhead]
    exact hagree (List.ne_nil_of_mem hrequest)

/-- In a run every bundle tells the truth about the restart exactly when every
cycle that captures one enters LOGGER_UNHEALTHY or TESLAMATE_UNREACHABLE just in
case its restart goes ahead. -/
theorem bundles_tell_truth_iff (config : Config) (classifier : LogClassifier)
    (start : Watchdog) (inputs : List CycleAnswers) :
    (checkLoop config classifier).Along (TellsTruth config classifier)
        start inputs ↔
      (checkLoop config classifier).Along (fun w answers =>
        captures (cycleTrace config classifier w answers) ≠ [] →
          (EntersAttempted config classifier w answers ↔
            RestartGoesAhead config classifier w answers)) start inputs :=
  Mealy.along_congr fun _ _ => tellsTruth_iff

/-- The third check enters LOGGED_OUT and restarts TeslaMate; its bundle denies
it. -/
theorem bundle_denies_restart :
    ¬ (checkLoop .fromEmptyEnv .withoutPatterns).Along
      (TellsTruth .fromEmptyEnv .withoutPatterns) (.build ⟨[], .missing⟩)
      [.signedOut 60 true, .signedOut 120 true, .signedOut 180 true] := by
  decide +kernel

end TeslamateWatchdog
