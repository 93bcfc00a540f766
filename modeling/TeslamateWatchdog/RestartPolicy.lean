/-
What the restart policy promises beyond the guards, and where the cycle falls
short of it: a restart that was withheld is never made up for, and a confirmed
token-decryption failure does not keep a restart from being asked for.
-/
import TeslamateWatchdog.RestartSafety

namespace TeslamateWatchdog

open Foundation

variable {config : Config} {classifier : LogClassifier}
  {answers : CycleAnswers}

/-- No recovery is under way, the machine already is in the restartable state
that this cycle evaluates to once more, and every guard would let the restart
through now. -/
structure Owed (config : Config) (classifier : LogClassifier) (w : Watchdog)
    (answers : CycleAnswers) (state : State) : Prop where
  inactive : w.recovery.active = false
  state_eq : w.machine.state = state
  restartable : restartAllowedForState state = true
  evaluated : ∃ observation, gather config classifier answers =
    .ok observation ∧ (evaluate observation).state = state ∧
      ∃ reachable,
        Watchdog.probeTeslaAuth config answers state = .ok reachable ∧
        w.restarts.Allows config state
          (w.fresh.observe observation).databaseHealthyStreak reachable
          answers.evaluateAt

/-- Three cycles that show the sign-in page while Tesla's auth host is
unreachable.  The third confirms the logout, and its restart is refused. -/
def outage : List CycleAnswers :=
  [.signedOut 0 false, .signedOut 60 false, .signedOut 120 false]

theorem owed_after_outage : Owed .fromEmptyEnv .withoutPatterns
    ((checkLoop .fromEmptyEnv .withoutPatterns).run
      (.build ⟨[], .missing⟩) outage).1 (.signedOut 180 true) .loggedOut := by
  refine ⟨by decide +kernel, by decide +kernel, by decide, ?_⟩
  refine ⟨_, rfl, by decide +kernel, some true, by decide +kernel, ?_⟩
  rw [RestartManager.allows_iff_guarded]
  exact ⟨by decide +kernel, by decide +kernel, by decide +kernel,
    by decide +kernel, by decide +kernel, by decide +kernel⟩

/-- An owed restart is not issued: the machine is in the failure state already,
so no transition comes of the cycle, and only transitions are acted on. -/
theorem owed_restart_not_issued (config : Config) (classifier : LogClassifier)
    (restarts : RestartManager) (inputs : List CycleAnswers)
    (answers : CycleAnswers) (state : State)
    (howed : Owed config classifier
      ((checkLoop config classifier).run (.build restarts) inputs).1 answers
      state) :
    ¬∃ container, .restartCalled container ∈ cycleTrace config classifier
      ((checkLoop config classifier).run (.build restarts) inputs).1
      answers := by
  rintro ⟨container, hcalled⟩
  obtain ⟨observation, transition, hasking⟩ := asking_of_restartCalled hcalled
  obtain ⟨seen, hgather, hstate, _⟩ := howed.evaluated
  obtain rfl : observation = seen :=
    Except.ok.inj (hasking.gathered.symm.trans hgather)
  obtain ⟨hcurrent, hne⟩ := StateMachine.evaluate_of_step_some hasking.moved
  exact hne (hcurrent.trans (hstate.trans howed.state_eq.symm))

theorem owed_restart_not_issued_outage :
    ¬∃ container, .restartCalled container ∈
      cycleTrace .fromEmptyEnv .withoutPatterns
        ((checkLoop .fromEmptyEnv .withoutPatterns).run
          (.build ⟨[], .missing⟩) outage).1 (.signedOut 180 true) :=
  owed_restart_not_issued .fromEmptyEnv .withoutPatterns ⟨[], .missing⟩
    outage (.signedOut 180 true) .loggedOut owed_after_outage

/-- The first cycle after the outage passes every guard and restarts nothing. -/
theorem withheld_restart_lost :
    ¬∀ (config : Config) (classifier : LogClassifier)
      (restarts : RestartManager) (inputs : List CycleAnswers)
      (answers : CycleAnswers) (state : State),
      Owed config classifier
        ((checkLoop config classifier).run (.build restarts) inputs).1 answers
        state →
      ∃ container, .restartCalled container ∈ cycleTrace config classifier
        ((checkLoop config classifier).run (.build restarts) inputs).1
        answers := by
  intro hissued
  obtain ⟨container, hcalled⟩ := hissued _ _ _ _ _ _ owed_after_outage
  have hnone : restartCalls (cycleTrace .fromEmptyEnv .withoutPatterns
      ((checkLoop .fromEmptyEnv .withoutPatterns).run
        (.build ⟨[], .missing⟩) outage).1 (.signedOut 180 true)) = [] := by
    decide +kernel
  rw [mem_restartCalls, hnone] at hcalled
  cases hcalled

/-- The classified log of this cycle confirms the token_decryption category. -/
def ConfirmsTokenDecryption (config : Config) (classifier : LogClassifier)
    (answers : CycleAnswers) : Prop :=
  classifier.isEmpty = false ∧
    ∃ text, answers.logs config.teslamateContainer
        config.logAnalysisLookbackSeconds = .ok text ∧ text ≠ "" ∧
      classifier.confirmed (classifier.classify text) "token_decryption" = true

/-- The evidence of this cycle that is ranked above the log, and speaks for a
restart: the container is stopped, or the page is a sign-in page, a server
error or not to be reached, with the database not reported unhealthy. -/
def Outranks (config : Config) (answers : CycleAnswers) : Prop :=
  (∀ database, checkDatabase config answers.status answers.connect =
    .ok database → database.healthy ≠ some false) ∧
  ((∃ status, answers.status config.teslamateContainer = .ok status ∧
      status.found = true ∧ status.running = some false) ∨
    ∃ http, answers.check = .ok http ∧ http.category ∈
      [HttpCategory.loggedOut, .unreachable, .applicationError])

/-- The log line of a changed encryption key. -/
def decryptionLog : String :=
  "2027-01-15T08:00:00Z 08:00:00.000 [error] Could not decrypt API tokens!"

theorem confirms_decryptionLog {answers : CycleAnswers}
    (hlogs : answers.logs "teslamate" 900 = .ok decryptionLog) :
    ConfirmsTokenDecryption .fromEmptyEnv .phrases answers :=
  ⟨by decide, decryptionLog, hlogs, by decide +kernel, by decide +kernel⟩

/-- With a decryption failure in the log, exactly the evidence ranked above it
leads to a restartable state. -/
theorem restartable_iff_of_tokenDecryption {observation : Observation}
    (htoken : observation.tokenDecryptionFailure = true) :
    restartAllowedForState (evaluate observation).state = true ↔
      observation.databaseHealthy ≠ some false ∧
        (observation.teslamateContainerRunning = some false ∨
          observation.http.category ∈
            [HttpCategory.loggedOut, .unreachable, .applicationError]) := by
  unfold evaluate
  by_cases hdatabase : observation.databaseHealthy = some false
  · simp [hdatabase, restartAllowedForState, restartAllowedStates]
  · by_cases hrunning : observation.teslamateContainerRunning = some false
    · simp [hdatabase, hrunning, restartAllowedForState, restartAllowedStates]
    · rw [if_neg hdatabase, if_neg hrunning]
      cases hcategory : observation.http.category <;>
        simp [hdatabase, hrunning, htoken, restartAllowedForState,
          restartAllowedStates]

/-- The observation carries the failure its log confirms. -/
theorem tokenDecryption_of_confirms {observation : Observation}
    (hgather : gather config classifier answers = .ok observation)
    (hconfirms : ConfirmsTokenDecryption config classifier answers) :
    observation.tokenDecryptionFailure = true := by
  obtain ⟨hpatterns, text, hlogs, htext, hconfirmed⟩ := hconfirms
  have hsignals := (gatheredFrom config classifier answers hgather).signals
  rw [gatherSignals, hpatterns, if_neg Bool.false_ne_true, hlogs] at hsignals
  have hsome : observation.logSignals =
      some (classifier.signals (classifier.classify text)) := by
    have hvalue := Except.ok.inj hsignals
    rw [if_neg htext] at hvalue
    exact hvalue.symm
  rw [Observation.tokenDecryptionFailure, hsome]
  exact hconfirmed

/-- Restarts asked for over a confirmed decryption failure rest on evidence
ranked above it. -/
theorem outranks_of_asking {w : Watchdog} {observation : Observation}
    {transition : Transition} {trace : List Effect}
    (hasking : Asking config classifier answers w.fresh trace observation
      transition)
    (hconfirms : ConfirmsTokenDecryption config classifier answers) :
    Outranks config answers := by
  have htoken := tokenDecryption_of_confirms hasking.gathered hconfirms
  have hfrom := gatheredFrom config classifier answers hasking.gathered
  obtain ⟨reachable, _, hguarded⟩ := hasking.cleared
  have hstate := (StateMachine.evaluate_of_step_some hasking.moved).1
  obtain ⟨hdatabase, hevidence⟩ :=
    (restartable_iff_of_tokenDecryption htoken).mp
      (hstate ▸ hguarded.restartable)
  constructor
  · intro database hcheck
    obtain ⟨other, hother, hhealthy⟩ := hfrom.database
    obtain rfl : database = other := Except.ok.inj (hcheck.symm.trans hother)
    rwa [← hhealthy]
  · rcases hevidence with hstopped | hpage
    · left
      obtain ⟨status, hstatus, hrunning⟩ := hfrom.container
      rw [hstopped] at hrunning
      by_cases hfound : status.found = true
      · rw [if_pos hfound] at hrunning
        exact ⟨status, hstatus, hfound, hrunning.symm⟩
      · rw [if_neg hfound] at hrunning
        cases hrunning
    · exact .inr ⟨observation.http, hfrom.http, hpage⟩

/-- While no cycle that confirms a decryption failure also sees evidence ranked
above it, no such cycle of the run asks for a restart. -/
theorem tokenDecryption_not_restarted (config : Config)
    (classifier : LogClassifier) (restarts : RestartManager)
    (inputs : List CycleAnswers)
    (hranked : ∀ answers ∈ inputs,
      ConfirmsTokenDecryption config classifier answers →
        ¬Outranks config answers)
    (front : List CycleAnswers) (answers : CycleAnswers)
    (hfront : front ++ [answers] <+: inputs)
    (hconfirms : ConfirmsTokenDecryption config classifier answers) :
    ¬∃ container, .restartCalled container ∈ cycleTrace config classifier
      ((checkLoop config classifier).run (.build restarts) front).1
      answers := by
  rintro ⟨container, hcalled⟩
  obtain ⟨observation, transition, hasking⟩ := asking_of_restartCalled hcalled
  exact hranked answers (hfront.subset (by simp)) hconfirms
    (outranks_of_asking hasking hconfirms)

/-- With the page served and the container up, the failure is alerted only. -/
theorem tokenDecryption_not_restarted_page :
    ¬∃ container, .restartCalled container ∈ cycleTrace .fromEmptyEnv .phrases
      ((checkLoop .fromEmptyEnv .phrases).run (.build ⟨[], .missing⟩) []).1
      { CycleAnswers.calm 0 with logs := fun _ _ => .ok decryptionLog } := by
  refine tokenDecryption_not_restarted .fromEmptyEnv .phrases ⟨[], .missing⟩
    [{ CycleAnswers.calm 0 with logs := fun _ _ => .ok decryptionLog }]
    ?_ [] _ List.prefix_rfl (confirms_decryptionLog rfl)
  rintro answers hanswers _ ⟨_, ⟨status, hstatus, _, hstopped⟩ | hpage⟩
  · rw [List.mem_singleton.mp hanswers] at hstatus
    obtain rfl := Except.ok.inj hstatus
    cases hstopped
  · obtain ⟨http, hhttp, hcategory⟩ := hpage
    rw [List.mem_singleton.mp hanswers] at hhttp
    obtain rfl := Except.ok.inj hhttp
    exact absurd hcategory (by decide)

/-- A container that stopped over its encryption key is restarted. -/
theorem tokenDecryption_restarted_stopped :
    ¬∀ (config : Config) (classifier : LogClassifier)
      (restarts : RestartManager) (inputs : List CycleAnswers)
      (answers : CycleAnswers),
      ConfirmsTokenDecryption config classifier answers →
      ¬∃ container, .restartCalled container ∈ cycleTrace config classifier
        ((checkLoop config classifier).run (.build restarts) inputs).1
        answers := by
  intro hnever
  have hcalls : restartCalls (cycleTrace .fromEmptyEnv .phrases
      ((checkLoop .fromEmptyEnv .phrases).run (.build ⟨[], .missing⟩)
        [.calm 0]).1
      { CycleAnswers.stopped 60 with logs := fun _ _ => .ok decryptionLog }) =
      ["teslamate"] := by decide +kernel
  refine hnever .fromEmptyEnv .phrases ⟨[], .missing⟩ [.calm 0]
    { CycleAnswers.stopped 60 with logs := fun _ _ => .ok decryptionLog }
    (confirms_decryptionLog rfl) ⟨"teslamate", ?_⟩
  rw [mem_restartCalls, hcalls]
  exact List.mem_singleton_self _

end TeslamateWatchdog
