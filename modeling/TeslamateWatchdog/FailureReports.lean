/-
Two promises about the failure events, and where the code breaks them: the
request to sign in excludes a restart unless a restart out of LOGGED_OUT is
reported as failed, and every failure state entered is reported unless the
recovery itself forces MANUAL_INTERVENTION_REQUIRED.
-/
import TeslamateWatchdog.CycleReports
import TeslamateWatchdog.RecoveryProtocol

namespace TeslamateWatchdog

open Foundation

/-- The machine enters `state`, every guard lets a restart through, and the
restart is reported as failed. -/
def RestartFails (config : Config) (classifier : LogClassifier) (state : State)
    (w : Watchdog) (answers : CycleAnswers) : Prop :=
  ∃ observation transition dockerState detail,
    gather config classifier answers = .ok observation ∧
    w.recovery.progress = none ∧
    (w.machine.step config observation).1 = some transition ∧
    transition.current = state ∧
    gatherDockerState config classifier answers = .ok dockerState ∧
    Cleared config answers
      ((w.fresh.observe observation).step config observation) transition ∧
    (captureReply config answers w.restarts (some dockerState) transition
      observation).isOk = true ∧
    (restartCall config answers).result = .ok (false, detail)

/-- The check completes the count that gives up the recovery in progress. -/
def RecoveryFails (config : Config) (classifier : LogClassifier) (w : Watchdog)
    (answers : CycleAnswers) : Prop :=
  ∃ observation progress,
    gather config classifier answers = .ok observation ∧
    w.recovery.progress = some progress ∧
    progress.deadline ≤ answers.monotonic ∧
    (evaluate observation).inconclusive = false ∧
    (evaluate observation).state ≠ .healthy ∧
    config.failureConfirmationCount ≤ progress.failureStreak + 1

variable {config : Config} {classifier : LogClassifier} {w : Watchdog}
  {answers : CycleAnswers}

theorem cycle_effects (config : Config) (classifier : LogClassifier)
    (w : Watchdog) (answers : CycleAnswers) :
    (cycle config classifier w answers).2.digest.effects =
      (cycleTrace config classifier w answers).filter Effect.decides := rfl

theorem not_restartFails_of_blind {error : PyError}
    (hgather : gather config classifier answers = .error error)
    (state : State) : ¬ RestartFails config classifier state w answers := by
  rintro ⟨_, _, _, _, hgathered, _⟩
  rw [hgather] at hgathered
  cases hgathered

theorem not_restartFails_of_recovering {progress : Progress}
    (hprogress : w.recovery.progress = some progress) (state : State) :
    ¬ RestartFails config classifier state w answers := by
  rintro ⟨_, _, _, _, _, hinactive, _⟩
  rw [hprogress] at hinactive
  cases hinactive

theorem not_restartFails_of_calm {observation : Observation}
    (hgather : gather config classifier answers = .ok observation)
    (hcalm : ∀ transition,
      (w.machine.step config observation).1 = some transition →
      transition.current ∉ failureStates) (state : State) :
    ¬ RestartFails config classifier state w answers := by
  rintro ⟨_, transition, _, _, hgathered, _, hmoved, _, _, hcleared, _⟩
  obtain rfl := Except.ok.inj (hgather.symm.trans hgathered)
  exact hcalm transition hmoved hcleared.failure

/-- After a transition, a restart fails exactly when it was cleared and the
reply is nonetheless that none is in progress. -/
theorem restartFails_iff {state : State} {observation : Observation}
    {transition : Transition} {dockerState : DockerState}
    {reply : Except PyError Bool} {after : Digest}
    (hgather : gather config classifier answers = .ok observation)
    (hinactive : w.recovery.progress = none)
    (htransition : (w.machine.step config observation).1 = some transition)
    (hdocker : gatherDockerState config classifier answers = .ok dockerState)
    (hconsidered : Considered config answers
      ((w.fresh.observe observation).step config observation)
      (some dockerState) transition observation reply after) :
    RestartFails config classifier state w answers ↔
      transition.current = state ∧ reply = .ok false ∧
        Cleared config answers
          ((w.fresh.observe observation).step config observation)
          transition := by
  constructor
  · rintro ⟨_, _, _, _, hgathered, _, hmoved, hstate, hdockerState, hcleared,
      hcaptured, hcall⟩
    obtain rfl := Except.ok.inj (hgather.symm.trans hgathered)
    obtain rfl := Option.some.inj (htransition.symm.trans hmoved)
    obtain rfl := Except.ok.inj (hdocker.symm.trans hdockerState)
    refine ⟨hstate, ?_, hcleared⟩
    cases hconsidered with
    | raised hstops => exact absurd ⟨hcleared, hcaptured⟩ hstops
    | withheld hwithheld => rfl
    | begun _ _ hbegun =>
        cases hbegun with
        | refused hother => rfl
        | raised hother =>
            rw [hcall] at hother
            cases hother
        | unrecorded hother =>
            rw [hcall] at hother
            cases hother
        | restarted hother =>
            rw [hcall] at hother
            cases hother
  · rintro ⟨hstate, rfl, hcleared⟩
    cases hconsidered with
    | withheld hwithheld => exact absurd hcleared hwithheld
    | begun _ hcaptured hbegun =>
        cases hbegun with
        | refused hcall =>
            exact ⟨_, _, _, _, hgather, hinactive, htransition, hstate,
              hdocker, hcleared, hcaptured, hcall⟩

def Announcement.asksToSignIn : Announcement → Bool
  | .failureDetected _ => false
  | .authenticationRequired _ => true

/-- A cycle that asks the user to sign in asks for no restart, and publishes no
event of one. -/
def Exclusive (effects : List Effect) : Prop :=
  (announcements effects).any Announcement.asksToSignIn = true →
    restartCalls effects = [] ∧ posts effects = [] ∧
      recoveryEvents effects = []

instance (effects : List Effect) : Decidable (Exclusive effects) :=
  inferInstanceAs (Decidable (_ → _))

/-- The states a user can sign in from, and a restart be attempted from. -/
theorem eq_loggedOut {state : State} (hauth : state ∈ authStates)
    (hrestartable : restartAllowedForState state = true) :
    state = .loggedOut := by
  revert hauth hrestartable
  cases state <;> decide

theorem followUp_asksToSignIn (state : State) (reply : Except PyError Bool) :
    (followUp state reply).any Announcement.asksToSignIn = true ↔
      reply = .ok false ∧ state ∈ authStates := by
  cases reply with
  | error error => simp [followUp]
  | ok restarting =>
      cases restarting with
      | true => simp [followUp]
      | false =>
          by_cases hauth : state ∈ authStates
          · simp [followUp, hauth, Announcement.asksToSignIn]
          · simp [followUp, hauth]

/-- One cycle keeps the promise exactly when no restart out of LOGGED_OUT
fails in it. -/
theorem exclusive_iff (config : Config) (classifier : LogClassifier)
    (w : Watchdog) (answers : CycleAnswers) :
    Exclusive (cycleTrace config classifier w answers) ↔
      ¬ RestartFails config classifier .loggedOut w answers := by
  have hstory := cycle_story config classifier answers w
  have heffects := cycle_effects config classifier w answers
  have hannounced :
      (cycle config classifier w answers).2.publicity.announced =
        announcements (cycleTrace config classifier w answers) := rfl
  rw [Exclusive, ← restartCalls_decides, ← posts_decides,
    ← recoveryEvents_decides, ← heffects, ← hannounced]
  generalize (cycle config classifier w answers).2.digest = after at hstory
  generalize (cycle config classifier w answers).2.publicity = told at hstory
  cases hstory with
  | blind hgather =>
      exact ⟨fun _ => not_restartFails_of_blind hgather _,
        fun _ hasks => by cases hasks⟩
  | recovering hgather hprogress =>
      exact ⟨fun _ => not_restartFails_of_recovering hprogress _,
        fun _ hasks => by cases hasks⟩
  | calm hgather hinactive hcalm =>
      exact ⟨fun _ => not_restartFails_of_calm hgather hcalm _,
        fun _ hasks => by cases hasks⟩
  | @failing observation transition dockerState reply after captured hgather
      hinactive htransition hfailure hdocker hconsidered hcaptured =>
      dsimp only
      rw [List.any_cons, Announcement.asksToSignIn, Bool.false_or,
        followUp_asksToSignIn, restartFails_iff hgather hinactive htransition
          hdocker hconsidered]
      constructor
      · rintro hexclusive ⟨hstate, rfl, hcleared⟩
        have hauth : transition.current ∈ authStates := by
          rw [hstate]
          decide
        have hcalls := (hexclusive ⟨rfl, hauth⟩).1
        cases hconsidered with
        | withheld hwithheld => exact hwithheld hcleared
        | begun _ _ hbegun =>
            cases hbegun with
            | refused hcall =>
                simp [Digest.request, Digest.executed, Digest.emit] at hcalls
      · rintro hkept ⟨rfl, hauth⟩
        cases hconsidered with
        | withheld hwithheld hcaptured => simp [Watchdog.fresh]
        | begun hcleared hcaptured hbegun =>
            obtain ⟨_, _, hguarded⟩ := hcleared
            have hstate := eq_loggedOut hauth hguarded.restartable
            exact absurd ⟨hstate, rfl, ⟨_, ‹_›, hguarded⟩⟩ hkept

/-- In a run every cycle keeps the promise exactly when no cycle has a restart
out of LOGGED_OUT reported as failed. -/
theorem sign_in_excludes_restart (config : Config) (classifier : LogClassifier)
    (start : Watchdog) (inputs : List CycleAnswers) :
    (checkLoop config classifier).Along (fun w answers =>
        Exclusive (cycleTrace config classifier w answers)) start inputs ↔
      (checkLoop config classifier).Along (fun w answers =>
        ¬ RestartFails config classifier .loggedOut w answers) start inputs :=
  Mealy.along_congr fun _ answers => exclusive_iff config classifier _ answers

/-- The sign-in page, with a socket proxy that denies the restart. -/
def CycleAnswers.signedOutDenied (time : ℚ) : CycleAnswers :=
  { signedOut time true with post := .response 403 "" }

/-- Three checks confirm the logout; the third asks for the restart, is denied,
and tells the user that there was none. -/
theorem sign_in_after_restart :
    ¬ (checkLoop .fromEmptyEnv .withoutPatterns).Along (fun w answers =>
        Exclusive (cycleTrace .fromEmptyEnv .withoutPatterns w answers))
      (.build ⟨[], .missing⟩)
      [.signedOutDenied 60, .signedOutDenied 120, .signedOutDenied 180] := by
  decide +kernel

/-- The failure states the calls lead the machine into, in order. -/
def failureEntries (config : Config) :
    StateMachine → List MachineCall → List State
  | _, [] => []
  | machine, call :: rest =>
      let next := (StateMachine.observeCall config (machine, []) call).1
      (if next.state ≠ machine.state ∧ next.state ∈ failureStates then
        [next.state] else []) ++ failureEntries config next rest

/-- The states of the `failure_detected` events. -/
def failuresDetected (effects : List Effect) : List State :=
  (announcements effects).filterMap fun announcement =>
    match announcement with
    | .failureDetected state => some state
    | .authenticationRequired _ => none

/-- The cycle reports every failure state it enters, once and in order, and
stamps the last failure exactly when it enters one. -/
def Reported (config : Config) (classifier : LogClassifier) (w : Watchdog)
    (answers : CycleAnswers) : Prop :=
  let trace := cycleTrace config classifier w answers
  let entries := failureEntries config w.machine (machineCalls trace)
  failuresDetected trace = entries ∧
    (cycle config classifier w answers).2.lastFailure =
      if entries = [] then w.lastFailure else answers.failureIso

instance (config : Config) (classifier : LogClassifier) (w : Watchdog)
    (answers : CycleAnswers) : Decidable (Reported config classifier w answers) :=
  inferInstanceAs (Decidable (_ ∧ _))

def Announcement.failure? : Announcement → Option State
  | .failureDetected state => some state
  | .authenticationRequired _ => none

/-- What is told accounts for every failure state that the calls enter. -/
def Accounts (config : Config) (w : Watchdog) (answers : CycleAnswers)
    (calls : List MachineCall) (told : Publicity) : Prop :=
  told.announced.filterMap Announcement.failure? =
      failureEntries config w.machine calls ∧
    told.lastFailure =
      if failureEntries config w.machine calls = [] then w.lastFailure
      else answers.failureIso

/-- The recovery controller owns the exit from RECOVERING. -/
def HeldAtRecovering (digest : Digest) : Prop :=
  digest.recovery.progress ≠ none → digest.machine.state = .recovering

section Entries

variable {machine : StateMachine} {observation : Observation}

theorem failureEntries_step_some {transition : Transition}
    (htransition : (machine.step config observation).1 = some transition)
    (rest : List MachineCall) :
    failureEntries config machine (.step observation :: rest) =
      (if transition.current ∈ failureStates then [transition.current]
        else []) ++
        failureEntries config (machine.step config observation).2 rest := by
  have hmoved :=
    (StateMachine.evaluate_of_step_some htransition).2
  have hstate : (machine.step config observation).2.state =
      transition.current := by
    rw [StateMachine.state_of_step, htransition]
    rfl
  rw [failureEntries]
  simp only [StateMachine.observeCall, hstate, ne_eq, hmoved,
    not_false_eq_true, true_and]

theorem failureEntries_step_none
    (hnone : (machine.step config observation).1 = none) :
    failureEntries config machine [.step observation] = [] := by
  have hstate : (machine.step config observation).2.state = machine.state := by
    rw [StateMachine.state_of_step, hnone]
    rfl
  simp [failureEntries, StateMachine.observeCall, hstate]

theorem failureEntries_forced (state : State) (reason : String) :
    failureEntries config machine [.forceState state reason] =
      if state ≠ machine.state ∧ state ∈ failureStates then [state]
      else [] := by
  rw [failureEntries]
  exact List.append_nil _

theorem failures_followUp (state : State) (reply : Except PyError Bool) :
    (Announcement.failureDetected state :: followUp state reply).filterMap
      Announcement.failure? = [state] := by
  cases reply with
  | error error => rfl
  | ok restarting =>
      cases restarting with
      | true => rfl
      | false =>
          by_cases hauth : state ∈ authStates
          · simp [followUp, hauth, Announcement.failure?]
          · simp [followUp, hauth, Announcement.failure?]

end Entries

/-- A recovery is given up exactly when the check completes its count. -/
theorem turn_escalates_iff {monotonic : ℚ} {progress : Progress}
    {observation : Observation} :
    (∃ counted detail, turn config monotonic progress observation =
        .escalates counted detail) ↔
      progress.deadline ≤ monotonic ∧
        (evaluate observation).inconclusive = false ∧
        (evaluate observation).state ≠ .healthy ∧
        config.failureConfirmationCount ≤ progress.failureStreak + 1 := by
  unfold turn
  by_cases hearly : monotonic < progress.deadline
  · rw [if_pos hearly]
    simp [not_le.mpr hearly]
  · rw [if_neg hearly]
    cases hinconclusive : (evaluate observation).inconclusive with
    | true => simp
    | false =>
        by_cases hhealthy : (evaluate observation).state = .healthy
        · rw [if_neg Bool.false_ne_true, if_pos hhealthy]
          simp only [hhealthy, ne_eq, not_true_eq_false, false_and, and_false,
            iff_false]
          split
          · simp
          · simp
        · rw [if_neg Bool.false_ne_true, if_neg hhealthy]
          by_cases hcount : config.failureConfirmationCount ≤
              progress.countFailure.failureStreak
          · rw [if_pos hcount]
            exact ⟨fun _ => ⟨not_lt.mp hearly, rfl, hhealthy, hcount⟩,
              fun _ => ⟨_, _, rfl⟩⟩
          · rw [if_neg hcount]
            refine ⟨fun ⟨_, _, hturn⟩ => (by cases hturn), fun hfails => ?_⟩
            exact absurd hfails.2.2.2 hcount

/-- The check gives up the recovery exactly when it completes the count. -/
theorem recoveryFails_iff {observation : Observation} {progress : Progress}
    (hgather : gather config classifier answers = .ok observation)
    (hprogress : w.recovery.progress = some progress) :
    RecoveryFails config classifier w answers ↔
      ∃ counted detail, turn config answers.monotonic progress observation =
        .escalates counted detail := by
  rw [turn_escalates_iff]
  constructor
  · rintro ⟨_, _, hgathered, hfound, hrest⟩
    obtain rfl := Except.ok.inj (hgather.symm.trans hgathered)
    obtain rfl := Option.some.inj (hprogress.symm.trans hfound)
    exact hrest
  · exact fun hrest => ⟨_, _, hgather, hprogress, hrest⟩

theorem not_recoveryFails_of_inactive
    (hinactive : w.recovery.progress = none) :
    ¬ RecoveryFails config classifier w answers := by
  rintro ⟨_, _, _, hprogress, _⟩
  rw [hinactive] at hprogress
  cases hprogress

section Accounts

variable {calls : List MachineCall} {captured : List CaptureRequest}

theorem reported_iff_accounts :
    Reported config classifier w answers ↔
      Accounts config w answers
        (machineCalls (cycle config classifier w answers).2.digest.effects)
        (cycle config classifier w answers).2.publicity := by
  rw [cycle_effects, machineCalls_decides]
  exact Iff.rfl

/-- A cycle that tells nothing accounts for calls that enter no failure. -/
theorem accounts_silent_iff :
    Accounts config w answers calls ⟨[], captured, w.lastFailure⟩ ↔
      failureEntries config w.machine calls = [] := by
  constructor
  · intro haccounts
    exact haccounts.1.symm
  · intro hnone
    rw [Accounts, hnone]
    exact ⟨rfl, (if_pos rfl).symm⟩

/-- A cycle that tells the failure it stepped into accounts for calls that go
on to enter no other. -/
theorem accounts_failing_iff {observation : Observation}
    {transition : Transition} {reply : Except PyError Bool}
    (htransition : (w.machine.step config observation).1 = some transition)
    (hfailure : transition.current ∈ failureStates) :
    Accounts config w answers (.step observation :: calls)
        ⟨.failureDetected transition.current ::
          followUp transition.current reply, captured, answers.failureIso⟩ ↔
      failureEntries config (w.machine.step config observation).2 calls =
        [] := by
  have hentered := failureEntries_step_some htransition calls
  rw [if_pos hfailure, List.singleton_append] at hentered
  rw [Accounts, hentered, failures_followUp, if_neg (List.cons_ne_nil _ _)]
  constructor
  · intro haccounts
    exact (List.cons_eq_cons.mp haccounts.1).2.symm
  · intro hnone
    rw [hnone]
    exact ⟨rfl, rfl⟩

end Accounts

/-- Of the turns of a recovery only giving it up enters a failure state. -/
theorem failureEntries_turn (hrecovering : w.machine.state = .recovering)
    (taken : Turn) :
    failureEntries config w.machine taken.calls = [] ↔
      ¬ ∃ counted detail, taken = .escalates counted detail := by
  cases taken with
  | holds recovery =>
      refine iff_of_true rfl ?_
      rintro ⟨_, _, htaken⟩
      cases htaken
  | recovers counted =>
      refine iff_of_true ?_ ?_
      · rw [Turn.calls, failureEntries_forced]
        exact if_neg fun hentered => absurd hentered.2 (by decide)
      · rintro ⟨_, _, htaken⟩
        cases htaken
  | escalates counted detail =>
      refine iff_of_false ?_ ?_
      · rw [Turn.calls, failureEntries_forced, hrecovering,
          if_pos ⟨State.noConfusion, by decide⟩]
        exact List.cons_ne_nil _ _
      · exact fun hkept => hkept ⟨counted, detail, rfl⟩

/-- A begun restart enters another failure state exactly when it is refused. -/
theorem failureEntries_begun {before next : Digest} {transition : Transition}
    {reply : Except PyError Bool} {machine : StateMachine}
    (hbegun : Begun config answers before transition reply next)
    (hmanual : machine.state ≠ .manualInterventionRequired) :
    ∃ calls, machineCalls next.effects = machineCalls before.effects ++ calls ∧
      (failureEntries config machine calls = [] ↔ reply ≠ .ok false) := by
  obtain ⟨calls, hcalls, hreply⟩ := hbegun.machineCalls_eq
  refine ⟨calls, hcalls, ?_⟩
  cases reply with
  | error error =>
      rw [show calls = [] from hreply]
      exact iff_of_true rfl (fun hsame => by cases hsame)
  | ok restarting =>
      cases restarting with
      | false =>
          obtain ⟨reason, rfl⟩ := hreply
          rw [failureEntries_forced, if_pos ⟨hmanual.symm, by decide⟩]
          exact iff_of_false (List.cons_ne_nil _ _) (fun hother => hother rfl)
      | true =>
          obtain ⟨reason, rfl⟩ := hreply
          rw [failureEntries_forced,
            if_neg fun hentered => absurd hentered.2 (by decide)]
          exact iff_of_true rfl (fun hsame => by cases hsame)

/-- After a transition, the calls go on to enter another failure state exactly
when a cleared restart is refused. -/
theorem failureEntries_considered {observation : Observation}
    {transition : Transition} {dockerState : Option DockerState}
    {reply : Except PyError Bool} {after : Digest}
    (htransition : (w.machine.step config observation).1 = some transition)
    (hconsidered : Considered config answers
      ((w.fresh.observe observation).step config observation)
      dockerState transition observation reply after) :
    ∃ calls, machineCalls after.effects = .step observation :: calls ∧
      (failureEntries config (w.machine.step config observation).2 calls =
          [] ↔
        ¬ (reply = .ok false ∧ Cleared config answers
          ((w.fresh.observe observation).step config observation)
          transition)) := by
  have hfirst : machineCalls ((w.fresh.observe observation).step config
      observation).effects = [.step observation] := by
    simp [Watchdog.fresh]
  cases hconsidered with
  | raised hstops =>
      exact ⟨[], hfirst, iff_of_true rfl fun hrefused => by cases hrefused.1⟩
  | withheld hwithheld hcaptured =>
      exact ⟨[], hfirst, iff_of_true rfl fun hrefused =>
        hwithheld hrefused.2⟩
  | begun hcleared hcaptured hbegun =>
      have hmanual : (w.machine.step config observation).2.state ≠
          .manualInterventionRequired := by
        obtain ⟨_, _, hguarded⟩ := hcleared
        have hrestartable := hguarded.restartable
        intro hsame
        rw [StateMachine.state_of_step, htransition] at hsame
        rw [show transition.current = _ from hsame] at hrestartable
        cases hrestartable
      obtain ⟨calls, hcalls, hentries⟩ := failureEntries_begun hbegun hmanual
      rw [hfirst] at hcalls
      refine ⟨calls, hcalls, hentries.trans (not_congr ?_)⟩
      exact (and_iff_left hcleared).symm

/-- A cycle reports what it enters exactly when neither a restart nor the
recovery fails in it. -/
theorem reported_iff (hheld : HeldAtRecovering w.digest) :
    Reported config classifier w answers ↔
      (∀ state, ¬ RestartFails config classifier state w answers) ∧
        ¬ RecoveryFails config classifier w answers := by
  have hstory := cycle_story config classifier answers w
  rw [reported_iff_accounts]
  generalize (cycle config classifier w answers).2.digest = after at hstory
  generalize (cycle config classifier w answers).2.publicity = told at hstory
  cases hstory with
  | blind hgather =>
      refine iff_of_true (accounts_silent_iff.mpr rfl)
        ⟨not_restartFails_of_blind hgather, ?_⟩
      rintro ⟨_, _, hgathered, _⟩
      rw [hgather] at hgathered
      cases hgathered
  | @recovering observation progress hgather hprogress =>
      have hrecovering : w.machine.state = .recovering := by
        apply hheld
        change w.recovery.progress ≠ none
        rw [hprogress]
        exact Option.some_ne_none progress
      have hfirst : machineCalls (w.fresh.observe observation).effects = [] :=
        rfl
      rw [accounts_silent_iff, machineCalls_take, hfirst, List.nil_append,
        failureEntries_turn hrecovering, recoveryFails_iff hgather hprogress]
      exact (and_iff_right (not_restartFails_of_recovering hprogress)).symm
  | @calm observation hgather hinactive hcalm =>
      refine iff_of_true (accounts_silent_iff.mpr ?_)
        ⟨not_restartFails_of_calm hgather hcalm,
          not_recoveryFails_of_inactive hinactive⟩
      change failureEntries config w.machine [.step observation] = []
      cases hmoved : (w.machine.step config observation).1 with
      | none => exact failureEntries_step_none hmoved
      | some transition =>
          rw [failureEntries_step_some hmoved, if_neg (hcalm _ hmoved)]
          rfl
  | @failing observation transition dockerState reply after captured hgather
      hinactive htransition hfailure hdocker hconsidered hcaptured =>
      obtain ⟨calls, hcalls, hentries⟩ :=
        failureEntries_considered htransition hconsidered
      rw [hcalls, accounts_failing_iff htransition hfailure, hentries]
      have hrestart : ∀ state, RestartFails config classifier state w answers ↔
          _ := fun state =>
        restartFails_iff hgather hinactive htransition hdocker hconsidered
      constructor
      · intro hkept
        refine ⟨fun state hfails => ?_, not_recoveryFails_of_inactive hinactive⟩
        exact hkept ((hrestart state).mp hfails).2
      · intro hnone hrefused
        exact hnone.1 transition.current ((hrestart _).mpr ⟨rfl, hrefused⟩)

/-- The state is RECOVERING while a recovery is in progress, whatever raises. -/
theorem HeldAtRecovering.course {before next : Digest} {returned : Bool}
    (hheld : HeldAtRecovering before)
    (hcourse : Course config classifier answers before returned next) :
    HeldAtRecovering next := by
  cases hcourse with
  | blind hgather => exact hheld
  | @recovering observation progress _ hgather hprogress =>
      have hbefore : before.machine.state = .recovering := by
        apply hheld
        rw [hprogress]
        exact Option.some_ne_none progress
      cases turn config answers.monotonic progress observation with
      | holds recovery => exact fun _ => hbefore
      | recovers counted => exact fun hactive => absurd rfl hactive
      | escalates counted detail => exact fun hactive => absurd rfl hactive
  | watching hgather hinactive => exact fun hactive => absurd hinactive hactive
  | restarting hgather hinactive htransition hcleared hbegun =>
      cases hbegun with
      | raised hcall => exact fun hactive => absurd hinactive hactive
      | refused hcall => exact fun hactive => absurd hinactive hactive
      | unrecorded hcall => exact fun hactive => absurd hinactive hactive
      | restarted hcall => exact fun _ => rfl

theorem heldAtRecovering_run (config : Config) (classifier : LogClassifier)
    (restarts : RestartManager) (inputs : List CycleAnswers) :
    HeldAtRecovering (Digest.ofRun ((checkLoop config classifier).run
      (.build restarts) inputs)) :=
  @loop_induction config classifier (fun _ _ => True)
    (fun _ digest => HeldAtRecovering digest) (.build restarts)
    (fun hactive => absurd rfl hactive)
    (fun _ _ _ _ _ _ hheld hcourse => hheld.course hcourse) inputs
    (Mealy.along_of_forall (fun _ _ => trivial) inputs)

/-- In a run every failure state entered is reported, once and in the cycle that
enters it, exactly when no restart and no recovery fails in the run. -/
theorem failure_reports_exact (config : Config) (classifier : LogClassifier)
    (restarts : RestartManager) (inputs : List CycleAnswers) :
    (checkLoop config classifier).Along (Reported config classifier)
        (.build restarts) inputs ↔
      (checkLoop config classifier).Along (fun w answers =>
        (∀ state, ¬ RestartFails config classifier state w answers) ∧
          ¬ RecoveryFails config classifier w answers)
        (.build restarts) inputs := by
  have hheld : ∀ front, HeldAtRecovering
      ((checkLoop config classifier).run (.build restarts) front).1.digest :=
    fun front => heldAtRecovering_run config classifier restarts front
  exact Mealy.along_congr fun front _ => reported_iff (hheld front)

/-- The third check gives up on the restart and enters
MANUAL_INTERVENTION_REQUIRED, and only the LOGGED_OUT before it is reported. -/
theorem failure_not_reported :
    ¬ (checkLoop .fromEmptyEnv .withoutPatterns).Along
      (Reported .fromEmptyEnv .withoutPatterns) (.build ⟨[], .missing⟩)
      [.signedOutDenied 60, .signedOutDenied 120, .signedOutDenied 180] := by
  decide +kernel

end TeslamateWatchdog
