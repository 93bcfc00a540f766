/-
The verdict on a restart.  A recovery is a small automaton over the findings of
the checks made from its deadline on, and of the container's log a finding sees
the analysis window alone: earlier lines matter exactly as long as they are in
that window.
-/
import TeslamateWatchdog.CheckLoop

namespace TeslamateWatchdog

open Foundation

/-- What a check says about a recovery; one that raised says nothing, like an
inconclusive one. -/
inductive Finding where
  | silent
  | healthy
  | failing
deriving Repr, DecidableEq

/-- Where a recovery stands, whatever set it off. -/
inductive Standing where
  | underWay (deadline : ℚ) (healthyStreak failureStreak : Nat)
  | ended (status : RecoveryStatus)
deriving Repr, DecidableEq

/-- A check, as the recovery takes it: the monotonic clock and the finding. -/
structure Verification where
  monotonic : ℚ
  finding : Finding
deriving Repr, DecidableEq

namespace Standing

variable (config : Config)

def next : Standing → Verification → Standing
  | .ended status, _ => .ended status
  | .underWay deadline healthyStreak failureStreak, check =>
      if check.monotonic < deadline then
        .underWay deadline healthyStreak failureStreak
      else
        match check.finding with
        | .silent => .underWay deadline healthyStreak failureStreak
        | .healthy =>
            if config.recoveryConfirmationCount ≤ healthyStreak + 1 then
              .ended .recovered
            else .underWay deadline (healthyStreak + 1) 0
        | .failing =>
            if config.failureConfirmationCount ≤ failureStreak + 1 then
              .ended .manualInterventionRequired
            else .underWay deadline 0 (failureStreak + 1)

/-- The check at which the recovery ends, counted from zero, and how. -/
def verdict : Standing → List Verification → Option (Nat × RecoveryStatus)
  | _, [] => none
  | standing, check :: rest =>
      match standing.next config check with
      | .ended status => some (0, status)
      | .underWay deadline healthyStreak failureStreak =>
          (verdict (.underWay deadline healthyStreak failureStreak) rest).map
            (Prod.map (· + 1) id)

variable {config} {deadline : ℚ} {healthyStreak failureStreak : Nat}

theorem next_before_deadline {check : Verification}
    (hearly : check.monotonic < deadline) :
    (underWay deadline healthyStreak failureStreak).next config check =
      .underWay deadline healthyStreak failureStreak := by
  rw [next, if_pos hearly]

/-- A recovery that goes on keeps its deadline. -/
theorem deadline_of_next {check : Verification} {later : ℚ}
    {healthy failing : Nat}
    (hnext : (underWay deadline healthyStreak failureStreak).next config check =
      .underWay later healthy failing) : later = deadline := by
  rw [next] at hnext
  repeat' split at hnext
  all_goals cases hnext
  all_goals rfl

/-- Checks that agree from the deadline on end a recovery alike. -/
theorem verdict_congr {first second : List Verification}
    (hagree : List.Forall₂ (fun one other => one.monotonic = other.monotonic ∧
      (deadline ≤ one.monotonic → one.finding = other.finding)) first second) :
    (underWay deadline healthyStreak failureStreak).verdict config first =
      (underWay deadline healthyStreak failureStreak).verdict config second := by
  induction hagree generalizing healthyStreak failureStreak with
  | nil => rfl
  | @cons one other first second hhead _ ih =>
      obtain ⟨hclock, hfinding⟩ := hhead
      have hnext : (underWay deadline healthyStreak failureStreak).next config
          one = (underWay deadline healthyStreak failureStreak).next config
            other := by
        by_cases hearly : one.monotonic < deadline
        · rw [next_before_deadline hearly,
            next_before_deadline (hclock ▸ hearly)]
        · have hsame : one = other := by
            obtain ⟨monotonic, finding⟩ := one
            obtain ⟨_, _⟩ := other
            obtain rfl := hclock
            obtain rfl := hfinding (not_lt.mp hearly)
            rfl
          rw [hsame]
      rw [verdict, verdict, hnext]
      cases hstanding : (underWay deadline healthyStreak failureStreak).next
          config other with
      | ended status => rfl
      | underWay later healthy failing =>
          obtain rfl := deadline_of_next hstanding
          dsimp only
          rw [ih]

/-- When every check from the deadline on is healthy, a recovery does not end
but as recovered. -/
theorem verdict_recovered {checks : List Verification}
    (hhealthy : ∀ check ∈ checks, deadline ≤ check.monotonic →
      check.finding = .healthy) {index : Nat} {status : RecoveryStatus}
    (hverdict : (underWay deadline healthyStreak failureStreak).verdict config
      checks = some (index, status)) : status = .recovered := by
  induction checks generalizing healthyStreak failureStreak index status with
  | nil => cases hverdict
  | cons check rest ih =>
      have hrest : ∀ other ∈ rest, deadline ≤ other.monotonic →
          other.finding = .healthy := fun other hother =>
        hhealthy other (List.mem_cons_of_mem check hother)
      have hgoes : ∀ {healthy failing : Nat} {answer : Nat × RecoveryStatus},
          ((underWay deadline healthy failing).verdict config rest).map
            (Prod.map (· + 1) id) = some answer →
          answer.2 = .recovered := by
        intro healthy failing answer hmap
        obtain ⟨⟨earlier, found⟩, hfound, rfl⟩ := Option.map_eq_some_iff.mp hmap
        exact ih hrest hfound
      rw [verdict] at hverdict
      by_cases hearly : check.monotonic < deadline
      · rw [next_before_deadline hearly] at hverdict
        exact hgoes hverdict
      · have hfinding := hhealthy check List.mem_cons_self (not_lt.mp hearly)
        rw [next, if_neg hearly, hfinding] at hverdict
        dsimp only at hverdict
        by_cases hcount :
            config.recoveryConfirmationCount ≤ healthyStreak + 1
        · rw [if_pos hcount] at hverdict
          cases hverdict
          rfl
        · rw [if_neg hcount] at hverdict
          exact hgoes hverdict

/-- Enough healthy checks end it. -/
theorem verdict_isSome {checks : List Verification}
    (hhealthy : ∀ check ∈ checks, deadline ≤ check.monotonic →
      check.finding = .healthy)
    (hopen : healthyStreak < config.recoveryConfirmationCount)
    (hcount : config.recoveryConfirmationCount ≤ healthyStreak +
      checks.countP fun check => deadline ≤ check.monotonic) :
    ((underWay deadline healthyStreak failureStreak).verdict config
      checks).isSome = true := by
  induction checks generalizing healthyStreak failureStreak with
  | nil =>
      rw [List.countP_nil] at hcount
      omega
  | cons check rest ih =>
      have hrest : ∀ other ∈ rest, deadline ≤ other.monotonic →
          other.finding = .healthy := fun other hother =>
        hhealthy other (List.mem_cons_of_mem check hother)
      rw [List.countP_cons] at hcount
      rw [verdict]
      by_cases hearly : check.monotonic < deadline
      · rw [next_before_deadline hearly]
        dsimp only
        rw [Option.isSome_map]
        apply ih hrest hopen
        simpa [not_le.mpr hearly] using hcount
      · have hfinding := hhealthy check List.mem_cons_self (not_lt.mp hearly)
        rw [next, if_neg hearly, hfinding]
        dsimp only
        by_cases henough :
            config.recoveryConfirmationCount ≤ healthyStreak + 1
        · rw [if_pos henough]
          rfl
        · rw [if_neg henough]
          dsimp only
          rw [Option.isSome_map]
          apply ih hrest (not_le.mp henough)
          rw [if_pos (by simpa using hearly)] at hcount
          omega

end Standing

def RecoveryController.standing (recovery : RecoveryController) : Standing :=
  match recovery.progress with
  | some progress => .underWay progress.deadline progress.healthyStreak
      progress.failureStreak
  | none => .ended recovery.status

/-- What gathering and evaluating a check finds. -/
def finding : Except PyError Observation → Finding
  | .error _ => .silent
  | .ok observation =>
      if (evaluate observation).inconclusive then .silent
      else if (evaluate observation).state = .healthy then .healthy
      else .failing

def verification (config : Config) (classifier : LogClassifier)
    (answers : CycleAnswers) : Verification :=
  ⟨answers.monotonic, finding (gather config classifier answers)⟩

/-- The cycle in which the recovery in progress ends, and its status then. -/
def ending (config : Config) (classifier : LogClassifier) :
    Watchdog → List CycleAnswers → Option (Nat × RecoveryStatus)
  | _, [] => none
  | w, answers :: rest =>
      let next := (cycle config classifier w answers).2
      if next.recovery.active then
        (ending config classifier next rest).map (Prod.map (· + 1) id)
      else some (0, next.recovery.status)

section Refinement

variable {config : Config} {classifier : LogClassifier}
  {answers : CycleAnswers}

theorem standing_of_progress {recovery : RecoveryController}
    {progress : Progress} (hprogress : recovery.progress = some progress) :
    recovery.standing = .underWay progress.deadline progress.healthyStreak
      progress.failureStreak := by
  rw [RecoveryController.standing, hprogress]

/-- A turn of the recovery is a step of the automaton. -/
theorem standing_take (before : Digest) (progress : Progress)
    (observation : Observation) :
    (before.take answers
      (turn config answers.monotonic progress observation)).recovery.standing =
      (Standing.underWay progress.deadline progress.healthyStreak
        progress.failureStreak).next config
          ⟨answers.monotonic, finding (.ok observation)⟩ := by
  unfold turn finding
  rw [Standing.next]
  by_cases hearly : answers.monotonic < progress.deadline
  · rw [if_pos hearly, if_pos hearly]
    rfl
  · rw [if_neg hearly, if_neg hearly]
    dsimp only
    by_cases hinconclusive : (evaluate observation).inconclusive = true
    · rw [if_pos hinconclusive, if_pos hinconclusive]
      rfl
    · rw [if_neg hinconclusive, if_neg hinconclusive]
      by_cases hhealthy : (evaluate observation).state = .healthy
      · rw [if_pos hhealthy, if_pos hhealthy]
        by_cases henough : config.recoveryConfirmationCount ≤
            progress.countHealthy.healthyStreak
        · rw [if_pos henough]
          exact (if_pos henough).symm
        · rw [if_neg henough]
          exact (if_neg henough).symm
      · rw [if_neg hhealthy, if_neg hhealthy]
        by_cases hfailed : config.failureConfirmationCount ≤
            progress.countFailure.failureStreak
        · rw [if_pos hfailed]
          exact (if_pos hfailed).symm
        · rw [if_neg hfailed]
          exact (if_neg hfailed).symm

theorem Course.standing {before next : Digest} {returned : Bool}
    {progress : Progress}
    (hcourse : Course config classifier answers before returned next)
    (hprogress : before.recovery.progress = some progress) :
    next.recovery.standing =
      (Standing.underWay progress.deadline progress.healthyStreak
        progress.failureStreak).next config
          (verification config classifier answers) := by
  rw [verification]
  cases hcourse with
  | blind hgather =>
      rw [hgather, Standing.next, standing_of_progress hprogress]
      split
      · rfl
      · rfl
  | recovering hgather hfound =>
      obtain rfl := Option.some.inj (hprogress.symm.trans hfound)
      rw [hgather]
      exact standing_take _ progress _
  | watching hgather hinactive =>
      rw [hprogress] at hinactive
      cases hinactive
  | restarting hgather hinactive =>
      rw [hprogress] at hinactive
      cases hinactive

/-- A cycle in the course of a recovery is a step of the automaton. -/
theorem standing_cycle {w : Watchdog} (hactive : w.recovery.active = true) :
    (cycle config classifier w answers).2.recovery.standing =
      w.recovery.standing.next config
        (verification config classifier answers) := by
  obtain ⟨progress, hprogress⟩ := Option.isSome_iff_exists.mp hactive
  rw [standing_of_progress hprogress]
  exact (cycle_course config classifier w answers).standing hprogress

/-- The cycles end a recovery as the automaton ends it. -/
theorem ending_eq_verdict {w : Watchdog} (hactive : w.recovery.active = true)
    (inputs : List CycleAnswers) :
    ending config classifier w inputs =
      w.recovery.standing.verdict config
        (inputs.map (verification config classifier)) := by
  induction inputs generalizing w with
  | nil => rfl
  | cons answers rest ih =>
      rw [List.map_cons, ending, Standing.verdict,
        ← @standing_cycle config classifier answers w hactive]
      cases hprogress :
          (cycle config classifier w answers).2.recovery.progress with
      | some progress =>
          have hgoes := RecoveryController.active_of_some hprogress
          rw [if_pos hgoes, ih hgoes, standing_of_progress hprogress]
      | none =>
          rw [RecoveryController.active_of_none hprogress,
            if_neg Bool.false_ne_true, RecoveryController.standing, hprogress]

/-- A recovery begins with a deadline and nothing counted. -/
theorem Course.begun_standing {before next : Digest} {returned : Bool}
    (hcourse : Course config classifier answers before returned next)
    (hidle : before.recovery.progress = none)
    (hbegun : next.recovery.progress ≠ none) :
    next.recovery.standing =
      .underWay (answers.monotonic + config.postRestartWaitSeconds) 0 0 := by
  cases hcourse with
  | blind hgather => exact absurd hidle hbegun
  | recovering hgather hprogress =>
      rw [hidle] at hprogress
      cases hprogress
  | watching hgather hinactive => exact absurd hinactive hbegun
  | restarting hgather hinactive htransition hcleared hrestart =>
      cases hrestart with
      | raised hcall => exact absurd hinactive hbegun
      | refused hcall => exact absurd hinactive hbegun
      | unrecorded hcall hrecord => exact absurd hinactive hbegun
      | restarted hcall hrecord => rfl

/-- The cycle restarts TeslaMate, and a recovery is in progress after it. -/
structure BeginsRecovery (config : Config) (classifier : LogClassifier)
    (w : Watchdog) (answers : CycleAnswers) : Prop where
  idle : w.recovery.active = false
  begun : (cycle config classifier w answers).2.recovery.active = true

/-- The cycles after a restart end its recovery as the automaton does, from
nothing counted. -/
theorem BeginsRecovery.ending_eq {w : Watchdog}
    (hbegins : BeginsRecovery config classifier w answers)
    (inputs : List CycleAnswers) :
    ending config classifier (cycle config classifier w answers).2 inputs =
      (Standing.underWay (answers.monotonic + config.postRestartWaitSeconds) 0
        0).verdict config (inputs.map (verification config classifier)) := by
  have hidle : w.recovery.progress = none := by
    simpa [RecoveryController.active] using hbegins.idle
  have hbegun :
      (cycle config classifier w answers).2.recovery.progress ≠ none :=
    Option.isSome_iff_ne_none.mp hbegins.begun
  have hstanding : (cycle config classifier w answers).2.recovery.standing =
      .underWay (answers.monotonic + config.postRestartWaitSeconds) 0 0 :=
    (cycle_course config classifier w answers).begun_standing hidle hbegun
  rw [ending_eq_verdict hbegins.begun, hstanding]

end Refinement

/-- A line of a container's log, and when it was written. -/
structure LogLine where
  writtenAt : ℚ
  text : String
deriving Repr, DecidableEq

def linesSince (since : ℚ) (log : List LogLine) : List LogLine :=
  log.filter fun line => since ≤ line.writtenAt

/-- What the engine answers to a log request, given all the container has
written so far. -/
abbrev LogEngine := List LogLine → Json → Int → Nat → BytesAnswer

/-- `since` cuts: an answer is made of the lines written from then on. -/
def AnswersSince (engine : LogEngine) : Prop :=
  ∀ (first second : List LogLine) (id : Json) (since : Int) (tail : Nat),
    linesSince since first = linesSince since second →
      engine first id since tail = engine second id since tail

/-- A cycle, with the log of the TeslaMate container as it stands then. -/
structure LoggedCycle where
  answers : CycleAnswers
  log : List LogLine
  logListing : JsonAnswer
  logAt : ℚ

namespace LoggedCycle

/-- The cycle's answers, with the log read from the engine. -/
def answered (engine : LogEngine) (logged : LoggedCycle) : CycleAnswers :=
  { logged.answers with
    logs := DockerClient.logs logged.logListing (engine logged.log)
      logged.logAt }

/-- The lines inside the analysis window. -/
def window (config : Config) (logged : LoggedCycle) : List LogLine :=
  linesSince (PyFloat.truncate
    (logged.logAt - config.logAnalysisLookbackSeconds)) logged.log

/-- Two cycles that differ at most in log lines written before `since`. -/
structure AgreeSince (since : ℚ) (first second : LoggedCycle) : Prop where
  answers : first.answers = second.answers
  logListing : first.logListing = second.logListing
  logAt : first.logAt = second.logAt
  log : linesSince since first.log = linesSince since second.log

/-- Two cycles that differ at most in log lines, and from the deadline on in
lines outside the analysis window alone. -/
structure AgreeInWindow (config : Config) (deadline : ℚ)
    (first second : LoggedCycle) : Prop where
  answers : first.answers = second.answers
  logListing : first.logListing = second.logListing
  logAt : first.logAt = second.logAt
  window : deadline ≤ first.answers.monotonic →
    first.window config = second.window config

variable {config : Config} {classifier : LogClassifier} {engine : LogEngine}
  {deadline : ℚ} {first second : LoggedCycle}

theorem logs_of_window (hengine : AnswersSince engine)
    (hlisting : first.logListing = second.logListing)
    (hclock : first.logAt = second.logAt)
    (hwindow : first.window config = second.window config) :
    (first.answered engine).logs config.teslamateContainer
        config.logAnalysisLookbackSeconds =
      (second.answered engine).logs config.teslamateContainer
        config.logAnalysisLookbackSeconds := by
  have hanswer : ∀ id, engine first.log id (PyFloat.truncate
      (second.logAt - config.logAnalysisLookbackSeconds)) DockerClient.logTail =
      engine second.log id (PyFloat.truncate
        (second.logAt - config.logAnalysisLookbackSeconds))
        DockerClient.logTail := by
    intro id
    apply hengine
    rw [window, hclock] at hwindow
    exact hwindow
  simp only [answered, DockerClient.logs, hlisting, hclock, hanswer]

/-- Cycles that agree in the window make the same finding. -/
theorem AgreeInWindow.verification (hengine : AnswersSince engine)
    (hagree : AgreeInWindow config deadline first second) :
    (verification config classifier (first.answered engine)).monotonic =
        (verification config classifier (second.answered engine)).monotonic ∧
      (deadline ≤
          (verification config classifier (first.answered engine)).monotonic →
        (verification config classifier (first.answered engine)).finding =
          (verification config classifier (second.answered engine)).finding) := by
  obtain ⟨hanswers, hlisting, hclock, hwindow⟩ := hagree
  refine ⟨congrArg (fun answers => answers.monotonic) hanswers,
    fun hlate => ?_⟩
  have hlogs := logs_of_window hengine hlisting hclock (hwindow hlate)
  have hgather : gather config classifier (first.answered engine) =
      gather config classifier (second.answered engine) := by
    unfold gather gatherSignals
    rw [hlogs]
    simp only [answered, hanswers]
  exact congrArg finding hgather

end LoggedCycle

/-- A check that shows TeslaMate well, no failure line in the log it reads
included. -/
structure SeenWell (config : Config) (classifier : LogClassifier)
    (answers : CycleAnswers) : Prop where
  seen : ∃ observation, gather config classifier answers = .ok observation ∧
    observation.http.category = .authenticated ∧
    observation.teslamateContainerRunning = some true ∧
    observation.databaseHealthy = some true ∧
    observation.loggerHealthy ≠ some false ∧ observation.loggerStale = false
  log : ∀ text, answers.logs config.teslamateContainer
      config.logAnalysisLookbackSeconds = .ok text →
    ∀ line ∈ PyText.splitLines text, ∀ category ∈ failureCategories,
      ¬classifier.Hits category line

section Well

variable {config : Config} {classifier : LogClassifier}
  {answers : CycleAnswers}

/-- Without failure lines there are no failure signals. -/
theorem signals_of_no_hits
    (hthresholds : ∀ category ∈ failureCategories,
      1 ≤ classifier.threshold category)
    (hlog : ∀ text, answers.logs config.teslamateContainer
        config.logAnalysisLookbackSeconds = .ok text →
      ∀ line ∈ PyText.splitLines text, ∀ category ∈ failureCategories,
        ¬classifier.Hits category line)
    {signals : LogSignals}
    (hsignals : gatherSignals config classifier answers = .ok (some signals)) :
    signals.tokenDecryptionFailure = false ∧
      signals.authRefreshFailing = false ∧ signals.authLost = false := by
  unfold gatherSignals at hsignals
  by_cases hempty : classifier.isEmpty = true
  · rw [if_pos hempty] at hsignals
    cases hsignals
  · rw [if_neg hempty] at hsignals
    obtain ⟨text, htext, hsignals⟩ := bind_eq_ok.mp hsignals
    have hmiss : ∀ category ∈ failureCategories,
        classifier.confirmed (classifier.classify text) category = false :=
      fun category hcategory => LogClassifier.confirmed_classify_eq_false
        (hthresholds category hcategory)
        fun line hline => hlog text htext line hline category hcategory
    by_cases hblank : text = ""
    · rw [if_pos hblank] at hsignals
      cases hsignals
    · rw [if_neg hblank] at hsignals
      cases hsignals
      exact ⟨hmiss "token_decryption" (by decide),
        hmiss "refresh_failure" (by decide), hmiss "auth_lost" (by decide)⟩

theorem SeenWell.finding
    (hthresholds : ∀ category ∈ failureCategories,
      1 ≤ classifier.threshold category)
    (hwell : SeenWell config classifier answers) :
    (verification config classifier answers).finding = .healthy := by
  obtain ⟨observation, hgather, hhttp, hrunning, hdatabase, hlogger, hstale⟩ :=
    hwell.seen
  have hsignals := (gatheredFrom config classifier answers hgather).signals
  have hquiet : observation.tokenDecryptionFailure = false ∧
      observation.authRefreshFailingOrLost = false := by
    cases hfound : observation.logSignals with
    | none =>
        simp [Observation.tokenDecryptionFailure,
          Observation.authRefreshFailingOrLost, hfound]
    | some signals =>
        rw [hfound] at hsignals
        obtain ⟨htoken, hrefresh, hlost⟩ :=
          signals_of_no_hits hthresholds hwell.log hsignals
        simp [Observation.tokenDecryptionFailure,
          Observation.authRefreshFailingOrLost, hfound, htoken, hrefresh, hlost]
  have hevaluate : evaluate observation =
      { state := .healthy, reason := "all checks passing" } := by
    simp [evaluate, hhttp, hrunning, hdatabase, hlogger, hstale, hquiet]
  simp [verification, hgather, TeslamateWatchdog.finding, hevaluate]

end Well

/-- The verdict on a restart depends on the checks from the deadline on, and of
the log on the lines in their analysis windows.  When these checks show
TeslaMate well, the recovery ends as `recovered` if it ends, and enough of them
end it. -/
theorem verdict_of_window (config : Config) (classifier : LogClassifier)
    {engine : LogEngine} (hengine : AnswersSince engine)
    {w other : Watchdog} {restart otherRestart : CycleAnswers}
    (hbegins : BeginsRecovery config classifier w restart)
    (hother : BeginsRecovery config classifier other otherRestart)
    (hclock : restart.monotonic = otherRestart.monotonic)
    {later otherLater : List LoggedCycle}
    (hagree : List.Forall₂ (LoggedCycle.AgreeInWindow config
      (restart.monotonic + config.postRestartWaitSeconds)) later otherLater) :
    ending config classifier (cycle config classifier w restart).2
        (later.map (·.answered engine)) =
      ending config classifier (cycle config classifier other otherRestart).2
        (otherLater.map (·.answered engine)) ∧
    ((∀ category ∈ failureCategories, 1 ≤ classifier.threshold category) →
      (∀ logged ∈ later, restart.monotonic + config.postRestartWaitSeconds ≤
          logged.answers.monotonic →
        SeenWell config classifier (logged.answered engine)) →
      (∀ index status,
        ending config classifier (cycle config classifier w restart).2
          (later.map (·.answered engine)) = some (index, status) →
        status = .recovered) ∧
      (config.recoveryConfirmationCount ≤ (later.countP fun logged =>
          restart.monotonic + config.postRestartWaitSeconds ≤
            logged.answers.monotonic) →
        ∃ index,
          ending config classifier (cycle config classifier w restart).2
            (later.map (·.answered engine)) = some (index, .recovered))) := by
  rw [hbegins.ending_eq, hother.ending_eq, ← hclock]
  refine ⟨?_, fun hthresholds hwell => ?_⟩
  · apply Standing.verdict_congr
    rw [List.forall₂_map_left_iff, List.forall₂_map_right_iff,
      List.forall₂_map_left_iff, List.forall₂_map_right_iff]
    exact hagree.imp fun _ _ hpair => hpair.verification hengine
  · have hhealthy : ∀ check ∈ (later.map (·.answered engine)).map
        (verification config classifier),
        restart.monotonic + config.postRestartWaitSeconds ≤ check.monotonic →
          check.finding = .healthy := by
      intro check hcheck hlate
      obtain ⟨answers, hanswers, rfl⟩ := List.mem_map.mp hcheck
      obtain ⟨logged, hlogged, rfl⟩ := List.mem_map.mp hanswers
      exact (hwell logged hlogged hlate).finding hthresholds
    have hrecovered := fun index status =>
      @Standing.verdict_recovered config _ 0 0 _ hhealthy index status
    refine ⟨hrecovered, fun hcount => ?_⟩
    have hends := @Standing.verdict_isSome config _ 0 0 _ hhealthy
      config.recoveryConfirmationCount_pos (by
        rw [Nat.zero_add, List.countP_map, List.countP_map]
        exact hcount)
    obtain ⟨⟨index, status⟩, hverdict⟩ := Option.isSome_iff_exists.mp hends
    obtain rfl := hrecovered index status hverdict
    exact ⟨index, hverdict⟩

/-- The frame of one line on standard output. -/
def LogLine.frame (line : LogLine) : List UInt8 :=
  let payload := (line.text ++ "\n").toUTF8.toList
  let size := payload.length
  [1, 0, 0, 0, .ofNat (size / 2 ^ 24), .ofNat (size / 2 ^ 16),
    .ofNat (size / 2 ^ 8), .ofNat size] ++ payload

/-- The last `tail` lines written from `since` on, framed. -/
def framedLog : LogEngine := fun log _ since tail =>
  let lines := linesSince since log
  .content ((lines.drop (lines.length - tail)).flatMap LogLine.frame)

theorem framedLog_answersSince : AnswersSince framedLog := by
  intro first second id since tail hlines
  simp only [framedLog, hlines]

/-- A cycle, with this log in a container that is listed. -/
def CycleAnswers.withLog (answers : CycleAnswers) (log : List LogLine)
    (time : ℚ) : LoggedCycle :=
  ⟨answers, log, (calm time).listing, time⟩

/-- A sign-out that was over before the restart. -/
def signOutLine : LogLine :=
  ⟨30, "1970-01-01T00:00:30.000000000Z Error / not_signed_in"⟩

/-- The check at 60, which finds the container stopped. -/
def stoppedCheck (log : List LogLine) : CycleAnswers :=
  ((CycleAnswers.stopped 60).withLog log 60).answered framedLog

/-- Well checks at these times. -/
def calmChecks (log : List LogLine) (times : List ℚ) : List LoggedCycle :=
  times.map fun time => (CycleAnswers.calm time).withLog log time

/-- After one good check. -/
def calmStart : Watchdog :=
  ((checkLoop .fromEmptyEnv .phrases).run (.build ⟨[], .missing⟩)
    [.calm 0]).1

/-- How the restart at 60 ends in this world. -/
def endingWith (log : List LogLine) (times : List ℚ) :
    Option (Nat × RecoveryStatus) :=
  ending .fromEmptyEnv .phrases
    (cycle .fromEmptyEnv .phrases calmStart (stoppedCheck log)).2
    ((calmChecks log times).map (·.answered framedLog))

/-- Two runs agree on all that comes after the restart at 60, where every check
is well; a line from before it makes one of them end as unrecovered. -/
theorem verdict_of_old_line :
    AnswersSince framedLog ∧
    BeginsRecovery .fromEmptyEnv .phrases calmStart
      (stoppedCheck [signOutLine]) ∧
    BeginsRecovery .fromEmptyEnv .phrases calmStart (stoppedCheck []) ∧
    List.Forall₂ (LoggedCycle.AgreeSince 60)
      (calmChecks [signOutLine] [160, 220, 280])
      (calmChecks [] [160, 220, 280]) ∧
    endingWith [signOutLine] [160, 220, 280] =
      some (2, .manualInterventionRequired) ∧
    endingWith [] [160, 220, 280] = some (1, .recovered) := by
  refine ⟨framedLog_answersSince, ⟨by decide +kernel, by decide +kernel⟩,
    ⟨by decide +kernel, by decide +kernel⟩, ?_, by decide +kernel,
    by decide +kernel⟩
  have hlog : linesSince 60 [signOutLine] = linesSince 60 [] := by
    decide +kernel
  have hagree : ∀ time : ℚ, LoggedCycle.AgreeSince 60
      ((CycleAnswers.calm time).withLog [signOutLine] time)
      ((CycleAnswers.calm time).withLog [] time) :=
    fun _ => ⟨rfl, rfl, rfl, hlog⟩
  exact .cons (hagree _) (.cons (hagree _) (.cons (hagree _) .nil))

/-- A well check that reads an empty log shows TeslaMate well. -/
theorem seenWell_calm {log : List LogLine} {time : ℚ}
    (hlogs : (((CycleAnswers.calm time).withLog log time).answered
      framedLog).logs "teslamate" 900 = .ok "") :
    SeenWell .fromEmptyEnv .phrases
      (((CycleAnswers.calm time).withLog log time).answered framedLog) := by
  have hsignals : gatherSignals .fromEmptyEnv .phrases
      (((CycleAnswers.calm time).withLog log time).answered framedLog) =
        .ok none := by
    rw [gatherSignals, if_neg (by decide)]
    exact congrArg (· >>= _) hlogs
  refine ⟨⟨{
    http := { category := .authenticated, statusCode := some 200 }
    loggerHealthy := some true
    loggerDetail := "healthy"
    databaseHealthy := some true
    teslamateContainerRunning := some true }, ?_, rfl, rfl, rfl, by decide,
    rfl⟩, ?_⟩
  · rw [gather, hsignals]
    rfl
  · intro text htext
    obtain rfl := Except.ok.inj (hlogs.symm.trans htext)
    intro line hline
    cases hline

/-- Once the line has left the window, it decides nothing: it has when the
checks at 1000 and 1060 come. -/
theorem verdict_of_window_passed :
    endingWith [signOutLine] [100, 1000, 1060] =
        endingWith [] [100, 1000, 1060] ∧
      ∃ index, endingWith [signOutLine] [100, 1000, 1060] =
        some (index, .recovered) := by
  have hdeadline : (stoppedCheck [signOutLine]).monotonic +
      (Config.fromEmptyEnv.postRestartWaitSeconds : ℚ) = 150 := by
    decide +kernel
  have hpair : ∀ time : ℚ, (150 ≤ time →
        ((CycleAnswers.calm time).withLog [signOutLine] time).window
            .fromEmptyEnv = []) →
      LoggedCycle.AgreeInWindow .fromEmptyEnv 150
        ((CycleAnswers.calm time).withLog [signOutLine] time)
        ((CycleAnswers.calm time).withLog [] time) :=
    fun _ hwindow => ⟨rfl, rfl, rfl, hwindow⟩
  have hagree : List.Forall₂ (LoggedCycle.AgreeInWindow .fromEmptyEnv
      ((stoppedCheck [signOutLine]).monotonic +
        (Config.fromEmptyEnv.postRestartWaitSeconds : ℚ)))
      (calmChecks [signOutLine] [100, 1000, 1060])
      (calmChecks [] [100, 1000, 1060]) := by
    rw [hdeadline]
    exact .cons (hpair _ (by decide +kernel)) (.cons
      (hpair _ (by decide +kernel)) (.cons (hpair _ (by decide +kernel)) .nil))
  have hverdict := verdict_of_window .fromEmptyEnv .phrases
    framedLog_answersSince
    (⟨by decide +kernel, by decide +kernel⟩ : BeginsRecovery .fromEmptyEnv
      .phrases calmStart (stoppedCheck [signOutLine]))
    (⟨by decide +kernel, by decide +kernel⟩ : BeginsRecovery .fromEmptyEnv
      .phrases calmStart (stoppedCheck [])) rfl hagree
  refine ⟨hverdict.1, (hverdict.2 (by decide) ?_).2 (by decide +kernel)⟩
  rw [hdeadline]
  intro logged hlogged hlate
  simp only [calmChecks, List.map_cons, List.map_nil, List.mem_cons,
    List.not_mem_nil, or_false] at hlogged
  rcases hlogged with rfl | rfl | rfl
  · exact absurd hlate (by decide +kernel)
  · exact seenWell_calm (by decide +kernel)
  · exact seenWell_calm (by decide +kernel)

end TeslamateWatchdog
