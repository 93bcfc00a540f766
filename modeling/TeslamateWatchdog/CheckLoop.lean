/-
The check loop.  Its runs are chains of courses, whatever the answers are and
whichever cycles raise; an invariant of the courses is an invariant of the loop.
-/
import Mathlib.Data.List.Infix
import TeslamateWatchdog.CycleCourse
import TeslamateWatchdog.Foundation.Streak
import TeslamateWatchdog.StateMachineRuns

namespace TeslamateWatchdog

open Foundation

/-- One cycle of the loop.  What it raises is logged and forgotten. -/
def cycle (config : Config) (classifier : LogClassifier) (w : Watchdog)
    (answers : CycleAnswers) : Except PyError Observation × Watchdog :=
  outcome (Watchdog.checkOnce config classifier answers) { w with trace := [] }

/-- What the cycle did, in order. -/
def cycleTrace (config : Config) (classifier : LogClassifier) (w : Watchdog)
    (answers : CycleAnswers) : List Effect :=
  (cycle config classifier w answers).2.trace

/-- The check loop, as a machine that puts out the trace of every cycle. -/
def checkLoop (config : Config) (classifier : LogClassifier) :
    Mealy Watchdog CycleAnswers Effect where
  step w answers :=
    ((cycle config classifier w answers).2,
      cycleTrace config classifier w answers)

/-- The cycle's `check_once` returns. -/
def Returns (config : Config) (classifier : LogClassifier) (w : Watchdog)
    (answers : CycleAnswers) : Prop :=
  (cycle config classifier w answers).1.isOk = true

instance (config : Config) (classifier : LogClassifier) (w : Watchdog)
    (answers : CycleAnswers) : Decidable (Returns config classifier w answers) :=
  inferInstanceAs (Decidable (_ = true))

namespace Digest

/-- The digest on a run that has already had these effects. -/
def after (past : List Effect) (digest : Digest) : Digest :=
  { digest with effects := past ++ digest.effects }

/-- The digest of a run. -/
def ofRun (run : Watchdog × List Effect) : Digest :=
  { run.1.digest with effects := run.2.filter Effect.decides }

variable (config : Config) (answers : CycleAnswers) (past : List Effect)
  (before : Digest)

theorem after_observe (observation : Observation) :
    (before.after past).observe observation =
      (before.observe observation).after past := by
  simp [after, observe]

theorem after_step (observation : Observation) :
    (before.after past).step config observation =
      (before.step config observation).after past := by
  simp [after, step]

theorem after_take (taken : Turn) :
    (before.after past).take answers taken =
      (before.take answers taken).after past := by
  cases taken <;>
    simp [after, take, setRecovery, force, emit, recoveredEvent, escalatedEvent]

variable (transition : Transition)

theorem after_request :
    (before.after past).request config answers transition =
      (before.request config answers transition).after past := by
  simp [after, request, emit]

theorem after_executed (success : Bool) (detail : String) :
    (before.after past).executed config transition success detail =
      (before.executed config transition success detail).after past := by
  simp [after, executed, emit]

theorem after_refused (detail : String) :
    (before.after past).refused detail = (before.refused detail).after past := by
  simp [after, refused, setRecovery, force, emit]

theorem after_recorded :
    (before.after past).recorded answers transition =
      (before.recorded answers transition).after past := by
  simp [after, recorded]

theorem after_held :
    (before.after past).held config answers transition =
      (before.held config answers transition).after past := by
  simp [after, held, setRecovery, force]

end Digest

variable {config : Config} {classifier : LogClassifier}
  {answers : CycleAnswers}

theorem Begun.after {before next : Digest} {transition : Transition}
    {result : Except PyError Bool}
    (hbegun : Begun config answers before transition result next)
    (past : List Effect) :
    Begun config answers (before.after past) transition result
      (next.after past) := by
  cases hbegun with
  | raised hcall =>
      rw [← Digest.after_request]
      exact .raised hcall
  | refused hcall =>
      rw [← Digest.after_refused, ← Digest.after_executed,
        ← Digest.after_request]
      exact .refused hcall
  | unrecorded hcall hrecord =>
      rw [← Digest.after_recorded, ← Digest.after_executed,
        ← Digest.after_request]
      exact .unrecorded hcall hrecord
  | restarted hcall hrecord =>
      rw [← Digest.after_held, ← Digest.after_recorded,
        ← Digest.after_executed, ← Digest.after_request]
      exact .restarted hcall hrecord

/-- A course does not look at the effects behind it. -/
theorem Course.after {before next : Digest} {returned : Bool}
    (hcourse : Course config classifier answers before returned next)
    (past : List Effect) :
    Course config classifier answers (before.after past) returned
      (next.after past) := by
  cases hcourse with
  | blind hgather => exact .blind hgather
  | recovering hgather hprogress =>
      rw [← Digest.after_take, ← Digest.after_observe]
      exact .recovering hgather hprogress
  | watching hgather hinactive =>
      rw [← Digest.after_step, ← Digest.after_observe]
      exact .watching hgather hinactive
  | restarting hgather hinactive htransition hcleared hbegun hreturned =>
      refine .restarting hgather hinactive htransition ?_ ?_ hreturned
      · exact hcleared
      · rw [Digest.after_observe, Digest.after_step]
        exact hbegun.after past

/-- The digest a cycle starts from: its trace is still empty. -/
def Watchdog.fresh (w : Watchdog) : Digest :=
  { w.digest with effects := [] }

/-- The digest a cycle ends with, its own trace alone. -/
def cycleDigest (config : Config) (classifier : LogClassifier) (w : Watchdog)
    (answers : CycleAnswers) : Digest :=
  (cycle config classifier w answers).2.digest

theorem cycle_course (config : Config) (classifier : LogClassifier)
    (w : Watchdog) (answers : CycleAnswers) :
    Course config classifier answers w.fresh
      (cycle config classifier w answers).1.isOk
      (cycleDigest config classifier w answers) := by
  obtain ⟨result, after, hresult, hcourse⟩ :=
    checkOnce_course config classifier answers { w with trace := [] }
  rw [cycleDigest, cycle, hresult]
  exact hcourse

/-- A cycle on a run is a course from the digest of the run so far. -/
theorem feed_course (config : Config) (classifier : LogClassifier)
    (run : Watchdog × List Effect) (answers : CycleAnswers) :
    Course config classifier answers (Digest.ofRun run)
      (cycle config classifier run.1 answers).1.isOk
      (Digest.ofRun ((checkLoop config classifier).feed run answers)) := by
  have hcourse := (cycle_course config classifier run.1 answers).after
    (run.2.filter Effect.decides)
  have hstart : run.1.fresh.after (run.2.filter Effect.decides) =
      Digest.ofRun run := by
    simp [Watchdog.fresh, Digest.after, Digest.ofRun]
  have hend : (cycleDigest config classifier run.1 answers).after
        (run.2.filter Effect.decides) =
      Digest.ofRun ((checkLoop config classifier).feed run answers) := by
    simp [cycleDigest, Digest.after, Digest.ofRun, Mealy.feed, checkLoop,
      cycleTrace, Watchdog.digest]
  rw [hstart, hend] at hcourse
  exact hcourse

/-- What holds at the start and along every course that meets the condition
holds of every run. -/
theorem loop_induction {condition : Watchdog → CycleAnswers → Prop}
    {property : List CycleAnswers → Digest → Prop} {start : Watchdog}
    (hstart : property [] (Digest.ofRun (start, [])))
    (hstep : ∀ inputs w answers before next,
      condition w answers → property inputs before →
      Course config classifier answers before
        (cycle config classifier w answers).1.isOk next →
      property (inputs ++ [answers]) next)
    (inputs : List CycleAnswers)
    (halong : (checkLoop config classifier).Along condition start inputs) :
    property inputs
      (Digest.ofRun ((checkLoop config classifier).run start inputs)) := by
  have hrun := @Mealy.run_induction _ _ _ (checkLoop config classifier)
    condition start (fun inputs w effects =>
      property inputs (Digest.ofRun (w, effects))) hstart
    (fun inputs answers hbefore hcondition =>
      hstep inputs _ answers _ _ hcondition hbefore
        (feed_course config classifier _ answers)) inputs halong
  exact hrun

/-- No expression at all: the log is not even read. -/
def LogClassifier.withoutPatterns : LogClassifier := ⟨[], [], List.nodup_nil⟩

/-- `re.search` of an expression without operators, ignoring case. -/
def phrase (text : String) : Pattern := fun line =>
  text.toList.map Char.toLower <:+: line.toList.map Char.toLower

/-- Two one-phrase categories of the shipped patterns. -/
def LogClassifier.phrases : LogClassifier where
  patterns := [("auth_lost", [phrase "Error / not_signed_in"]),
    ("token_decryption", [phrase "Could not decrypt API tokens"])]
  customThresholds := []
  patterns_nodup := by decide

/-- A running container whose healthcheck passes. -/
def ContainerStatus.well (name : String) : ContainerStatus where
  found := true
  running := some true
  status := .str "running"
  health := .str "healthy"
  ref := some ⟨.str "4f66ad9a0b2e", name, .null⟩

/-- A cycle in which everything answers and is well, at one moment. -/
def CycleAnswers.calm (time : ℚ) : CycleAnswers where
  check := .ok { category := .authenticated, statusCode := some 200 }
  loggerHealth := ⟨some true, false, "healthy"⟩
  status name := .ok (.well name)
  connect _ _ _ := .connected
  logs _ _ := .ok ""
  diagnosticLogs _ _ := .ok ""
  writeBundle _ := .ok none
  listing := .body (.arr [.obj [("Id", .str "4f66ad9a0b2e"),
    ("Names", .arr [.str "/teslamate"])]])
  post := .response 204 ""
  historyWritten := true
  evaluateAt := time
  captureAt := time
  postAt := time
  recordAt := time
  finishAt := time
  publishAt := time
  monotonic := time
  failureIso := ""
  checkIso := ""

/-- The same moment, with the TeslaMate container stopped. -/
def CycleAnswers.stopped (time : ℚ) : CycleAnswers :=
  { calm time with
    status := fun name =>
      .ok { ContainerStatus.well name with
        running := some (name != "teslamate") } }

/-- The sign-in page is served, and Tesla's auth host connects or does not. -/
def CycleAnswers.signedOut (time : ℚ) (authReachable : Bool) : CycleAnswers :=
  { calm time with
    check := .ok { category := .loggedOut, statusCode := some 302 }
    connect := fun _ _ _ =>
      if authReachable then .connected else .osError "timed out" }

end TeslamateWatchdog
