/-
What the status topics tell of the restarts: after any run, the restarts that
the events reported, and no other, are counted and dated.
-/
import TeslamateWatchdog.RecoveryProtocol
import TeslamateWatchdog.RunHistory
import TeslamateWatchdog.TraceRules

namespace TeslamateWatchdog

open Foundation

/-- The restarts of which the events say that they were carried out. -/
def reportedRestarts (effects : List Effect) : Nat :=
  (recoveryEvents effects).count (.executed true)

/-- The restarts of the last 24 hours, as the topic counts them. -/
def restartCountText (times : List ℚ) (now : ℚ) : String :=
  toString (times.countP fun time => now - secondsPerDay ≤ time)

/-- When the last restart was, as the topic shows it. -/
def lastRestartText (times : List ℚ) : Except PyError String :=
  times.getLast?.elim (.ok payloadUnset) fun time =>
    PyTime.isoFromTimestamp (.finite time)

variable {config : Config} {classifier : LogClassifier}
  {answers : CycleAnswers}

/-- A turn of the recovery reports no restart. -/
theorem reportedRestarts_take (before : Digest) (taken : Turn) :
    reportedRestarts (before.take answers taken).effects =
      reportedRestarts before.effects := by
  cases taken <;>
    simp [Digest.take, Digest.recoveredEvent, Digest.escalatedEvent,
      reportedRestarts]

/-- As many restarts are on record as were reported. -/
def Accounted (digest : Digest) : Prop :=
  (recordedTimes digest.effects).length = reportedRestarts digest.effects

theorem Begun.accounted {before next : Digest} {transition : Transition}
    {result : Except PyError Bool}
    (hbegun : Begun config answers before transition result next)
    (hbefore : Accounted before) : Accounted next := by
  unfold Accounted at hbefore ⊢
  cases hbegun with
  | raised hcall => simpa [Digest.request, reportedRestarts] using hbefore
  | refused hcall => simpa [Digest.request, reportedRestarts] using hbefore
  | unrecorded hcall hrecord =>
      simpa [Digest.request, reportedRestarts] using hbefore
  | restarted hcall hrecord =>
      simpa [Digest.request, reportedRestarts] using hbefore

theorem Course.accounted {before next : Digest} {returned : Bool}
    (hcourse : Course config classifier answers before returned next)
    (hbefore : Accounted before) : Accounted next := by
  cases hcourse with
  | blind hgather => exact hbefore
  | recovering hgather hprogress =>
      rw [Accounted, reportedRestarts_take, recordedTimes,
        collect_take _ (fun _ _ => rfl) (fun _ => rfl)]
      simpa [Accounted, reportedRestarts] using hbefore
  | watching hgather hinactive =>
      simpa [Accounted, reportedRestarts] using hbefore
  | restarting hgather hinactive htransition hcleared hbegun =>
      refine hbegun.accounted ?_
      simpa [Accounted, reportedRestarts] using hbefore

/-- A run puts as many restarts on record as it reports. -/
theorem run_accounted (config : Config) (classifier : LogClassifier)
    (restarts : RestartManager) (inputs : List CycleAnswers) :
    (recordedTimes ((checkLoop config classifier).run (.build restarts)
        inputs).2).length =
      reportedRestarts ((checkLoop config classifier).run (.build restarts)
        inputs).2 := by
  have hrun := @loop_induction config classifier (fun _ _ => True)
    (fun _ => Accounted) (.build restarts) rfl
    (fun _ _ _ _ _ _ hbefore hcourse => hcourse.accounted hbefore) inputs
    (Mealy.along_of_forall (fun _ _ => trivial) inputs)
  rw [Accounted, Digest.ofRun, recordedTimes_decides, reportedRestarts,
    recoveryEvents_decides] at hrun
  exact hrun

/-- The status is published last. -/
theorem wallClocks_le_publishAt {inputs : List CycleAnswers}
    (hclock : (wallClocks (inputs ++ [answers])).Pairwise (· ≤ ·)) :
    ∀ reading ∈ wallClocks (inputs ++ [answers]),
      reading ≤ answers.publishAt := by
  have hlast : wallClocks (inputs ++ [answers]) =
      (wallClocks inputs ++ answers.wallClock.dropLast) ++
        [answers.publishAt] := by
    rw [wallClocks_concat, List.append_assoc]
    rfl
  rw [hlast] at hclock ⊢
  intro reading hreading
  rcases List.mem_append.mp hreading with hfront | hend
  · exact (List.pairwise_append.mp hclock).2.2 reading hfront _
      (List.mem_singleton_self _)
  · exact le_of_eq (List.mem_singleton.mp hend)

section Topics

variable {manager : RestartManager} {times : List ℚ} {clock : ℚ}
  {lastRestart : Option String}

theorem isoFormat_ne_empty (micros : Int) : PyTime.isoFormat micros ≠ "" := by
  intro hempty
  have hlength := congrArg String.length hempty
  simp [PyTime.isoFormat] at hlength

theorem isoFromTimestamp_ne_empty {stamp : PyFloat} {text : String}
    (hiso : PyTime.isoFromTimestamp stamp = .ok text) : text ≠ "" := by
  cases stamp with
  | finite seconds =>
      rw [PyTime.isoFromTimestamp] at hiso
      split at hiso
      · obtain rfl := Except.ok.inj hiso
        exact isoFormat_ne_empty _
      · split at hiso
        · cases hiso
        · split at hiso <;> cases hiso
  | _ => cases hiso

/-- The manager shows the last restart of the log it remembers. -/
theorem lastRestartText_of_remembers
    (hremembers : manager.Remembers times clock)
    (hlast : manager.lastRestartIso = .ok lastRestart) :
    lastRestartText times =
      .ok (textOr (lastRestart.getD "") payloadUnset) := by
  have htimes := hremembers.last
  unfold RestartManager.lastRestartIso at hlast
  unfold lastRestartText
  cases hrecord : manager.lastRestart with
  | none =>
      rw [hrecord] at hlast htimes
      obtain rfl := Except.ok.inj hlast
      rw [Option.map_eq_none_iff.mp htimes.symm]
      rfl
  | some record =>
      rw [hrecord] at hlast htimes
      obtain ⟨time, hgetLast, hstamp⟩ := Option.map_eq_some_iff.mp htimes.symm
      rw [hgetLast, Option.elim_some, hstamp]
      dsimp only at hlast ⊢
      cases hiso : PyTime.isoFromTimestamp record.atTime with
      | error error =>
          rw [hiso] at hlast
          cases hlast
      | ok text =>
          rw [hiso] at hlast
          obtain rfl := Except.ok.inj hlast
          rw [Option.getD_some, textOr,
            if_neg (isoFromTimestamp_ne_empty hiso)]

end Topics

/-- After any run, and whatever the history was before it, a cycle that returns
publishes the number of restarts recorded in the last 24 hours and the time of
the last one; and what was recorded since the start are the restarts of which
the events said that they were carried out, none more and none less. -/
theorem status_tells_restarts (config : Config) (classifier : LogClassifier)
    {restarts : RestartManager} {times : List ℚ}
    (hhistory : RestartManager.Chronological restarts.history times)
    (inputs : List CycleAnswers) (answers : CycleAnswers)
    (hclock : (wallClocks (inputs ++ [answers])).Pairwise (· ≤ ·))
    (hreturns : Returns config classifier ((checkLoop config classifier).run
      (.build restarts) inputs).1 answers) :
    let effects := ((checkLoop config classifier).run (.build restarts)
      (inputs ++ [answers])).2
    let recorded := times ++ recordedTimes effects
    recorded.length = times.length + reportedRestarts effects ∧
      ∃ front values, effects = front ++ [.status values] ∧
        ("restart_count_24h", restartCountText recorded answers.publishAt) ∈
          values ∧
        ∃ shown, lastRestartText recorded = .ok shown ∧
          ("last_restart", shown) ∈ values := by
  intro effects recorded
  have hremembers := @run_remembers config classifier restarts times hhistory
    (inputs ++ [answers]) hclock answers.publishAt (wallClocks_le_publishAt hclock)
  constructor
  · rw [List.length_append, run_accounted]
  · let w := ((checkLoop config classifier).run (.build restarts) inputs).1
    have hreturned : (cycle config classifier w answers).1.isOk = true :=
      hreturns
    cases houtcome : (cycle config classifier w answers).1 with
    | error error =>
        rw [houtcome] at hreturned
        cases hreturned
    | ok observation =>
        obtain ⟨front, lastRestart, hlast, htrace⟩ :=
          @checkOnce_publishes config classifier answers { w with trace := [] }
            (cycle config classifier w answers).2 observation
            (Prod.ext houtcome rfl)
        have hrestarts : ((checkLoop config classifier).run (.build restarts)
            (inputs ++ [answers])).1 =
            (cycle config classifier w answers).2 := by
          rw [Mealy.run_concat]
          rfl
        have heffects : effects = ((checkLoop config classifier).run
            (.build restarts) inputs).2 ++
              (cycle config classifier w answers).2.trace := by
          show ((checkLoop config classifier).run _ _).2 = _
          rw [Mealy.run_concat]
          rfl
        rw [hrestarts] at hremembers
        refine ⟨_, _, heffects.trans (by rw [htrace, ← List.append_assoc]), ?_,
          _, lastRestartText_of_remembers hremembers hlast, ?_⟩
        · rw [restartCountText, ← hremembers.recent answers.publishAt le_rfl]
          simp [statusValues]
        · simp [statusValues]

/-- The restart of a stopped container is counted by the same cycle. -/
theorem status_tells_restarts_stopped :
    ∃ front values, ((checkLoop .fromEmptyEnv .withoutPatterns).run
        (.build ⟨[], .missing⟩) ([.calm 0] ++ [.stopped 60])).2 =
          front ++ [.status values] ∧
      ("restart_count_24h", "1") ∈ values := by
  obtain ⟨-, front, values, heffects, hcount, -⟩ :=
    @status_tells_restarts .fromEmptyEnv .withoutPatterns ⟨[], .missing⟩ []
      ⟨rfl, .nil⟩ [.calm 0] (.stopped 60) (by decide +kernel)
      (by decide +kernel)
  refine ⟨front, values, heffects, ?_⟩
  have hone : restartCountText ([] ++ recordedTimes
      ((checkLoop .fromEmptyEnv .withoutPatterns).run (.build ⟨[], .missing⟩)
        ([.calm 0] ++ [.stopped 60])).2)
      (CycleAnswers.stopped 60).publishAt = "1" := by
    decide +kernel
  rw [hone] at hcount
  exact hcount

end TeslamateWatchdog
