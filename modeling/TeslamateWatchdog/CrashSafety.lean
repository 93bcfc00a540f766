/-
Killing the process inside `begin`.  The call is taken apart into the steps
between which it can be killed; what a new process remembers of the restart is
what those steps have put on disk.
-/
import TeslamateWatchdog.CheckLoop
import TeslamateWatchdog.RecordSteps

namespace TeslamateWatchdog

open Foundation

/-- The steps of `begin` that leave a trace outside the process, and those of
`record`. -/
inductive BeginStep where
  | publishStarted
  | engineAccepts
  | postReturns
  | publishExecuted
  | record (step : RecordStep)
deriving Repr, DecidableEq

def RestartCall.succeeded (call : RestartCall) : Bool :=
  match call.result with
  | .ok (success, _) => success
  | .error _ => false

namespace BeginStep

variable (answers : CycleAnswers) (transition : Transition)

def entry : RestartRecord :=
  ⟨.finite answers.recordAt, transition.current.value, transition.reason⟩

/-- The history that `record` saves. -/
def recordedHistory (before : RestartManager) : List RestartRecord :=
  RecordStep.recordedHistory transition.current transition.reason
    answers.recordAt before.history

/-- What a step does when it is reached, given that writing works.  Those before
the record leave the manager alone. -/
def apply (point : RecordPoint HistoryFile) :
    BeginStep → RecordPoint HistoryFile
  | .record step =>
      step.apply documentWriting transition.current transition.reason
        answers.recordAt point
  | _ => point

/-- Where the steps lead. -/
def after (before : RestartManager) (steps : List BeginStep) :
    RecordPoint HistoryFile :=
  steps.foldl (apply answers transition) before.point

/-- The steps up to the report of the restart.  `accepted` tells whether the
engine carries out the POST; the client may not learn of it. -/
def ofCall (config : Config) (accepted : Bool) : List BeginStep :=
  [.publishStarted] ++
    (if (restartCall config answers).posted.isSome then
      (if accepted then [.engineAccepts] else []) ++ [.postReturns]
    else []) ++
    if (restartCall config answers).result.isOk then [.publishExecuted] else []

/-- The steps of `record`. -/
def ofRecord (before : RestartManager) : List RecordStep :=
  RecordStep.ofRecord documentWriting transition.current transition.reason
    answers.recordAt before.history

/-- The steps of one call of `begin`. -/
def ofBegin (config : Config) (accepted : Bool) (before : RestartManager) :
    List BeginStep :=
  ofCall answers config accepted ++
    if (restartCall config answers).succeeded then
      (ofRecord answers transition before).map .record
    else []

variable {answers transition} {config : Config} {accepted : Bool}
  {before : RestartManager} {point : RecordPoint HistoryFile}
  {steps : List BeginStep} {reached : ℕ}

theorem ofCall_not_record {step : RecordStep} :
    .record step ∉ ofCall answers config accepted := by
  intro hstep
  rcases List.mem_append.mp hstep with hposting | hexecuted
  · rcases List.mem_append.mp hposting with hstarted | hposted
    · cases List.mem_singleton.mp hstarted
    · split at hposted
      · rcases List.mem_append.mp hposted with haccepted | hreturned
        · split at haccepted
          · cases List.mem_singleton.mp haccepted
          · cases haccepted
        · cases List.mem_singleton.mp hreturned
      · cases hposted
  · split at hexecuted
    · cases List.mem_singleton.mp hexecuted
    · cases hexecuted

/-- The call leaves the manager as it was. -/
theorem foldl_ofCall :
    ((ofCall answers config accepted).take reached).foldl
      (apply answers transition) point = point := by
  apply foldl_keeps id
  intro step hstep reached
  cases step with
  | record step =>
      exact absurd (List.mem_of_mem_take hstep) ofCall_not_record
  | _ => rfl

theorem foldl_record (steps : List RecordStep) :
    (steps.map BeginStep.record).foldl (apply answers transition) point =
      steps.foldl (RecordStep.apply documentWriting transition.current
        transition.reason answers.recordAt) point := by
  rw [List.foldl_map]
  rfl

/-- How far the record of a killed call came. -/
def recorded (answers : CycleAnswers) (config : Config) (accepted : Bool)
    (reached : ℕ) : ℕ :=
  reached - (ofCall answers config accepted).length

theorem after_take
    (hsucceeded : (restartCall config answers).succeeded = true) :
    after answers transition before
        ((ofBegin answers transition config accepted before).take reached) =
      RecordStep.after documentWriting transition.current transition.reason
        answers.recordAt before.point
        (recorded answers config accepted reached) := by
  rw [after, ofBegin, if_pos hsucceeded, List.take_append, List.foldl_append,
    foldl_ofCall, ← List.map_take, foldl_record]
  rfl

theorem after_take_of_failed
    (hfailed : ¬(restartCall config answers).succeeded = true) :
    after answers transition before
        ((ofBegin answers transition config accepted before).take reached) =
      before.point := by
  rw [after, ofBegin, if_neg hfailed, List.append_nil, foldl_ofCall]

/-- All the steps together do to the manager what `begin` does. -/
theorem after_ofBegin {before next : Digest} {result : Except PyError Bool}
    (hwritten : answers.historyWritten = true)
    (hbegun : Begun config answers before transition result next) :
    (after answers transition before.restarts
      (ofBegin answers transition config accepted before.restarts)).manager =
        next.restarts := by
  have hall : ofBegin answers transition config accepted before.restarts =
      (ofBegin answers transition config accepted before.restarts).take
        (ofBegin answers transition config accepted before.restarts).length :=
    List.take_length.symm
  have hrecord : (restartCall config answers).succeeded = true →
      (after answers transition before.restarts
        (ofBegin answers transition config accepted before.restarts)).manager =
      (before.restarts.record transition.current transition.reason
        answers.recordAt answers.historyWritten).2 := by
    intro hsucceeded
    rw [hall, after_take hsucceeded, hwritten]
    apply RecordStep.manager_after
    rw [recorded, ofBegin, if_pos hsucceeded, List.length_append,
      List.length_map, Nat.add_sub_cancel_left]
    exact le_rfl
  have hsame : ¬(restartCall config answers).succeeded = true →
      (after answers transition before.restarts
        (ofBegin answers transition config accepted before.restarts)).manager =
      before.restarts := by
    intro hfailed
    rw [hall, after_take_of_failed hfailed]
    rfl
  cases hbegun with
  | raised hcall =>
      exact hsame (by rw [RestartCall.succeeded, hcall]; exact Bool.false_ne_true)
  | refused hcall =>
      exact hsame (by rw [RestartCall.succeeded, hcall]; exact Bool.false_ne_true)
  | unrecorded hcall =>
      exact hrecord (by rw [RestartCall.succeeded, hcall])
  | restarted hcall =>
      exact hrecord (by rw [RestartCall.succeeded, hcall])

/-- The rename is in reach only after a document that could be printed, and all
of the record. -/
theorem steps_of_rename_mem
    (hrename : .record .rename ∈
      (ofBegin answers transition config accepted before).take reached) :
    (restartCall config answers).succeeded = true ∧
      (∃ document,
        RestartManager.payload (recordedHistory answers transition before) =
          .ok document) ∧
      (ofRecord answers transition before).length ≤
        recorded answers config accepted reached := by
  have hsucceeded : (restartCall config answers).succeeded = true := by
    by_contra hfailed
    rw [ofBegin, if_neg hfailed, List.append_nil] at hrename
    exact ofCall_not_record (List.mem_of_mem_take hrename)
  rw [ofBegin, if_pos hsucceeded, List.take_append, ← List.map_take]
    at hrename
  rcases List.mem_append.mp hrename with hcall | hrecord
  · exact absurd (List.mem_of_mem_take hcall) ofCall_not_record
  · obtain ⟨step, hstep, hsame⟩ := List.mem_map.mp hrecord
    obtain rfl := BeginStep.record.inj hsame
    exact ⟨hsucceeded, RecordStep.complete_of_rename_mem hstep⟩

/-- Without the rename the old file is in place. -/
theorem file_of_rename_not_mem (hrename : .record .rename ∉ steps) :
    (after answers transition before steps).file = before.file := by
  apply foldl_keeps RecordPoint.file
  intro step hstep reached
  cases step with
  | record step =>
      refine RecordStep.file_apply ?_ reached
      rintro rfl
      exact hrename hstep
  | _ => rfl

/-- A record that is in reach of its end has begun. -/
theorem append_mem_of_complete
    (hsucceeded : (restartCall config answers).succeeded = true)
    (hreached : (ofRecord answers transition before).length ≤
      recorded answers config accepted reached) :
    .record .append ∈
      (ofBegin answers transition config accepted before).take reached := by
  rw [ofBegin, if_pos hsucceeded, List.take_append, ← List.map_take]
  have hwhole : (ofRecord answers transition before).take
      (reached - (ofCall answers config accepted).length) =
        ofRecord answers transition before := List.take_of_length_le hreached
  rw [hwhole]
  exact List.mem_append_right _ (List.mem_map_of_mem List.mem_cons_self)

end BeginStep

namespace RestartManager

/-- What `rebuilt` knows of the restart carried out at `acceptedAt`, from
`killedAt` on: it refuses every restart for a cooldown, and counts this one for
a day. -/
structure Recalls (config : Config) (before rebuilt : RestartManager)
    (acceptedAt killedAt : ℚ) : Prop where
  refuses : ∀ now, killedAt ≤ now →
    now < acceptedAt + config.restartCooldownSeconds →
    ∀ state databaseHealthyStreak teslaAuthReachable,
      ¬ rebuilt.Allows config state databaseHealthyStreak teslaAuthReachable now
  counts : ∀ now, killedAt ≤ now → now ≤ acceptedAt + secondsPerDay →
    rebuilt.restartsIn24h now = before.restartsIn24h now + 1

end RestartManager

namespace BeginStep

open RestartManager

/-- The wall clock of the restart and of the kill agrees with the one that
`record` reads. -/
structure Clocked (answers : CycleAnswers) (reached : List BeginStep)
    (acceptedAt killedAt : ℚ) : Prop where
  accepted : acceptedAt ≤ killedAt
  recorded : .record .append ∈ reached →
    acceptedAt ≤ answers.recordAt ∧ answers.recordAt ≤ killedAt

/-- A kill after these steps is safe: a restart that the engine carries out is
known to the next process. -/
def Survives (config : Config) (answers : CycleAnswers)
    (transition : Transition) (before : RestartManager)
    (reached : List BeginStep) : Prop :=
  ∀ acceptedAt killedAt, Clocked answers reached acceptedAt killedAt →
    .engineAccepts ∈ reached →
    ∃ rebuilt, recreate
        (after answers transition before reached).file = .ok rebuilt ∧
      Recalls config before rebuilt acceptedAt killedAt

variable {answers : CycleAnswers} {transition : Transition} {config : Config}
  {accepted : Bool} {before : RestartManager} {document : Json}
  {acceptedAt killedAt : ℚ}

/-- The history that was written recalls the restart. -/
theorem recalls_of_written
    (hpayload : payload (recordedHistory answers transition before) =
      .ok document)
    (haccepted : acceptedAt ≤ answers.recordAt)
    (hkilled : answers.recordAt ≤ killedAt) :
    Recalls config before
      ⟨(recordedHistory answers transition before).insertionSort NotBefore,
        .json document⟩ acceptedAt killedAt where
  refuses := by
    intro now _ hcooling state databaseHealthyStreak teslaAuthReachable hallows
    have hremembers : Remembers
        ⟨(recordedHistory answers transition before).insertionSort NotBefore,
          .json document⟩ _ now :=
      remembers_of_chronological
        (chronological_sorted (finite_of_payload hpayload)) now
    have hadmits := admits_of_guarded hremembers le_rfl
      (allows_iff_guarded.mp hallows)
    have hlogged : entry answers transition ∈
        recordedHistory answers transition before := by
      rw [recordedHistory, RecordStep.recordedHistory,
        pruned_concat before.history _ _ rfl]
      exact List.mem_append_right _ (List.mem_singleton_self _)
    have hgap := hadmits.gap_passed answers.recordAt
      ((List.mem_insertionSort (· ≤ ·)).mpr
        (List.mem_map.mpr ⟨_, hlogged, rfl⟩))
    linarith
  counts := by
    intro now hnow hday
    have hkept := @restartsIn24h_pruned answers.recordAt now
      (before.history ++ [entry answers transition]) (.json document)
      (hkilled.trans hnow)
    have hrecent : now - secondsPerDay ≤ answers.recordAt := by linarith
    calc restartsIn24h
          ⟨(recordedHistory answers transition before).insertionSort NotBefore,
            .json document⟩ now
        = restartsIn24h ⟨recordedHistory answers transition before,
            .json document⟩ now :=
          (List.perm_insertionSort NotBefore _).countP_eq _
      _ = restartsIn24h ⟨before.history ++ [entry answers transition],
            .json document⟩ now := hkept
      _ = before.restartsIn24h now + 1 := by
          simp [restartsIn24h, entry, hrecent]

/-- What the old file holds does not recall the restart. -/
theorem not_recalls_of_saved (hsaved : before.Saved) {rebuilt : RestartManager}
    (hrebuilt : recreate before.file = .ok rebuilt) {now : ℚ} :
    ¬ Recalls config before rebuilt now now := by
  intro hrecalls
  obtain ⟨loaded, hload, hperm⟩ := hsaved
  unfold recreate at hrebuilt
  rw [hload] at hrebuilt
  obtain rfl := Except.ok.inj hrebuilt
  have hsame : restartsIn24h ⟨loaded, before.file⟩ now =
      before.restartsIn24h now := hperm.countP_eq _
  have hday : (0 : ℚ) ≤ secondsPerDay := Nat.cast_nonneg _
  have hcounts := hrecalls.counts now le_rfl (by linarith)
  change restartsIn24h ⟨loaded, before.file⟩ now = _ at hcounts
  omega

/-- Wherever `begin` is killed, the next process knows of a restart that was
carried out exactly when the history file was renamed before the kill. -/
theorem survives_iff (config : Config) (answers : CycleAnswers)
    (transition : Transition) (accepted : Bool) {before : RestartManager}
    (hsaved : before.Saved) (reached : ℕ) :
    Survives config answers transition before
        ((ofBegin answers transition config accepted before).take reached) ↔
      .engineAccepts ∉
          (ofBegin answers transition config accepted before).take reached ∨
        .record .rename ∈
          (ofBegin answers transition config accepted before).take reached := by
  constructor
  · intro hsurvives
    by_contra hneither
    obtain ⟨hcarried, hrename⟩ := not_or.mp hneither
    obtain ⟨rebuilt, hrebuilt, hrecalls⟩ := hsurvives answers.recordAt
      answers.recordAt ⟨le_rfl, fun _ => ⟨le_rfl, le_rfl⟩⟩
      (not_not.mp hcarried)
    rw [file_of_rename_not_mem hrename] at hrebuilt
    exact not_recalls_of_saved hsaved hrebuilt hrecalls
  · rintro (huncarried | hrename) acceptedAt killedAt hclocked hcarried
    · exact absurd hcarried huncarried
    · obtain ⟨hsucceeded, ⟨document, hpayload⟩, hreached⟩ :=
        steps_of_rename_mem hrename
      obtain ⟨haccepted, hkilled⟩ :=
        hclocked.recorded (append_mem_of_complete hsucceeded hreached)
      refine ⟨_, ?_, recalls_of_written hpayload haccepted hkilled⟩
      rw [after_take hsucceeded, @RecordStep.after_saved _ _ _ _ _
        before.point _ _ hpayload hreached]
      have hloaded := load_payload_sorted hpayload
      rw [recreate]
      exact congrArg (· >>= _) hloaded

/-- Signed out, with the auth host reachable. -/
def signedOut : Transition := ⟨.healthy, .loggedOut, "sign-in page"⟩

/-- Killed while the POST is being answered, the watchdog starts again with an
empty history and may restart TeslaMate at once. -/
theorem restart_forgotten :
    let reached := (ofBegin (.calm 0) signedOut .fromEmptyEnv true
      ⟨[], .missing⟩).take 2
    .engineAccepts ∈ reached ∧
      (∃ rebuilt, recreate (after (.calm 0) signedOut ⟨[], .missing⟩
          reached).file = .ok rebuilt ∧
        rebuilt.Allows .fromEmptyEnv .loggedOut 2 (some true) 1) ∧
      ¬ Survives .fromEmptyEnv (.calm 0) signedOut ⟨[], .missing⟩ reached := by
  intro reached
  have hallowed : (⟨[], .missing⟩ : RestartManager).Allows .fromEmptyEnv
      .loggedOut 2 (some true) 1 :=
    allows_iff_guarded.mpr ⟨by decide, by decide, by decide, le_rfl,
      by decide +kernel, by decide +kernel⟩
  have hcarried : .engineAccepts ∈ reached := by decide +kernel
  refine ⟨hcarried, ⟨⟨[], .missing⟩, rfl, hallowed⟩, fun hsurvives => ?_⟩
  obtain ⟨rebuilt, hrebuilt, hrecalls⟩ := hsurvives 0 0
    ⟨le_rfl, fun _ => ⟨le_rfl, le_rfl⟩⟩ hcarried
  obtain rfl := Except.ok.inj hrebuilt
  exact hrecalls.refuses 1 (by norm_num) (by decide +kernel) _ _ _ hallowed

/-- One step more or less: renamed, the restart is known; not yet renamed, it
is not. -/
theorem survives_iff_rename :
    Survives .fromEmptyEnv (.calm 0) signedOut ⟨[], .missing⟩
        ((ofBegin (.calm 0) signedOut .fromEmptyEnv true
          ⟨[], .missing⟩).take 9) ∧
      ¬ Survives .fromEmptyEnv (.calm 0) signedOut ⟨[], .missing⟩
        ((ofBegin (.calm 0) signedOut .fromEmptyEnv true
          ⟨[], .missing⟩).take 8) :=
  ⟨(survives_iff .fromEmptyEnv (.calm 0) signedOut true
      (@saved_of_recreate _ .missing rfl) 9).mpr (by decide +kernel),
    mt (survives_iff .fromEmptyEnv (.calm 0) signedOut true
      (@saved_of_recreate _ .missing rfl) 8).mp (by decide +kernel)⟩

end BeginStep

end TeslamateWatchdog
