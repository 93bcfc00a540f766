/-
Which failures of the file system make a capture raise, and so cost a restart
that every guard let through: the first free name cannot be looked at, or an
entry cannot when the bundle is written and the old ones are pruned.
-/
import TeslamateWatchdog.BundleTruth
import TeslamateWatchdog.DamagedHistory
import TeslamateWatchdog.DiagnosticsVolume

namespace TeslamateWatchdog

open Foundation

@[simp]
theorem mem_put (volume : Volume) (directory file content : String) (time : ℚ)
    (name : String) :
    name ∈ volume.put directory file content time ↔ name ∈ volume := by
  unfold Volume.put
  cases hentry : volume.lookup directory with
  | none => rfl
  | some entry =>
      have hmem : directory ∈ volume := by
        rw [← AList.lookup_isSome, hentry]
        rfl
      cases entry with
      | file content modified => rfl
      | directory files modified =>
          refine (AList.mem_insert volume).trans ⟨fun h => ?_, .inr⟩
          exact h.elim (fun hsame => hsame ▸ hmem) id

namespace DiagnosticsWriter

variable {faults : Faults} {clock : CaptureClock} {volume : Volume}

/-- The directory can be made, and all four files can be written. -/
def Written (faults : Faults) (volume : Volume) (name : String) : Prop :=
  faults.mkdir = false ∧
    (∀ entry, volume.lookup name = some entry → entry.isDirectory = true) ∧
    ∀ file ∈ fileNames, faults.write file = none

theorem mkdir_eq_true_iff {directory : String} :
    (mkdir faults clock directory volume).1 = true ↔
      faults.mkdir = false ∧ ∀ entry, volume.lookup directory = some entry →
        entry.isDirectory = true := by
  unfold mkdir
  by_cases hfails : faults.mkdir = true
  · simp [hfails]
  · rw [if_neg hfails]
    rw [Bool.not_eq_true] at hfails
    cases volume.lookup directory with
    | none => simp [hfails]
    | some entry =>
        cases entry with
        | file content modified => simp [Entry.isDirectory]
        | directory files modified => simp [hfails, Entry.isDirectory]

theorem mem_mkdir {directory name : String}
    (hmade : (mkdir faults clock directory volume).1 = true) :
    name ∈ (mkdir faults clock directory volume).2 ↔
      name = directory ∨ name ∈ volume := by
  unfold mkdir at hmade ⊢
  by_cases hfails : faults.mkdir = true
  · rw [if_pos hfails] at hmade
    cases hmade
  · rw [if_neg hfails] at hmade ⊢
    cases hentry : volume.lookup directory with
    | none => exact AList.mem_insert volume
    | some entry =>
        rw [hentry] at hmade
        have hmem : directory ∈ volume := by
          rw [← AList.lookup_isSome, hentry]
          rfl
        have hsame : name ∈ volume ↔ name = directory ∨ name ∈ volume :=
          ⟨.inr, fun h => h.elim (fun heq => heq ▸ hmem) id⟩
        cases entry with
        | file content modified => cases hmade
        | directory files modified => exact hsame

theorem writeFiles_eq_true_iff {directory : String}
    {bundle : List (String × String)} :
    (writeFiles faults clock directory bundle volume).1 = true ↔
      ∀ file ∈ bundle.map Prod.fst, faults.write file = none := by
  induction bundle generalizing volume with
  | nil => simp [writeFiles]
  | cons entry rest ih =>
      obtain ⟨file, content⟩ := entry
      rw [writeFiles, List.map_cons, List.forall_mem_cons]
      cases hwrite : faults.write file with
      | none => simp [ih]
      | some left => cases left <;> simp

theorem mem_writeFiles {directory name : String}
    {bundle : List (String × String)} :
    name ∈ (writeFiles faults clock directory bundle volume).2 ↔
      name ∈ volume := by
  induction bundle generalizing volume with
  | nil => rfl
  | cons entry rest ih =>
      obtain ⟨file, content⟩ := entry
      rw [writeFiles]
      cases faults.write file with
      | none => simp [ih]
      | some left => cases left <;> simp

theorem isDir_isOk_iff {name : String} {entry : Entry} :
    (isDir faults name entry).isOk = true ↔
      faults.isDir name ≠ some .denied := by
  unfold isDir
  cases faults.isDir name with
  | none => simp [Except.isOk, Except.toBool]
  | some fault => cases fault <;> simp [Except.isOk, Except.toBool]

/-- The loop ends well exactly when every entry can be looked at; what the
`try` block does plays no part. -/
theorem sweep_isOk_iff {limit : ℚ} {entries : List (Σ _ : String, Entry)}
    {removed : Nat} :
    (sweep faults limit entries removed volume).1.isOk = true ↔
      ∀ entry ∈ entries, faults.isDir entry.1 ≠ some .denied := by
  induction entries generalizing removed volume with
  | nil => simp [sweep, Except.isOk, Except.toBool]
  | cons head rest ih =>
      obtain ⟨name, entry⟩ := head
      have hlook := @isDir_isOk_iff faults name entry
      rw [sweep, List.forall_mem_cons]
      cases hdir : isDir faults name entry with
      | error error =>
          rw [hdir] at hlook
          exact iff_of_false Bool.false_ne_true fun hall =>
            Bool.false_ne_true (hlook.mpr hall.1)
      | ok isDirectory =>
          rw [hdir] at hlook
          have hseen := hlook.mp rfl
          rw [and_iff_right hseen]
          cases isDirectory with
          | false => exact ih
          | true =>
              dsimp only
              rcases expire faults limit name entry volume with
                ⟨gone, after⟩
              cases gone with
              | false => exact ih
              | true => exact ih

theorem prune_isOk_iff {writer : DiagnosticsWriter} {now : ℚ} :
    (writer.prune faults now volume).1.isOk = true ↔
      (0 < writer.retentionDays → faults.iterdir = false →
        ∀ name ∈ volume, faults.isDir name ≠ some .denied) := by
  unfold prune
  by_cases hoff : writer.retentionDays ≤ 0
  · rw [if_pos hoff]
    exact iff_of_true rfl fun hdays => absurd hoff (not_le.mpr hdays)
  · rw [if_neg hoff, imp_iff_right (not_le.mp hoff)]
    by_cases hlisting : faults.iterdir = true
    · rw [if_pos hlisting]
      refine iff_of_true rfl fun hlisted => ?_
      rw [hlisting] at hlisted
      cases hlisted
    · rw [if_neg hlisting, sweep_isOk_iff,
        imp_iff_right (Bool.not_eq_true _ ▸ hlisting)]
      constructor
      · intro hall name hname
        obtain ⟨entry, hentry, rfl⟩ := List.mem_map.mp (AList.mem_keys.mp hname)
        exact hall entry hentry
      · intro hall entry hentry
        exact hall entry.1 (AList.mem_keys.mpr (List.mem_map_of_mem hentry))

/-- The first free name can be looked at; and when the bundle is written under
it and the directory is listed for pruning, so can every entry. -/
def Undisturbed (writer : DiagnosticsWriter) (faults : Faults)
    (clock : CaptureClock) (state : State) (volume : Volume) : Prop :=
  ∀ name, FirstFree faults volume (baseName clock state) name →
    faults.present name ≠ some .denied ∧
    (Written faults volume name → 0 < writer.retentionDays →
      faults.iterdir = false → ∀ entry, entry = name ∨ entry ∈ volume →
        faults.isDir entry ≠ some .denied)

theorem FirstFree.unique {baseName first second : String}
    (hfirst : FirstFree faults volume baseName first)
    (hsecond : FirstFree faults volume baseName second) : first = second := by
  obtain ⟨left, rfl, hleft, hbelow⟩ := hfirst
  obtain ⟨right, rfl, hright, hunder⟩ := hsecond
  rcases lt_trichotomy left right with hless | rfl | hmore
  · exact absurd (hunder left hless) hleft
  · rfl
  · exact absurd (hbelow right hmore) hright

section Capture

variable {alphanumeric : Char → Bool} {floats : Json.FloatRepr}
  {writer : DiagnosticsWriter} {request : CaptureRequest} {name : String}

/-- Where a bundle cannot be written as a whole, the capture gives it up. -/
theorem capture_unwritten
    (hname : uniqueDirectory faults volume (baseName clock request.state) =
      .ok name)
    (hwritten : ¬ Written faults volume name) :
    (capture alphanumeric floats writer faults clock request volume).1 =
      .ok none := by
  rw [capture, hname]
  dsimp only
  rcases hmkdir : mkdir faults clock name volume with ⟨success, made⟩
  cases success with
  | false => rfl
  | true =>
      dsimp only
      rcases hwrite : writeFiles faults clock name
        (files alphanumeric floats clock request) made with
        ⟨success, written⟩
      cases success with
      | false => rfl
      | true =>
          have hmade := mkdir_eq_true_iff.mp (congrArg Prod.fst hmkdir)
          have hwrote := writeFiles_eq_true_iff.mp (congrArg Prod.fst hwrite)
          rw [map_fst_files] at hwrote
          exact absurd ⟨hmade.1, hmade.2, hwrote⟩ hwritten

/-- Once the bundle is written, the capture returns if pruning does; of names,
the directory has the bundle's in addition. -/
theorem capture_written
    (hname : uniqueDirectory faults volume (baseName clock request.state) =
      .ok name)
    (hwritten : Written faults volume name) :
    ∃ written : Volume,
      (∀ other, other ∈ written ↔ other = name ∨ other ∈ volume) ∧
      (capture alphanumeric floats writer faults clock request
          volume).1.isOk =
        (writer.prune faults clock.pruneAt written).1.isOk := by
  rw [capture, hname]
  dsimp only
  have hmade := (@mkdir_eq_true_iff faults clock volume name).mpr
    ⟨hwritten.1, hwritten.2.1⟩
  have hmem := fun other => @mem_mkdir faults clock volume name other hmade
  rcases hmkdir : mkdir faults clock name volume with ⟨success, made⟩
  rw [hmkdir] at hmade hmem
  obtain rfl : success = true := hmade
  dsimp only
  have hwrote := (@writeFiles_eq_true_iff faults clock made name
    (files alphanumeric floats clock request)).mpr hwritten.2.2
  have hkept := fun other => @mem_writeFiles faults clock made name other
    (files alphanumeric floats clock request)
  rcases hwrite : writeFiles faults clock name
    (files alphanumeric floats clock request) made with ⟨success, written⟩
  rw [hwrite] at hwrote hkept
  obtain rfl : success = true := hwrote
  refine ⟨written, fun other => (hkept other).trans (hmem other), ?_⟩
  dsimp only
  rcases writer.prune faults clock.pruneAt written with ⟨reply, after⟩
  cases reply <;> rfl

end Capture

/-- `DiagnosticsWriter.capture` returns exactly when nothing disturbs it. -/
theorem capture_isOk_iff (alphanumeric : Char → Bool)
    (floats : Json.FloatRepr) (writer : DiagnosticsWriter) (faults : Faults)
    (clock : CaptureClock) (request : CaptureRequest) (volume : Volume) :
    (capture alphanumeric floats writer faults clock request
        volume).1.isOk = true ↔
      Undisturbed writer faults clock request.state volume := by
  obtain ⟨tried, _, hfree, htaken⟩ :=
    exists_firstFree faults volume (baseName clock request.state)
  have hfirst : FirstFree faults volume (baseName clock request.state)
      (candidate (baseName clock request.state) tried) :=
    ⟨tried, rfl, hfree, htaken⟩
  generalize candidate (baseName clock request.state) tried = name at hfirst
  have hundisturbed : Undisturbed writer faults clock request.state volume ↔
      _ := ⟨fun hall => hall name hfirst, fun hname other hother =>
        hother.unique hfirst ▸ hname⟩
  have hfound := uniqueDirectory_eq hfirst
  rw [hundisturbed]
  by_cases hdenied : faults.present name = some .denied
  · rw [settle, if_pos hdenied] at hfound
    rw [capture, hfound]
    exact iff_of_false Bool.false_ne_true fun hboth => hboth.1 hdenied
  · rw [settle, if_neg hdenied] at hfound
    rw [and_iff_right hdenied]
    by_cases hwritten : Written faults volume name
    · obtain ⟨written, hmem, hreply⟩ := @capture_written faults clock volume
        alphanumeric floats writer request name hfound hwritten
      rw [imp_iff_right hwritten, hreply, prune_isOk_iff]
      simp only [hmem]
    · rw [capture_unwritten hfound hwritten]
      exact iff_of_true rfl fun hall => absurd hall hwritten

end DiagnosticsWriter

/-- A check cycle, with the diagnostics directory as it stands then. -/
structure WrittenCycle where
  answers : CycleAnswers
  volume : Volume
  faults : Faults
  clock : CaptureClock

section

variable (alphanumeric : Char → Bool) (floats : Json.FloatRepr)
  (writer : DiagnosticsWriter) (config : Config) (classifier : LogClassifier)

/-- The cycle's answers, with the bundle written by the writer. -/
def WrittenCycle.answered (input : WrittenCycle) : CycleAnswers :=
  { input.answers with
    writeBundle := fun request => (writer.capture alphanumeric floats
      input.faults input.clock request input.volume).1 }

/-- The loop over cycles that write. -/
def writtenLoop : Mealy Watchdog WrittenCycle Effect where
  step w input := (checkLoop config classifier).step w
    (input.answered alphanumeric floats writer)

/-- Diagnostics do not stand in the way of a restart: the capture for the
failure state entered returns, whatever else was observed before it, and a
restart that every guard lets through is asked for. -/
def Unhindered (w : Watchdog) (answers : CycleAnswers) : Prop :=
  ∀ observation transition,
    Moving config classifier w answers observation transition →
    transition.current ∈ failureStates →
    (∀ before : Watchdog, before.restarts = w.restarts →
      (outcome (RecoveryController.capture config answers transition.current
        transition.reason observation) before).1.isOk = true) ∧
    (Cleared config answers
        ((w.fresh.observe observation).step config observation) transition →
      restartCalls (cycleTrace config classifier w answers) ≠ [])

/-- The last restart has a printable time, and nothing disturbs the writer. -/
def CanCapture (w : Watchdog) (input : WrittenCycle) : Prop :=
  ∀ observation transition,
    Moving config classifier w (input.answered alphanumeric floats writer)
      observation transition →
    transition.current ∈ failureStates →
    (∀ record ∈ w.restarts.lastRestart, record.Printable) ∧
      writer.Undisturbed input.faults input.clock transition.current
        input.volume

end

section

variable {alphanumeric : Char → Bool} {floats : Json.FloatRepr}
  {writer : DiagnosticsWriter} {config : Config} {classifier : LogClassifier}
  {input : WrittenCycle}

/-- A capture returns exactly when the last restart can be printed and the
writer returns. -/
theorem captureReply_isOk_iff {restarts : RestartManager}
    {dockerState : Option DockerState} {transition : Transition}
    {observation : Observation} :
    (captureReply config (input.answered alphanumeric floats writer) restarts
        dockerState transition observation).isOk = true ↔
      (∀ record ∈ restarts.lastRestart, record.Printable) ∧
        writer.Undisturbed input.faults input.clock transition.current
          input.volume := by
  rw [← RestartManager.lastRestartIso_isOk_iff]
  unfold captureReply
  cases restarts.lastRestartIso with
  | error error =>
      exact iff_of_false Bool.false_ne_true fun hboth =>
        Bool.false_ne_true hboth.1
  | ok lastRestart =>
      rw [and_iff_right (show Except.isOk (.ok lastRestart) = true from rfl)]
      exact writer.capture_isOk_iff alphanumeric floats input.faults
        input.clock _ input.volume

theorem capture_outcome_isOk {answers : CycleAnswers} {transition : Transition}
    {observation : Observation} {w : Watchdog} :
    (outcome (RecoveryController.capture config answers transition.current
      transition.reason observation) w).1.isOk =
      (captureReply config answers w.restarts w.lastDockerState transition
        observation).isOk := by
  obtain ⟨_, houtcome, _⟩ :=
    capture_outcome config answers transition observation w
  rw [houtcome]
  cases captureReply config answers w.restarts w.lastDockerState transition
    observation <;> rfl

theorem unhindered_iff {w : Watchdog} :
    Unhindered config classifier w
        (input.answered alphanumeric floats writer) ↔
      CanCapture alphanumeric floats writer config classifier w input := by
  constructor
  · intro hfree observation transition hmoving hfailure
    have hreturns := (hfree observation transition hmoving hfailure).1 w rfl
    rw [capture_outcome_isOk, captureReply_isOk_iff] at hreturns
    exact hreturns
  · intro hcan observation transition hmoving hfailure
    have hall := hcan observation transition hmoving hfailure
    refine ⟨fun before hsame => ?_, fun hcleared => ?_⟩
    · rw [capture_outcome_isOk, hsame]
      exact captureReply_isOk_iff.mpr hall
    · obtain ⟨dockerState, hdocker, _⟩ :=
        observe_dockerState w hmoving.gathered
      exact restartCalls_iff_goesAhead.mpr ⟨observation, transition,
        dockerState, hmoving, hdocker, hcleared, captureReply_isOk_iff.mpr hall⟩

end

/-- Next to the bundles stands a link to a directory that may not be
searched. -/
def WrittenCycle.besideLink (time : ℚ) (answers : CycleAnswers) :
    WrittenCycle where
  answers := answers
  volume := AList.singleton "link" (.directory [] 0)
  faults := { Faults.none with
    isDir := fun name => if name = "link" then some .denied else none }
  clock := .still time

end TeslamateWatchdog
