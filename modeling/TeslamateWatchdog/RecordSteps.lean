/-
`record` as the steps between which the process can be killed.  How the temporary
file is written is a parameter: all of a document, or a character at a time.
-/
import TeslamateWatchdog.HistoryFile

namespace TeslamateWatchdog

open Foundation

/-- How a document gets into the temporary file: what the file holds one step
after the other, and at the end. -/
structure FileWriting (F : Type) where
  stages : Json → List F
  whole : Json → F
  ends : ∀ document, (stages document).getLast? = some (whole document)

inductive RecordStep where
  | append
  | prune
  | write (stage : ℕ)
  | rename
deriving Repr, DecidableEq

/-- The history in memory, the file behind it, and the temporary file. -/
structure RecordPoint (F : Type) where
  history : List RestartRecord
  file : F
  temporary : F
deriving Repr, DecidableEq

namespace RecordStep

variable {F : Type} (writing : FileWriting F) (state : State)
  (reason : String) (now : ℚ)

def apply (point : RecordPoint F) : RecordStep → RecordPoint F
  | .append =>
      { point with
        history := point.history ++ [⟨.finite now, state.value, reason⟩] }
  | .prune =>
      { point with history := RestartManager.pruned now point.history }
  | .write stage =>
      match RestartManager.payload point.history with
      | .ok document =>
          { point with
            temporary :=
              (writing.stages document)[stage]?.getD point.temporary }
      | .error _ => point
  | .rename => { point with file := point.temporary }

/-- The history that `record` saves. -/
def recordedHistory (history : List RestartRecord) : List RestartRecord :=
  RestartManager.pruned now
    (history ++ [⟨.finite now, state.value, reason⟩])

/-- The steps of `record`: it raises before it writes when a time stamp cannot be
printed. -/
def ofRecord (history : List RestartRecord) : List RecordStep :=
  [.append, .prune] ++
    match RestartManager.payload (recordedHistory state reason now history) with
    | .ok document =>
        (List.range (writing.stages document).length).map .write ++ [.rename]
    | .error _ => []

/-- Where the first `reached` steps of a record lead. -/
def after (point : RecordPoint F) (reached : ℕ) : RecordPoint F :=
  ((ofRecord writing state reason now point.history).take reached).foldl
    (apply writing state reason now) point

variable {writing state reason now} {point : RecordPoint F}
  {history : List RestartRecord} {document : Json} {error : PyError}
  {reached : ℕ}

theorem ofRecord_of_payload (hpayload : RestartManager.payload
      (recordedHistory state reason now history) = .ok document) :
    ofRecord writing state reason now history =
      .append :: .prune ::
        (List.range (writing.stages document).length).map .write ++
          [.rename] := by
  rw [ofRecord, hpayload]
  rfl

theorem ofRecord_of_unprintable (hpayload : RestartManager.payload
      (recordedHistory state reason now history) = .error error) :
    ofRecord writing state reason now history = [.append, .prune] := by
  rw [ofRecord, hpayload]
  rfl

/-- The temporary file goes through its stages. -/
theorem foldl_write
    (hpayload : RestartManager.payload point.history = .ok document)
    (length : ℕ) :
    ((List.range length).map RecordStep.write).foldl
        (apply writing state reason now) point =
      { point with
        temporary :=
          ((writing.stages document).take length).getLastD point.temporary } := by
  induction length with
  | zero => rfl
  | succ length ih =>
      rw [List.range_succ, List.map_append, List.foldl_append, ih,
        List.map_singleton, List.foldl_cons, List.foldl_nil, apply, hpayload,
        List.take_add_one]
      cases hstage : (writing.stages document)[length]? with
      | none => simp [hstage]
      | some stage => simp [hstage]

theorem foldl_written
    (hpayload : RestartManager.payload point.history = .ok document) :
    ((List.range (writing.stages document).length).map
        RecordStep.write).foldl (apply writing state reason now) point =
      { point with temporary := writing.whole document } := by
  rw [foldl_write hpayload, List.take_length, List.getLastD_eq_getLast?,
    writing.ends, Option.getD_some]

/-- The file changes under the rename alone. -/
theorem file_apply {step : RecordStep} (hstep : step ≠ .rename)
    (point : RecordPoint F) :
    (step.apply writing state reason now point).file = point.file := by
  cases step with
  | rename => exact absurd rfl hstep
  | write stage =>
      rw [apply]
      cases RestartManager.payload point.history <;> rfl
  | _ => rfl

/-- The rename is the last step. -/
theorem rename_not_mem
    (hreached : reached < (ofRecord writing state reason now history).length) :
    .rename ∉ (ofRecord writing state reason now history).take reached := by
  intro hmem
  cases hpayload : RestartManager.payload
      (recordedHistory state reason now history) with
  | error error =>
      rw [ofRecord_of_unprintable hpayload] at hmem
      have hearly := List.mem_of_mem_take hmem
      simp at hearly
  | ok document =>
      rw [ofRecord_of_payload hpayload] at hmem hreached
      rw [List.length_append, List.length_singleton] at hreached
      rw [List.take_append_of_le_length (Nat.le_of_lt_succ hreached)] at hmem
      have hearly := List.mem_of_mem_take hmem
      simp at hearly

/-- It comes after a document that could be printed, and all of it. -/
theorem complete_of_rename_mem (hrename :
      .rename ∈ (ofRecord writing state reason now history).take reached) :
    (∃ document, RestartManager.payload
        (recordedHistory state reason now history) = .ok document) ∧
      (ofRecord writing state reason now history).length ≤ reached := by
  refine ⟨?_, Nat.not_lt.mp fun hearly => rename_not_mem hearly hrename⟩
  cases hpayload : RestartManager.payload
      (recordedHistory state reason now history) with
  | ok document => exact ⟨document, rfl⟩
  | error error =>
      rw [ofRecord_of_unprintable hpayload] at hrename
      have hmem := List.mem_of_mem_take hrename
      simp at hmem

/-- Before the last step the old file is in place. -/
theorem file_after (hreached :
      reached < (ofRecord writing state reason now point.history).length) :
    (after writing state reason now point reached).file = point.file := by
  apply foldl_keeps RecordPoint.file
  rintro step hstep before
  refine file_apply ?_ before
  rintro rfl
  exact rename_not_mem hreached hstep

/-- After it, all of the new one. -/
theorem after_saved (hpayload : RestartManager.payload
      (recordedHistory state reason now point.history) = .ok document)
    (hreached :
      (ofRecord writing state reason now point.history).length ≤ reached) :
    after writing state reason now point reached =
      ⟨recordedHistory state reason now point.history,
        writing.whole document, writing.whole document⟩ := by
  rw [after, List.take_of_length_le hreached, ofRecord_of_payload hpayload,
    List.cons_append, List.cons_append, List.foldl_cons, List.foldl_cons,
    List.foldl_append, foldl_written hpayload]
  rfl

theorem after_unprintable (hpayload : RestartManager.payload
      (recordedHistory state reason now point.history) = .error error)
    (hreached :
      (ofRecord writing state reason now point.history).length ≤ reached) :
    after writing state reason now point reached =
      { point with
        history := recordedHistory state reason now point.history } := by
  rw [after, List.take_of_length_le hreached, ofRecord_of_unprintable hpayload]
  rfl

end RecordStep

/-- Whole documents.  The temporary file is there, and unfinished, before all of
it is written. -/
def documentWriting : FileWriting HistoryFile where
  stages document := [.unreadable, .json document]
  whole := .json
  ends _ := rfl

def RecordPoint.manager (point : RecordPoint HistoryFile) : RestartManager :=
  ⟨point.history, point.file⟩

/-- The manager before a record. -/
def RestartManager.point (manager : RestartManager) : RecordPoint HistoryFile :=
  ⟨manager.history, manager.file, .missing⟩

namespace RecordStep

variable {state : State} {reason : String} {now : ℚ} {before : RestartManager}
  {reached : Nat}

/-- All the steps together are `record`. -/
theorem manager_after (hreached : (ofRecord documentWriting state reason now
      before.history).length ≤ reached) :
    (after documentWriting state reason now before.point reached).manager =
      (before.record state reason now true).2 := by
  cases hpayload : RestartManager.payload
      (recordedHistory state reason now before.history) with
  | ok document =>
      rw [RestartManager.record_of_payload hpayload,
        @after_saved _ _ _ _ _ before.point _ _ hpayload hreached]
      rfl
  | error error =>
      rw [RestartManager.record_of_unprintable hpayload,
        @after_unprintable _ _ _ _ _ before.point _ _ hpayload hreached]
      rfl

/-- A killed record has left the old file, or all of the new one. -/
theorem file_killed (reached : Nat) :
    (after documentWriting state reason now before.point reached).file =
        before.file ∨
      (after documentWriting state reason now before.point reached).file =
          (before.record state reason now true).2.file ∧
        (before.record state reason now true).1.isOk = true := by
  by_cases hreached :
      (ofRecord documentWriting state reason now before.history).length ≤ reached
  · have hfile := congrArg RestartManager.file
      (@manager_after state reason now before reached hreached)
    cases hpayload : RestartManager.payload
        (recordedHistory state reason now before.history) with
    | ok document =>
        refine .inr ⟨hfile, ?_⟩
        rw [RestartManager.record_of_payload hpayload]
        rfl
    | error error =>
        left
        rw [RestartManager.record_of_unprintable hpayload] at hfile
        exact hfile
  · exact .inl (file_after (Nat.not_le.mp hreached))

end RecordStep

end TeslamateWatchdog
