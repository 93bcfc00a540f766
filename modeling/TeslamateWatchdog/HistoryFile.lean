/-
The history on disk.  What a manager has saved is what the next process loads:
an ordered history with finite times survives the round trip unchanged.
-/
import TeslamateWatchdog.Foundation.Raising
import TeslamateWatchdog.RestartLog

namespace TeslamateWatchdog

open Foundation

/-- The time of a finite time stamp. -/
def RestartRecord.seconds (record : RestartRecord) : ℚ :=
  match record.atTime with
  | .finite time => time
  | _ => 0

namespace RestartManager

variable {manager : RestartManager} {history : List RestartRecord}
  {times : List ℚ} {document item : Json} {record : RestartRecord}

theorem loadEntry_asDict (hdict : record.asDict = .ok item) :
    loadEntry item = .ok (some record) := by
  unfold RestartRecord.asDict at hdict
  obtain ⟨iso, _, hitem⟩ := bind_eq_ok.mp hdict
  obtain rfl := Except.ok.inj hitem
  rfl

theorem mapM_loadEntry {items : List Json}
    (hitems : history.mapM RestartRecord.asDict = .ok items) :
    items.mapM loadEntry = .ok (history.map some) := by
  induction history generalizing items with
  | nil =>
      obtain rfl := Except.ok.inj hitems
      rfl
  | cons record rest ih =>
      rw [List.mapM_cons] at hitems
      obtain ⟨item, hitem, hitems⟩ := bind_eq_ok.mp hitems
      obtain ⟨others, hothers, hitems⟩ := bind_eq_ok.mp hitems
      obtain rfl := Except.ok.inj hitems
      rw [List.mapM_cons, loadEntry_asDict hitem, ih hothers]
      rfl

/-- A history in order is sorted the way `sort` leaves it. -/
theorem Chronological.pairwise_notBefore
    (hhistory : Chronological history times) :
    history.Pairwise NotBefore := by
  have hstamps : (history.map (·.atTime)).Pairwise
      fun earlier later => later.lt earlier = false := by
    rw [hhistory.stamped, List.pairwise_map]
    refine hhistory.sorted.imp fun {earlier later} hle => ?_
    simpa using hle
  rwa [List.pairwise_map] at hstamps

/-- What is read back is what was written, in order. -/
theorem load_payload_sorted (hpayload : payload history = .ok document) :
    load (.json document) = .ok (history.insertionSort NotBefore) := by
  unfold payload at hpayload
  obtain ⟨items, hitems, hdocument⟩ := bind_eq_ok.mp hpayload
  obtain rfl := Except.ok.inj hdocument
  have hentries : (Json.obj [("restarts", .arr items)]).getD "restarts"
      (.arr []) = .ok (.arr items) := rfl
  have hiterate : (Json.arr items).iterate = .ok items := rfl
  simp only [load, hentries, bind, Except.bind, hiterate,
    mapM_loadEntry hitems, pure, Except.pure]
  rw [List.filterMap_map]
  exact congrArg Except.ok (congrArg _ List.filterMap_some)

/-- A history in order comes back unchanged. -/
theorem load_payload (hhistory : Chronological history times)
    (hpayload : payload history = .ok document) :
    load (.json document) = .ok history := by
  rw [load_payload_sorted hpayload,
    hhistory.pairwise_notBefore.insertionSort_eq]

section Record

variable {state : State} {reason : String} {now : ℚ} {error : PyError}

theorem save_of_payload (hpayload : payload manager.history = .ok document) :
    manager.save true =
      (.ok (), { manager with file := .json document }) := by
  unfold save
  rw [hpayload]
  rfl

theorem save_of_unprintable (hpayload : payload manager.history = .error error) :
    manager.save true = (.error error, manager) := by
  unfold save
  rw [hpayload]

theorem record_of_payload
    (hpayload : payload (pruned now
      (manager.history ++ [⟨.finite now, state.value, reason⟩])) =
        .ok document) :
    manager.record state reason now true =
      (.ok ⟨.finite now, state.value, reason⟩,
        ⟨pruned now (manager.history ++ [⟨.finite now, state.value, reason⟩]),
          .json document⟩) := by
  have hsave := @save_of_payload ((manager.append
    ⟨.finite now, state.value, reason⟩).prune now) document hpayload
  unfold record
  simp only [hsave]
  rfl

/-- A record that cannot be printed stays in memory and is not written. -/
theorem record_of_unprintable
    (hpayload : payload (pruned now
      (manager.history ++ [⟨.finite now, state.value, reason⟩])) =
        .error error) :
    manager.record state reason now true =
      (.error error, (manager.append ⟨.finite now, state.value, reason⟩).prune
        now) := by
  have hsave := @save_of_unprintable ((manager.append
    ⟨.finite now, state.value, reason⟩).prune now) error hpayload
  unfold record
  simp only [hsave]

/-- A record that returns, and was written, is on disk. -/
theorem file_of_record
    (hrecord : (manager.record state reason now true).1 = .ok record) :
    ∃ document,
      payload (manager.record state reason now true).2.history = .ok document ∧
      (manager.record state reason now true).2.file = .json document := by
  cases hpayload : payload (pruned now
      (manager.history ++ [⟨.finite now, state.value, reason⟩])) with
  | ok document =>
      rw [record_of_payload hpayload]
      exact ⟨document, hpayload, rfl⟩
  | error error =>
      rw [record_of_unprintable hpayload] at hrecord
      cases hrecord

end Record

theorem finite_of_asDict (hdict : record.asDict = .ok item) :
    ∃ time, record.atTime = .finite time := by
  unfold RestartRecord.asDict at hdict
  obtain ⟨iso, hiso, _⟩ := bind_eq_ok.mp hdict
  cases hstamp : record.atTime with
  | finite time => exact ⟨time, rfl⟩
  | _ =>
      rw [hstamp] at hiso
      cases hiso

/-- Only finite time stamps can be written. -/
theorem finite_of_payload (hpayload : payload history = .ok document) :
    ∀ record ∈ history, ∃ time, record.atTime = .finite time := by
  unfold payload at hpayload
  obtain ⟨items, hitems, _⟩ := bind_eq_ok.mp hpayload
  intro record hrecord
  obtain ⟨item, hitem⟩ := mapM_returns_iff.mp ⟨items, hitems⟩ record hrecord
  exact finite_of_asDict hitem

/-- Sorting by time stamp sorts the times. -/
theorem chronological_sorted
    (hfinite : ∀ record ∈ history, ∃ time, record.atTime = .finite time) :
    Chronological (history.insertionSort NotBefore)
      ((history.map RestartRecord.seconds).insertionSort (· ≤ ·)) where
  stamped := by
    rw [← List.map_insertionSort NotBefore (· ≤ ·) RestartRecord.seconds]
    · rw [List.map_map]
      refine List.map_congr_left fun record hrecord => ?_
      obtain ⟨time, htime⟩ :=
        hfinite record ((List.mem_insertionSort NotBefore).mp hrecord)
      simp [RestartRecord.seconds, htime]
    · intro earlier hearlier later hlater
      obtain ⟨first, hfirst⟩ := hfinite earlier hearlier
      obtain ⟨second, hsecond⟩ := hfinite later hlater
      simp [NotBefore, RestartRecord.seconds, hfirst, hsecond]
  sorted := List.pairwise_insertionSort (· ≤ ·) _

/-- The file holds the history in memory, in whatever order. -/
def Saved (manager : RestartManager) : Prop :=
  ∃ loaded, load manager.file = .ok loaded ∧ loaded.Perm manager.history

theorem saved_of_recreate {file : HistoryFile}
    (hrecreated : recreate file = .ok manager) : manager.Saved := by
  unfold recreate at hrecreated
  obtain ⟨loaded, hload, hmanager⟩ := bind_eq_ok.mp hrecreated
  obtain rfl := Except.ok.inj hmanager
  exact ⟨loaded, hload, List.Perm.refl _⟩

/-- Pruning keeps the order. -/
theorem Chronological.pruned (hhistory : Chronological history times)
    (now : ℚ) :
    Chronological (pruned now history)
      (times.filter fun time => now - historyRetentionSeconds ≤ time) := by
  refine ⟨?_, hhistory.sorted.filter _⟩
  have hfilter := congrArg (List.filter
    (PyFloat.le (.finite (now - historyRetentionSeconds)))) hhistory.stamped
  rw [List.filter_map, List.filter_map] at hfilter
  rw [RestartManager.pruned]
  exact hfilter

theorem Chronological.concat {entry : RestartRecord} {now : ℚ}
    (hhistory : Chronological history times) (hentry : entry.atTime = .finite now)
    (hpast : ∀ time ∈ times, time ≤ now) :
    Chronological (history ++ [entry]) (times ++ [now]) := by
  refine ⟨?_, List.pairwise_append.mpr
    ⟨hhistory.sorted, List.pairwise_singleton _ _, fun time htime later hlater => ?_⟩⟩
  · rw [List.map_append, List.map_append, hhistory.stamped]
    exact congrArg (_ ++ ·) (congrArg (fun stamp => [stamp]) hentry)
  · rw [List.mem_singleton.mp hlater]
    exact hpast time htime

end RestartManager

end TeslamateWatchdog
