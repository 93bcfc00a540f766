/-
The restart manager against a log that never prunes and never forgets.  Records,
new processes and crashes inside a record come in any order; the guard answers
as that log would, and the file always holds a whole history.
-/
import TeslamateWatchdog.RecordSteps

namespace TeslamateWatchdog

open Foundation

/-- What happens to the data volume: a record, a new process, or a record whose
process is killed after some of its steps, and then a new process. -/
inductive VolumeEvent where
  | record (state : State) (reason : String) (now : ℚ)
  | recreate
  | crash (state : State) (reason : String) (now : ℚ) (reached : ℕ)
deriving Repr, DecidableEq

def VolumeEvent.time : VolumeEvent → Option ℚ
  | .record _ _ now => some now
  | .recreate => none
  | .crash _ _ now _ => some now

namespace RestartManager

/-- What the event makes of the manager, or raises. -/
def play (manager : RestartManager) :
    VolumeEvent → Except PyError RestartManager
  | .record state reason now =>
      let recorded := manager.record state reason now true
      recorded.1.map fun _ => recorded.2
  | .recreate => recreate manager.file
  | .crash state reason now reached =>
      recreate (RecordStep.after documentWriting state reason now manager.point
        reached).file

/-- What a list of events makes of it. -/
def playAll (manager : RestartManager) (events : List VolumeEvent) :
    Except PyError RestartManager :=
  events.foldlM play manager

/-- The logs the events can have led to: every completed record is in, and a
record that was killed is in or is not. -/
inductive Logged : List VolumeEvent → List RestartRecord → Prop
  | nil : Logged [] []
  | record {events : List VolumeEvent} {log : List RestartRecord}
      (hlogged : Logged events log) (state : State) (reason : String)
      (now : ℚ) :
      Logged (events ++ [.record state reason now])
        (log ++ [⟨.finite now, state.value, reason⟩])
  | recreate {events : List VolumeEvent} {log : List RestartRecord}
      (hlogged : Logged events log) : Logged (events ++ [.recreate]) log
  | present {events : List VolumeEvent} {log : List RestartRecord}
      (hlogged : Logged events log) (state : State) (reason : String)
      (now : ℚ) (reached : ℕ) :
      Logged (events ++ [.crash state reason now reached])
        (log ++ [⟨.finite now, state.value, reason⟩])
  | absent {events : List VolumeEvent} {log : List RestartRecord}
      (hlogged : Logged events log) (state : State) (reason : String)
      (now : ℚ) (reached : ℕ) :
      Logged (events ++ [.crash state reason now reached]) log

/-- The manager that has forgotten nothing. -/
def ideal (log : List RestartRecord) : RestartManager :=
  ⟨log, .missing⟩

/-- From the last record on, the guard answers for the whole log. -/
structure AnswersFor (config : Config) (manager : RestartManager)
    (log : List RestartRecord) : Prop where
  lastRestart : manager.lastRestart = (ideal log).lastRestart
  restartsIn24h : ∀ now : ℚ,
    (∀ record ∈ log, record.atTime.le (.finite now) = true) →
      manager.restartsIn24h now = (ideal log).restartsIn24h now
  evaluate : ∀ now : ℚ,
    (∀ record ∈ log, record.atTime.le (.finite now) = true) →
      ∀ state databaseHealthyStreak teslaAuthReachable,
        manager.evaluate config state databaseHealthyStreak teslaAuthReachable
            now =
          (ideal log).evaluate config state databaseHealthyStreak
            teslaAuthReachable now

/-- The manager has the log's records, but for those too old at its last one;
its file holds the same, and all of it can be printed. -/
structure Keeps (manager : RestartManager) (log : List RestartRecord) :
    Prop where
  kept : ∃ clock, (∀ last ∈ log.getLast?, last.atTime = .finite clock) ∧
    manager.history = pruned clock log
  saved : load manager.file = .ok manager.history
  printable : ∀ record ∈ manager.history, record.asDict.isOk = true

section Log

variable {config : Config} {manager : RestartManager}
  {log history : List RestartRecord} {events : List VolumeEvent}
  {times : List ℚ} {state : State} {reason : String} {clock now : ℚ}

/-- Pruning again later is pruning later. -/
theorem pruned_pruned (hclock : clock ≤ now) (history : List RestartRecord) :
    pruned now (pruned clock history) = pruned now history := by
  unfold pruned
  rw [List.filter_filter]
  apply List.filter_congr
  intro record _
  cases record.atTime with
  | finite time =>
      simp only [PyFloat.le_finite, Bool.and_eq_left_iff_imp, decide_eq_true_eq]
      intro hkept
      linarith
  | _ => simp [PyFloat.le]

/-- A history can be written when every record of it can be printed. -/
theorem payload_isOk_iff :
    (payload history).isOk = true ↔
      ∀ record ∈ history, record.asDict.isOk = true := by
  have hmapM : (payload history).isOk =
      (history.mapM RestartRecord.asDict).isOk := by
    unfold payload
    cases history.mapM RestartRecord.asDict <;> rfl
  rw [hmapM, isOk_iff, mapM_returns_iff]
  simp only [isOk_iff]

/-- One more event in time, and a record of it. -/
theorem chronological_event {event : VolumeEvent}
    (hchronological : Chronological log times)
    (hsublist : times.Sublist (events.filterMap VolumeEvent.time))
    (htime : event.time = some now)
    (hordered : ((events ++ [event]).filterMap VolumeEvent.time).Pairwise
      (· ≤ ·)) :
    Chronological (log ++ [⟨.finite now, state.value, reason⟩])
        (times ++ [now]) ∧
      (times ++ [now]).Sublist
        ((events ++ [event]).filterMap VolumeEvent.time) := by
  have hlast : (events ++ [event]).filterMap VolumeEvent.time =
      events.filterMap VolumeEvent.time ++ [now] := by
    simp [htime]
  rw [hlast] at hordered ⊢
  refine ⟨hchronological.concat rfl ?_, hsublist.append (.refl _)⟩
  intro time htime
  exact (List.pairwise_append.mp hordered).2.2 time (hsublist.subset htime) now
    (List.mem_singleton_self now)

/-- The log's times are among the events', in their order. -/
theorem Logged.chronological (hlogged : Logged events log)
    (hordered : (events.filterMap VolumeEvent.time).Pairwise (· ≤ ·)) :
    ∃ times, Chronological log times ∧
      times.Sublist (events.filterMap VolumeEvent.time) := by
  have hfront : ∀ {earlier : List VolumeEvent} {event : VolumeEvent},
      ((earlier ++ [event]).filterMap VolumeEvent.time).Pairwise (· ≤ ·) →
      (earlier.filterMap VolumeEvent.time).Pairwise (· ≤ ·) := by
    intro earlier event hboth
    rw [List.filterMap_append] at hboth
    exact (List.pairwise_append.mp hboth).1
  have hskip : ∀ {times : List ℚ} {earlier : List VolumeEvent}
      {event : VolumeEvent},
      times.Sublist (earlier.filterMap VolumeEvent.time) →
      times.Sublist ((earlier ++ [event]).filterMap VolumeEvent.time) := by
    intro times earlier event hsublist
    rw [List.filterMap_append]
    exact hsublist.trans (List.sublist_append_left _ _)
  induction hlogged with
  | nil => exact ⟨[], ⟨rfl, List.Pairwise.nil⟩, List.Sublist.refl _⟩
  | record _ state reason now ih =>
      obtain ⟨times, hchronological, hsublist⟩ := ih (hfront hordered)
      exact ⟨_, chronological_event hchronological hsublist rfl hordered⟩
  | recreate _ ih =>
      obtain ⟨times, hchronological, hsublist⟩ := ih (hfront hordered)
      exact ⟨times, hchronological, hskip hsublist⟩
  | present _ state reason now reached ih =>
      obtain ⟨times, hchronological, hsublist⟩ := ih (hfront hordered)
      exact ⟨_, chronological_event hchronological hsublist rfl hordered⟩
  | absent _ state reason now reached ih =>
      obtain ⟨times, hchronological, hsublist⟩ := ih (hfront hordered)
      exact ⟨times, hchronological, hskip hsublist⟩

end Log

section Refinement

variable {config : Config} {manager : RestartManager}
  {log : List RestartRecord} {times : List ℚ} {state : State}
  {reason : String} {now : ℚ}

theorem keeps_empty {file : HistoryFile} (hempty : load file = .ok []) :
    Keeps ⟨[], file⟩ [] :=
  ⟨⟨0, by simp, rfl⟩, hempty, by simp⟩

/-- What is in memory, one record later. -/
theorem Keeps.recorded (hkeeps : Keeps manager log)
    (hchronological : Chronological log times)
    (hpast : ∀ time ∈ times, time ≤ now) :
    RecordStep.recordedHistory state reason now manager.history =
      pruned now (log ++ [⟨.finite now, state.value, reason⟩]) := by
  obtain ⟨clock, hlast, hkept⟩ := hkeeps.kept
  rw [RecordStep.recordedHistory, pruned_concat _ now _ rfl,
    pruned_concat _ now _ rfl, hkept]
  cases hend : log.getLast? with
  | none =>
      rw [List.getLast?_eq_none_iff.mp hend]
      rfl
  | some last =>
      have hstamp : PyFloat.finite clock ∈ times.map PyFloat.finite := by
        rw [← hchronological.stamped, ← hlast last hend]
        exact List.mem_map_of_mem (List.mem_of_getLast? hend)
      obtain ⟨time, htime, hsame⟩ := List.mem_map.mp hstamp
      obtain rfl := PyFloat.finite.inj hsame
      rw [pruned_pruned (hpast _ htime)]

/-- A record that returns is in memory and on disk. -/
theorem Keeps.record (hkeeps : Keeps manager log)
    (hchronological : Chronological log times)
    (hpast : ∀ time ∈ times, time ≤ now)
    (hreturned : (manager.record state reason now true).1.isOk = true) :
    Keeps (manager.record state reason now true).2
      (log ++ [⟨.finite now, state.value, reason⟩]) := by
  obtain ⟨entry, hentry⟩ : ∃ entry,
      (manager.record state reason now true).1 = .ok entry := by
    cases hresult : (manager.record state reason now true).1 with
    | ok entry => exact ⟨entry, rfl⟩
    | error error =>
        rw [hresult] at hreturned
        cases hreturned
  obtain ⟨document, hpayload, hfile⟩ := file_of_record hentry
  have hhistory : (manager.record state reason now true).2.history =
      pruned now (log ++ [⟨.finite now, state.value, reason⟩]) := by
    rw [record_history]
    exact hkeeps.recorded hchronological hpast
  refine ⟨⟨now, by simp, hhistory⟩, ?_, ?_⟩
  · rw [hfile]
    rw [hhistory] at hpayload ⊢
    exact load_payload ((hchronological.concat rfl hpast).pruned now) hpayload
  · apply payload_isOk_iff.mp
    rw [hpayload]
    rfl

/-- A new process finds the manager the old one left. -/
theorem Keeps.recreate (hkeeps : Keeps manager log) :
    recreate manager.file = .ok manager := by
  rw [RestartManager.recreate, hkeeps.saved]
  rfl

/-- Only a time stamp that cannot be printed makes a record raise. -/
theorem Keeps.unprintable (hkeeps : Keeps manager log) {error : PyError}
    (hraised : (manager.record state reason now true).1 = .error error) :
    ¬PyTime.Representable (PyTime.microseconds now) := by
  intro hrepresentable
  have hprintable : ∀ record ∈
      RecordStep.recordedHistory state reason now manager.history,
        record.asDict.isOk = true := by
    intro record hrecord
    rcases List.mem_append.mp (List.mem_of_mem_filter hrecord) with hold | hnew
    · exact hkeeps.printable record hold
    · rw [List.mem_singleton.mp hnew, RestartRecord.asDict,
        PyTime.isoFromTimestamp, if_pos hrepresentable]
      rfl
  cases hpayload :
      payload (RecordStep.recordedHistory state reason now manager.history)
    with
  | ok document =>
      rw [record_of_payload hpayload] at hraised
      cases hraised
  | error other =>
      have hok := payload_isOk_iff.mpr hprintable
      rw [hpayload] at hok
      cases hok

/-- The guard reads the history through its last record and its last day. -/
theorem evaluate_congr {other : RestartManager}
    (hlast : manager.lastRestart = other.lastRestart)
    (hrecent : manager.restartsIn24h now = other.restartsIn24h now)
    (state : State) (databaseHealthyStreak : Nat)
    (teslaAuthReachable : Option Bool) :
    manager.evaluate config state databaseHealthyStreak teslaAuthReachable now =
      other.evaluate config state databaseHealthyStreak teslaAuthReachable
        now := by
  unfold evaluate evaluateBudget secondsUntilCooldownExpires
  rw [hlast, hrecent]

theorem Keeps.answersFor (hkeeps : Keeps manager log) :
    AnswersFor config manager log := by
  obtain ⟨clock, hlast, hkept⟩ := hkeeps.kept
  cases hend : log.getLast? with
  | none =>
      obtain rfl := List.getLast?_eq_none_iff.mp hend
      have hlastRestart : manager.lastRestart = (ideal []).lastRestart := by
        rw [lastRestart, hkept]
        rfl
      have hrecent : ∀ now,
          manager.restartsIn24h now = (ideal []).restartsIn24h now := by
        intro now
        rw [restartsIn24h, hkept]
        rfl
      exact ⟨hlastRestart, fun now _ => hrecent now, fun now _ =>
        evaluate_congr hlastRestart (hrecent now)⟩
  | some last =>
      obtain ⟨front, rfl⟩ := List.getLast?_eq_some_iff.mp hend
      have hstamp := hlast last hend
      have hlastRestart : manager.lastRestart =
          (ideal (front ++ [last])).lastRestart := by
        rw [lastRestart, hkept, pruned_concat front clock last hstamp]
        simp [lastRestart, ideal]
      have hrecent : ∀ now : ℚ,
          (∀ record ∈ front ++ [last],
            record.atTime.le (.finite now) = true) →
          manager.restartsIn24h now =
            (ideal (front ++ [last])).restartsIn24h now := by
        intro now hnow
        have hclock := hnow last (by simp)
        rw [hstamp, PyFloat.le_finite, decide_eq_true_eq] at hclock
        rw [restartsIn24h, hkept]
        exact restartsIn24h_pruned (front ++ [last]) .missing hclock
      exact ⟨hlastRestart, hrecent, fun now hnow =>
        evaluate_congr hlastRestart (hrecent now hnow)⟩

/-- One event keeps the manager in step with one of the logs it can lead to, or
is a record whose time cannot be printed. -/
theorem Keeps.play {events : List VolumeEvent} {event : VolumeEvent}
    (hkeeps : Keeps manager log) (hlogged : Logged events log)
    (hordered : ((events ++ [event]).filterMap VolumeEvent.time).Pairwise
      (· ≤ ·)) :
    (∃ next, manager.play event = .ok next ∧
        ∃ extended, Logged (events ++ [event]) extended ∧
          Keeps next extended) ∨
      ∃ state reason now error, event = .record state reason now ∧
        manager.play event = .error error ∧
        ¬PyTime.Representable (PyTime.microseconds now) := by
  rw [List.filterMap_append] at hordered
  obtain ⟨hearlier, -, hlater⟩ := List.pairwise_append.mp hordered
  obtain ⟨times, hchronological, hsublist⟩ := hlogged.chronological hearlier
  have hpast : ∀ {now : ℚ}, event.time = some now →
      ∀ time ∈ times, time ≤ now := by
    intro now htime time hmem
    exact hlater time (hsublist.subset hmem) now (by simp [htime])
  cases event with
  | record state reason now =>
      cases hresult : (manager.record state reason now true).1 with
      | ok entry =>
          left
          refine ⟨(manager.record state reason now true).2, ?_, _,
            hlogged.record state reason now, hkeeps.record hchronological
              (hpast rfl) (by rw [hresult]; rfl)⟩
          rw [RestartManager.play, hresult]
          rfl
      | error error =>
          right
          refine ⟨state, reason, now, error, rfl, ?_, hkeeps.unprintable hresult⟩
          rw [RestartManager.play, hresult]
          rfl
  | recreate =>
      exact .inl ⟨manager, hkeeps.recreate, log, hlogged.recreate, hkeeps⟩
  | crash state reason now reached =>
      left
      rcases @RecordStep.file_killed state reason now manager reached with
        hold | ⟨hnew, hreturned⟩
      · refine ⟨manager, ?_, log, hlogged.absent state reason now reached,
          hkeeps⟩
        rw [RestartManager.play, hold]
        exact hkeeps.recreate
      · have hnext := hkeeps.record hchronological (hpast rfl) hreturned
        refine ⟨(manager.record state reason now true).2, ?_, _,
          hlogged.present state reason now reached, hnext⟩
        rw [RestartManager.play, hnew]
        exact hnext.recreate

theorem playAll_concat (events : List VolumeEvent) (event : VolumeEvent) :
    manager.playAll (events ++ [event]) =
      (manager.playAll events >>= fun next => next.play event) := by
  simp [playAll, List.foldlM_append]

/-- Every run of the volume keeps the manager in step with such a log, as far
as dates go. -/
theorem playAll_keeps {file : HistoryFile} (hempty : load file = .ok [])
    {events : List VolumeEvent}
    (hordered : (events.filterMap VolumeEvent.time).Pairwise (· ≤ ·)) :
    (∃ manager, playAll ⟨[], file⟩ events = .ok manager ∧
        ∃ log, Logged events log ∧ Keeps manager log) ∨
      ∃ state reason now, .record state reason now ∈ events ∧
        ¬PyTime.Representable (PyTime.microseconds now) := by
  induction events using List.reverseRecOn with
  | nil => exact .inl ⟨⟨[], file⟩, rfl, [], .nil, keeps_empty hempty⟩
  | append_singleton events event ih =>
      have hearlier :
          (events.filterMap VolumeEvent.time).Pairwise (· ≤ ·) := by
        rw [List.filterMap_append] at hordered
        exact (List.pairwise_append.mp hordered).1
      rcases ih hearlier with
        ⟨manager, hplayed, log, hlogged, hkeeps⟩ |
          ⟨state, reason, now, hmem, hdate⟩
      · rw [playAll_concat, hplayed]
        rcases hkeeps.play hlogged hordered with
          ⟨next, hnext, extended, hextended, hstill⟩ |
            ⟨state, reason, now, error, rfl, -, hdate⟩
        · exact .inl ⟨next, hnext, extended, hextended, hstill⟩
        · exact .inr ⟨state, reason, now, by simp, hdate⟩
      · exact .inr ⟨state, reason, now, List.mem_append_left _ hmem, hdate⟩

/-- Whatever is recorded, recreated and killed, the restart manager answers for
a log of all completed records, of which a record that was killed is wholly a
part or not at all, and its file holds a whole history.  Only a record whose
time no date can show raises. -/
theorem refines_log (config : Config) {file : HistoryFile}
    (hempty : load file = .ok []) (events : List VolumeEvent)
    (hordered : (events.filterMap VolumeEvent.time).Pairwise (· ≤ ·)) :
    (∃ manager, playAll ⟨[], file⟩ events = .ok manager ∧
        ∃ log, Logged events log ∧ AnswersFor config manager log ∧
          load manager.file = .ok manager.history) ∨
      ∃ state reason now, .record state reason now ∈ events ∧
        ¬PyTime.Representable (PyTime.microseconds now) := by
  rcases playAll_keeps hempty hordered with
    ⟨manager, hplayed, log, hlogged, hkeeps⟩ | hdate
  · exact .inl ⟨manager, hplayed, log, hlogged, hkeeps.answersFor,
      hkeeps.saved⟩
  · exact .inr hdate

end Refinement

/-- A restart, a record killed after its temporary file was written, a new
process, and another restart long after the first has been pruned. -/
def volumeLife : List VolumeEvent :=
  [.record .loggedOut "sign-in page" 0,
    .crash .loggedOut "sign-in page" 600 4, .recreate,
    .record .teslamateUnreachable "http unreachable" 700000]

theorem refines_log_pruned :
    (∃ manager, playAll ⟨[], .missing⟩ volumeLife = .ok manager ∧
        ∃ log, Logged volumeLife log ∧
          AnswersFor .fromEmptyEnv manager log ∧
          load manager.file = .ok manager.history) ∨
      ∃ state reason now, .record state reason now ∈ volumeLife ∧
        ¬PyTime.Representable (PyTime.microseconds now) :=
  refines_log .fromEmptyEnv rfl volumeLife (by decide +kernel)

end RestartManager

end TeslamateWatchdog
