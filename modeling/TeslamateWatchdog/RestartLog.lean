/-
What the restart manager remembers of the restarts it recorded.  Pruning drops
old records, yet the guard is answered as the whole log would answer it.
-/
import TeslamateWatchdog.Foundation.Ledger
import TeslamateWatchdog.RestartManager

namespace TeslamateWatchdog

open Foundation

namespace RestartManager

/-- `times` are the times of the history, finite and in order. -/
structure Chronological (history : List RestartRecord) (times : List ℚ) :
    Prop where
  stamped : history.map (·.atTime) = times.map PyFloat.finite
  sorted : times.Pairwise (· ≤ ·)

/-- From `clock` on, the manager answers about the log with these times. -/
structure Remembers (manager : RestartManager) (times : List ℚ) (clock : ℚ) :
    Prop where
  last : manager.lastRestart.map (·.atTime) =
    times.getLast?.map PyFloat.finite
  recent : ∀ now, clock ≤ now → manager.restartsIn24h now =
    times.countP fun time => now - secondsPerDay ≤ time
  sorted : times.Pairwise (· ≤ ·)

variable {config : Config} {manager : RestartManager} {times : List ℚ}
  {clock now : ℚ} {state : State} {reason : String} {written : Bool}

theorem le_getLast {time last : ℚ} (hsorted : times.Pairwise (· ≤ ·))
    (hlast : times.getLast? = some last) (htime : time ∈ times) :
    time ≤ last := by
  obtain ⟨front, rfl⟩ := List.getLast?_eq_some_iff.mp hlast
  rcases List.mem_append.mp htime with hfront | hend
  · exact (List.pairwise_append.mp hsorted).2.2 time hfront last
      (List.mem_singleton_self last)
  · exact le_of_eq (List.mem_singleton.mp hend)

theorem remembers_of_chronological
    (hhistory : Chronological manager.history times) (clock : ℚ) :
    Remembers manager times clock where
  last := by
    rw [lastRestart, ← List.getLast?_map, hhistory.stamped, List.getLast?_map]
  recent := by
    intro now _
    have hcount := congrArg (List.countP
      (PyFloat.le (.finite (now - secondsPerDay)))) hhistory.stamped
    rw [List.countP_map, List.countP_map] at hcount
    exact hcount
  sorted := hhistory.sorted

theorem Remembers.mono {later : ℚ} (hremembers : Remembers manager times clock)
    (hlater : clock ≤ later) : Remembers manager times later :=
  ⟨hremembers.last, fun now hnow => hremembers.recent now (hlater.trans hnow),
    hremembers.sorted⟩

/-- Saving leaves the history in memory alone. -/
theorem save_history (manager : RestartManager) (written : Bool) :
    (manager.save written).2.history = manager.history := by
  unfold save
  cases payload manager.history with
  | error error => rfl
  | ok document => cases written <;> rfl

/-- Whatever becomes of the file, a record is appended and the rest pruned. -/
theorem record_history (manager : RestartManager) (state : State)
    (reason : String) (now : ℚ) (written : Bool) :
    (manager.record state reason now written).2.history =
      pruned now
        (manager.history ++ [⟨.finite now, state.value, reason⟩]) := by
  let pending := (manager.append ⟨.finite now, state.value, reason⟩).prune now
  have hsaved := save_history pending written
  unfold record
  rcases hsave : pending.save written with ⟨result, saved⟩
  rw [hsave] at hsaved
  cases result with
  | ok _ =>
      simp only [pending] at hsave
      simp only [hsave]
      exact hsaved
  | error error =>
      simp only [pending] at hsave
      simp only [hsave]
      exact hsaved

/-- A record made now is within retention. -/
theorem pruned_concat (history : List RestartRecord) (now : ℚ)
    (entry : RestartRecord) (hentry : entry.atTime = .finite now) :
    pruned now (history ++ [entry]) = pruned now history ++ [entry] := by
  have hkept : now - historyRetentionSeconds ≤ now := by
    have hretention : (0 : ℚ) ≤ historyRetentionSeconds := Nat.cast_nonneg _
    linarith
  rw [pruned, List.filter_append, List.filter_singleton, hentry]
  simp only [PyFloat.le_finite, hkept, decide_true, cond_true]
  rfl

/-- Pruning at `clock` drops nothing a day's window looks at afterwards. -/
theorem restartsIn24h_pruned (history : List RestartRecord)
    (file : HistoryFile) (hnow : clock ≤ now) :
    restartsIn24h ⟨pruned clock history, file⟩ now =
      restartsIn24h ⟨history, file⟩ now := by
  unfold restartsIn24h pruned
  rw [List.countP_filter]
  refine List.countP_congr fun record _ => ?_
  have hcutoff : clock - historyRetentionSeconds ≤ now - secondsPerDay := by
    have hday : (secondsPerDay : ℚ) ≤ historyRetentionSeconds := by
      norm_num [historyRetentionSeconds, secondsPerDay]
    linarith
  cases record.atTime with
  | finite time =>
      simp only [PyFloat.le_finite, Bool.and_eq_true, decide_eq_true_eq,
        and_iff_left_iff_imp]
      exact fun hrecent => hcutoff.trans hrecent
  | _ => simp [PyFloat.le]

/-- Recording keeps the manager in step with the log. -/
theorem remembers_record (hremembers : Remembers manager times clock)
    (hclock : clock ≤ now) (hpast : ∀ time ∈ times, time ≤ now) :
    Remembers (manager.record state reason now written).2 (times ++ [now])
      now := by
  have hhistory := record_history manager state reason now written
  rw [pruned_concat manager.history now _ rfl] at hhistory
  refine ⟨?_, ?_, ?_⟩
  · rw [lastRestart, hhistory]
    simp
  · intro later hlater
    have hkept := @restartsIn24h_pruned now later manager.history manager.file
      hlater
    have hcount := hremembers.recent later (hclock.trans hlater)
    rw [restartsIn24h, hhistory, List.countP_append, List.countP_append,
      ← hcount]
    rw [restartsIn24h] at hkept
    rw [hkept]
    simp [List.countP_singleton]
  · exact List.pairwise_append.mpr ⟨hremembers.sorted,
      List.pairwise_singleton _ _, fun time htime later hlater => by
        rw [List.mem_singleton.mp hlater]
        exact hpast time htime⟩

/-- The cooldown has run out exactly when it lies behind the last restart. -/
theorem cooled_iff (hremembers : Remembers manager times clock) :
    PyFloat.lt (.finite 0) (manager.secondsUntilCooldownExpires config now) =
        false ↔
      ∀ last, times.getLast? = some last →
        last + config.restartCooldownSeconds ≤ now := by
  have hlast := hremembers.last
  unfold secondsUntilCooldownExpires
  cases hrecord : manager.lastRestart with
  | none =>
      rw [hrecord] at hlast
      cases htimes : times.getLast? with
      | none => simp
      | some last => simp [htimes] at hlast
  | some record =>
      rw [hrecord] at hlast
      cases htimes : times.getLast? with
      | none => simp [htimes] at hlast
      | some last =>
          have hstamp : record.atTime = .finite last := by
            simpa [htimes] using hlast
          simp only [hstamp, PyFloat.sub_finite, PyFloat.max_finite,
            PyFloat.lt_finite, decide_eq_false_iff_not, not_lt, max_le_iff,
            le_refl, true_and, Option.some.injEq, forall_eq']
          constructor <;> intro h <;> linarith

/-- A restart that passes the guard passes the budgets of the whole log. -/
theorem admits_of_guarded {databaseHealthyStreak : Nat}
    {teslaAuthReachable : Option Bool}
    (hremembers : Remembers manager times clock) (hclock : clock ≤ now)
    (hguarded : manager.Guarded config state databaseHealthyStreak
      teslaAuthReachable now) :
    Admits (config.restartCooldownSeconds : ℚ) (secondsPerDay : ℚ)
      config.maxRestartsPer24Hours times now where
  gap_passed := by
    intro time htime
    cases hlast : times.getLast? with
    | none =>
        rw [List.getLast?_eq_none_iff.mp hlast] at htime
        cases htime
    | some last =>
        have hle := le_getLast hremembers.sorted hlast htime
        have hcooled := (cooled_iff hremembers).mp hguarded.cooled last hlast
        linarith
  under_cap := by
    rw [← hremembers.recent now hclock]
    exact hguarded.under_cap

end RestartManager

end TeslamateWatchdog
