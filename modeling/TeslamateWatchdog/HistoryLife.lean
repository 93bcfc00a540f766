/-
Whole lives of the data volume: evaluations, records and process recreations in
any order.  The recorded times keep the cooldown and the daily cap, and the
history in memory stays in order.
-/
import TeslamateWatchdog.HistoryFile

namespace TeslamateWatchdog

open Foundation

namespace RestartManager

/-- The lives of a data volume that starts without restarts: the manager, the
times recorded so far, the time of the last operation, and whether a restart has
been allowed since the last record. -/
inductive Life (config : Config) : RestartManager → List ℚ → ℚ → Bool → Prop
  | empty {file : HistoryFile} (hload : load file = .ok []) (clock : ℚ) :
      Life config ⟨[], file⟩ [] clock false
  | refused {manager : RestartManager} {times : List ℚ} {clock now : ℚ}
      {permitted : Bool} {state : State} {databaseHealthyStreak : Nat}
      {teslaAuthReachable : Option Bool}
      (life : Life config manager times clock permitted) (hnow : clock ≤ now)
      (hrefused : ¬manager.Allows config state databaseHealthyStreak
        teslaAuthReachable now) :
      Life config manager times now permitted
  | allowed {manager : RestartManager} {times : List ℚ} {clock now : ℚ}
      {permitted : Bool} {state : State} {databaseHealthyStreak : Nat}
      {teslaAuthReachable : Option Bool}
      (life : Life config manager times clock permitted) (hnow : clock ≤ now)
      (hallowed : manager.Allows config state databaseHealthyStreak
        teslaAuthReachable now) :
      Life config manager times now true
  | record {manager : RestartManager} {times : List ℚ} {clock now : ℚ}
      {state : State} {reason : String} {entry : RestartRecord}
      (life : Life config manager times clock true) (hnow : clock ≤ now)
      (hreturned : (manager.record state reason now true).1 = .ok entry) :
      Life config (manager.record state reason now true).2 (times ++ [now])
        now false
  | recreate {manager recreated : RestartManager} {times : List ℚ} {clock : ℚ}
      {permitted : Bool} (life : Life config manager times clock permitted)
      (hrecreated : recreate manager.file = .ok recreated) :
      Life config recreated times clock permitted

/-- What every life keeps up: the manager answers for all recorded times, the
file holds the ordered history, the records form a ledger, and a permit was
given against all of them. -/
structure Kept (config : Config) (manager : RestartManager) (times : List ℚ)
    (clock : ℚ) (permitted : Bool) : Prop where
  remembers : Remembers manager times clock
  past : ∀ time ∈ times, time ≤ clock
  ordered : ∃ kept, Chronological manager.history kept ∧
    ∀ time ∈ kept, time ≤ clock
  saved : load manager.file = .ok manager.history
  ledger : ∃ entries, Ledger (config.restartCooldownSeconds : ℚ)
    (secondsPerDay : ℚ) config.maxRestartsPer24Hours entries ∧
    entries.map Booking.booked = times
  permit : permitted = true → ∃ admitted ≤ clock,
    Admits (config.restartCooldownSeconds : ℚ) (secondsPerDay : ℚ)
      config.maxRestartsPer24Hours times admitted

namespace Kept

variable {config : Config} {manager : RestartManager} {times : List ℚ}
  {clock now : ℚ} {permitted : Bool}

theorem empty {file : HistoryFile} (hload : load file = .ok [])
    (clock : ℚ) : Kept config ⟨[], file⟩ [] clock false where
  remembers := remembers_of_chronological ⟨rfl, List.Pairwise.nil⟩ clock
  past := by simp
  ordered := ⟨[], ⟨rfl, List.Pairwise.nil⟩, by simp⟩
  saved := hload
  ledger := ⟨[], .nil, rfl⟩
  permit := by simp

theorem later (hkept : Kept config manager times clock permitted)
    (hnow : clock ≤ now) : Kept config manager times now permitted where
  remembers := hkept.remembers.mono hnow
  past time htime := (hkept.past time htime).trans hnow
  ordered := by
    obtain ⟨kept, hchronological, hpast⟩ := hkept.ordered
    exact ⟨kept, hchronological, fun time htime =>
      (hpast time htime).trans hnow⟩
  saved := hkept.saved
  ledger := hkept.ledger
  permit hpermitted := by
    obtain ⟨admitted, hadmitted, hadmits⟩ := hkept.permit hpermitted
    exact ⟨admitted, hadmitted.trans hnow, hadmits⟩

theorem allow {state : State} {databaseHealthyStreak : Nat}
    {teslaAuthReachable : Option Bool}
    (hkept : Kept config manager times now permitted)
    (hallowed : manager.Allows config state databaseHealthyStreak
      teslaAuthReachable now) : Kept config manager times now true :=
  { hkept with
    permit := fun _ => ⟨now, le_rfl, admits_of_guarded hkept.remembers le_rfl
      (allows_iff_guarded.mp hallowed)⟩ }

theorem record {state : State} {reason : String} {entry : RestartRecord}
    (hkept : Kept config manager times clock true) (hnow : clock ≤ now)
    (hreturned : (manager.record state reason now true).1 = .ok entry) :
    Kept config (manager.record state reason now true).2 (times ++ [now]) now
      false := by
  obtain ⟨kept, hchronological, hkeptPast⟩ := hkept.ordered
  obtain ⟨entries, hledger, hbooked⟩ := hkept.ledger
  obtain ⟨admitted, hadmitted, hadmits⟩ := hkept.permit rfl
  obtain ⟨document, hpayload, hfile⟩ := file_of_record hreturned
  have hpast : ∀ time ∈ times, time ≤ now := fun time htime =>
    (hkept.past time htime).trans hnow
  have hkeptNow : ∀ time ∈ kept, time ≤ now := fun time htime =>
    (hkeptPast time htime).trans hnow
  have hordered : Chronological
      (manager.record state reason now true).2.history
      ((kept ++ [now]).filter fun time =>
        now - historyRetentionSeconds ≤ time) := by
    rw [record_history]
    exact (hchronological.concat rfl hkeptNow).pruned now
  have hconcat : ∀ {earlier : List ℚ}, (∀ time ∈ earlier, time ≤ now) →
      ∀ time ∈ earlier ++ [now], time ≤ now := by
    intro earlier hearlier time htime
    rcases List.mem_append.mp htime with hold | hnew
    · exact hearlier time hold
    · exact le_of_eq (List.mem_singleton.mp hnew)
  exact {
    remembers := remembers_record hkept.remembers hnow hpast
    past := hconcat hpast
    ordered := ⟨_, hordered, fun time htime =>
      hconcat hkeptNow time (List.mem_of_mem_filter htime)⟩
    saved := by
      rw [hfile]
      exact load_payload hordered hpayload
    ledger := by
      rw [← hbooked] at hadmits
      exact ⟨entries ++ [⟨now, now⟩],
        .book hledger hadmits (hadmitted.trans hnow) le_rfl,
        by rw [List.map_append, hbooked]; rfl⟩
    permit := fun hpermitted => absurd hpermitted Bool.false_ne_true }

/-- A new process finds the manager the old one left. -/
theorem recreate_eq (hkept : Kept config manager times clock permitted) :
    recreate manager.file = .ok manager := by
  rw [recreate, hkept.saved]
  rfl

end Kept

variable {config : Config} {manager : RestartManager} {times : List ℚ}
  {clock : ℚ} {permitted : Bool}

theorem Life.kept (life : Life config manager times clock permitted) :
    Kept config manager times clock permitted := by
  induction life with
  | empty hload clock => exact Kept.empty hload clock
  | refused _ hnow _ ih => exact ih.later hnow
  | allowed _ hnow hallowed ih => exact (ih.later hnow).allow hallowed
  | record _ hnow hreturned ih => exact ih.record hnow hreturned
  | recreate _ hrecreated ih =>
      obtain rfl := Except.ok.inj (ih.recreate_eq.symm.trans hrecreated)
      exact ih

/-- In every life, recorded restarts are a cooldown apart, every closed day
holds at most the daily cap of them, and the history in memory is in order. -/
theorem life_budget (config : Config) {manager : RestartManager}
    {times : List ℚ} {clock : ℚ} {permitted : Bool}
    (life : Life config manager times clock permitted) :
    Spaced (config.restartCooldownSeconds : ℚ) times ∧
      Capped 86400 config.maxRestartsPer24Hours times ∧
      manager.history.Pairwise fun earlier later =>
        earlier.atTime.le later.atTime = true := by
  have hkept := life.kept
  obtain ⟨entries, hledger, hbooked⟩ := hkept.ledger
  obtain ⟨kept, hchronological, _⟩ := hkept.ordered
  refine ⟨?_, ?_, ?_⟩
  · rw [← hbooked]
    exact hledger.spaced_booked
  · rw [← hbooked]
    exact hledger.capped_booked
  · have hstamps : (manager.history.map (·.atTime)).Pairwise
        fun earlier later => earlier.le later = true := by
      rw [hchronological.stamped, List.pairwise_map]
      exact hchronological.sorted.imp fun {earlier later} hle => by
        simpa using hle
    rwa [List.pairwise_map] at hstamps

/-- Two restarts one cooldown apart, in two processes. -/
theorem life_budget_two_processes :
    let first := (record ⟨[], .missing⟩ .loggedOut "sign-in page" 0 true).2
    Spaced (21600 : ℚ) [0, 21600] ∧ Capped 86400 2 [(0 : ℚ), 21600] ∧
      (first.record .loggedOut "sign-in page" 21600 true).2.history.Pairwise
        fun earlier later => earlier.atTime.le later.atTime = true := by
  intro first
  have hempty : Life .fromEmptyEnv ⟨[], .missing⟩ [] 0 false := .empty rfl 0
  have hallowed : Life .fromEmptyEnv ⟨[], .missing⟩ [] 0 true :=
    .allowed hempty le_rfl (allows_iff_guarded.mpr
      (⟨by decide, by decide, by decide, le_rfl, by decide +kernel,
        by decide +kernel⟩ :
        Guarded .fromEmptyEnv _ .loggedOut 2 (some true) 0))
  have hfirst : Life .fromEmptyEnv first ([] ++ [0]) 0 false :=
    .record hallowed le_rfl (by decide +kernel :
      (record ⟨[], .missing⟩ .loggedOut "sign-in page" 0 true).1 =
        .ok ⟨.finite 0, "LOGGED_OUT", "sign-in page"⟩)
  have hrecreated : Life .fromEmptyEnv first ([] ++ [0]) 0 false :=
    .recreate hfirst hfirst.kept.recreate_eq
  have hagain : Life .fromEmptyEnv first ([] ++ [0]) 21600 true :=
    .allowed hrecreated (by norm_num) (allows_iff_guarded.mpr
      (⟨by decide, by decide, by decide, le_rfl, by decide +kernel,
        by decide +kernel⟩ :
        Guarded .fromEmptyEnv _ .loggedOut 2 (some true) 21600))
  have hsecond := hagain.record le_rfl (by decide +kernel :
    (first.record .loggedOut "sign-in page" 21600 true).1 =
      .ok ⟨.finite 21600, "LOGGED_OUT", "sign-in page"⟩)
  exact life_budget .fromEmptyEnv hsecond

end RestartManager

end TeslamateWatchdog
