/-
Checks while the broker connection is down.  The clock of the heartbeat stands
still then, but the last value of `healthy` is read again by every check.
-/
import TeslamateWatchdog.FailureReports
import TeslamateWatchdog.HeartbeatTraces

namespace TeslamateWatchdog

open Foundation

/-- What happens to the watchdog: a callback of its MQTT client, or a check,
with the monotonic clock that `logger_health` reads in it. -/
inductive Happening where
  | callback (callback : Callback)
  | check (answers : CycleAnswers) (now : ℚ)

/-- The callbacks among the happenings, in order. -/
def callbacks (happenings : List Happening) : List Callback :=
  happenings.filterMap fun happening =>
    match happening with
    | .callback callback => some callback
    | .check _ _ => none

/-- The answers, with the logger verdict read from the MQTT client. -/
def CycleAnswers.listening (answers : CycleAnswers) (mqttConfig : MqttConfig)
    (client : WatchdogMqtt) (now : ℚ) : CycleAnswers :=
  { answers with loggerHealth := (client.loggerHealth mqttConfig now).1 }

/-- The watchdog with its MQTT client.  A check whose HTTP request raises does
not come to ask the client. -/
def monitor (config : Config) (mqttConfig : MqttConfig)
    (classifier : LogClassifier) :
    Mealy (WatchdogMqtt × Watchdog) Happening Effect where
  step state happening :=
    match happening with
    | .callback callback => ((callback.apply state.1, state.2), [])
    | .check answers now =>
        let client := if answers.check.isOk then
          (state.1.loggerHealth mqttConfig now).2 else state.1
        let listening := answers.listening mqttConfig state.1 now
        ((client, (cycle config classifier state.2 listening).2),
          cycleTrace config classifier state.2 listening)

/-- The connection is down: whatever successful connect there was, a disconnect
came after it. -/
def Down (trace : List Callback) : Prop :=
  ∀ front made rest, trace = front ++ .connect false made :: rest →
    ∃ time, .disconnect time ∈ rest

/-- The latest healthy message about the car says that it is not healthy. -/
def ReportsUnhealthy (trace : List Callback) (carId : String) : Prop :=
  ∃ beat ∈ latest (Callback.heartbeat carId) trace,
    parseBoolPayload (some beat.2) = some false

/-- Some message was about the car. -/
def Mentioned (trace : List Callback) (carId : String) : Prop :=
  ∃ callback ∈ trace, callback.mentions = some carId

/-- The configured car, or any car if that one was never heard of, was last
reported unhealthy. -/
def LeftUnhealthy (mqttConfig : MqttConfig) (trace : List Callback) : Prop :=
  (∃ primary ∈ mqttConfig.topics.primaryCarId,
      Mentioned trace primary ∧ ReportsUnhealthy trace primary) ∨
    (∀ primary ∈ mqttConfig.topics.primaryCarId, ¬Mentioned trace primary) ∧
      ∃ carId, ReportsUnhealthy trace carId

namespace WatchdogMqtt

variable {mqttConfig : MqttConfig} {trace : List Callback}
  {client : WatchdogMqtt} {now : ℚ}

theorem down_iff (trace : List Callback) :
    Down trace ↔ (latest Callback.link trace).join = none := by
  constructor
  · intro hdown
    cases hlatest : latest Callback.link trace with
    | none => rfl
    | some made? =>
        cases made? with
        | none => rfl
        | some made =>
            obtain ⟨front, callback, rest, rfl, hmade, hsilent⟩ :=
              latest_eq_some_iff.mp hlatest
            obtain rfl := Callback.eq_connect_of_link hmade
            obtain ⟨time, hmem⟩ := hdown front made rest rfl
            cases hsilent _ hmem
  · rintro hlink front made rest rfl
    rw [← List.singleton_append, latest_append, latest_append] at hlink
    cases hlatest : latest Callback.link rest with
    | none =>
        rw [hlatest] at hlink
        cases hlink
    | some made? =>
        cases made? with
        | none =>
            obtain ⟨earlier, callback, later, rfl, hlost, -⟩ :=
              latest_eq_some_iff.mp hlatest
            cases callback with
            | connect refused time => cases refused <;> cases hlost
            | disconnect time => exact ⟨time, by simp⟩
            | message topic payload time wall => cases hlost
        | some later =>
            rw [hlatest] at hlink
            cases hlink

theorem connectedSince_of_down (hrecalls : Recalls trace client)
    (hdown : Down trace) : client.connectedSince = none :=
  hrecalls.link.trans ((down_iff trace).mp hdown)

/-- While the connection is down nothing is stale. -/
theorem stale_of_down (hrecalls : Recalls trace client) (hdown : Down trace) :
    (client.loggerHealth mqttConfig now).1.stale = false := by
  have hnone := connectedSince_of_down hrecalls hdown
  unfold loggerHealth
  cases selected mqttConfig client with
  | none => rfl
  | some car =>
      apply Bool.eq_false_of_not_eq_true
      intro hstale
      obtain ⟨-, beat, made, -, hmade, -⟩ := staleness_iff.mp hstale
      rw [hnone] at hmade
      cases hmade

theorem reportsUnhealthy_iff (hrecalls : Recalls trace client)
    (carId : String) :
    ReportsUnhealthy trace carId ↔
      ∃ car, client.car? carId = some car ∧ car.healthy = some false := by
  rw [← Option.bind_eq_some_iff, hrecalls.healthy carId,
    Option.bind_eq_some_iff]
  rfl

theorem mentioned_iff (hrecalls : Recalls trace client) (carId : String) :
    Mentioned trace carId ↔ ∃ car, client.car? carId = some car := by
  rw [← Option.isSome_iff_exists, hrecalls.known carId]
  rfl

/-- The verdict is unhealthy exactly when the reports left it so. -/
theorem unhealthy_iff (hrecalls : Recalls trace client) :
    (client.loggerHealth mqttConfig now).1.healthy = some false ↔
      LeftUnhealthy mqttConfig trace := by
  unfold LeftUnhealthy
  simp only [reportsUnhealthy_iff hrecalls, mentioned_iff hrecalls]
  rw [loggerHealth_healthy]
  rcases selected_cases mqttConfig client with
    ⟨primary, hprimary, car, hcar, hselected⟩ | ⟨hunknown, hselected⟩
  · rw [hselected, Option.bind_some]
    constructor
    · intro hfalse
      exact .inl ⟨primary, hprimary, ⟨car, hcar⟩, car, hcar, hfalse⟩
    · rintro (⟨other, hother, -, found, hfound, hfalse⟩ | ⟨hnone, -⟩)
      · obtain rfl := Option.mem_unique hprimary hother
        obtain rfl := Option.some.inj (hcar.symm.trans hfound)
        exact hfalse
      · exact absurd ⟨car, hcar⟩ (hnone primary hprimary)
  · rw [hselected, first_unhealthy_iff]
    constructor
    · rintro ⟨car, hcar, hfalse⟩
      refine .inr ⟨?_, car.carId, car, car?_of_mem hcar, hfalse⟩
      rintro primary hprimary ⟨found, hfound⟩
      rw [hunknown primary hprimary] at hfound
      cases hfound
    · rintro (⟨primary, hprimary, ⟨car, hcar⟩, -⟩ | ⟨-, carId, car, hcar, hfalse⟩)
      · rw [hunknown primary hprimary] at hcar
        cases hcar
      · exact ⟨car, List.mem_of_find?_eq_some hcar, hfalse⟩

end WatchdogMqtt

/-- The call has nothing to do with the state: it does not evaluate to it and
does not force it. -/
def MachineCall.Avoids (state : State) : MachineCall → Prop
  | .step observation => (evaluate observation).state ≠ state
  | .forceState forced _ => forced ≠ state

section Avoids

variable {config : Config} {machine : StateMachine} {call : MachineCall}
  {state : State}

theorem state_of_avoids (havoids : call.Avoids state)
    (hstate : (StateMachine.observeCall config (machine, []) call).1.state =
      state) : machine.state = state := by
  cases call with
  | step observation =>
      change (machine.step config observation).2.state = state at hstate
      rw [StateMachine.state_of_step] at hstate
      cases hmoved : (machine.step config observation).1 with
      | none =>
          rw [hmoved] at hstate
          exact hstate
      | some transition =>
          rw [hmoved] at hstate
          have hcurrent := (StateMachine.evaluate_of_step_some hmoved).1
          exact absurd (hcurrent.symm.trans hstate) havoids
  | forceState forced reason => exact absurd hstate havoids

theorem not_mem_failureEntries {calls : List MachineCall}
    (havoid : ∀ call ∈ calls, call.Avoids state) :
    state ∉ failureEntries config machine calls := by
  induction calls generalizing machine with
  | nil => simp [failureEntries]
  | cons call rest ih =>
      have hrest := @ih (StateMachine.observeCall config (machine, []) call).1
        fun later hlater => havoid later (List.mem_cons_of_mem call hlater)
      intro hmem
      rw [failureEntries] at hmem
      rcases List.mem_append.mp hmem with hfirst | hlater
      · split at hfirst
        · rename_i hmoved
          have hnext := (List.mem_singleton.mp hfirst).symm
          exact hmoved.1 (hnext.trans
            (state_of_avoids (havoid call List.mem_cons_self) hnext).symm)
        · cases hfirst
      · exact hrest hlater

/-- A step that evaluates to another state, or to nothing, adds nothing to the
streak. -/
theorem countFor_step {observation : Observation}
    (havoids : (evaluate observation).state ≠ state) :
    (machine.step config observation).2.countFor state ≤
      machine.countFor state := by
  cases heffective : machine.effective? observation with
  | none =>
      obtain ⟨last, hnone⟩ :=
        StateMachine.step_of_not_effective config heffective
      rw [hnone]
      exact le_refl (machine.countFor state)
  | some evaluation =>
      obtain ⟨-, rfl, -⟩ := StateMachine.evaluate_of_effective heffective
      have hcounted : (((machine.see (evaluate observation)).count
          (evaluate observation)).countFor state) = 0 := by
        unfold StateMachine.count
        split
        · rfl
        · exact StateMachine.countFor_countFailure_of_ne havoids
      rw [StateMachine.step_of_effective heffective]
      dsimp only
      split
      · exact hcounted.trans_le (Nat.zero_le _)
      · exact hcounted.trans_le (Nat.zero_le _)

end Avoids

section Course

variable {config : Config} {classifier : LogClassifier}
  {answers : CycleAnswers} {before next : Digest} {state : State}

theorem forceState_avoids {forced : State} {reason : String}
    (hother : state ≠ forced) :
    (MachineCall.forceState forced reason).Avoids state :=
  hother.symm

theorem Turn.avoids (hhealthy : state ≠ .healthy)
    (hmanual : state ≠ .manualInterventionRequired) (taken : Turn) :
    ∀ call ∈ taken.calls, call.Avoids state := by
  intro call hcall
  cases taken with
  | holds recovery => cases hcall
  | recovers counted =>
      rw [List.mem_singleton.mp hcall]
      exact forceState_avoids hhealthy
  | escalates counted detail =>
      rw [List.mem_singleton.mp hcall]
      exact forceState_avoids hmanual

theorem Begun.avoids {transition : Transition} {reply : Except PyError Bool}
    (hbegun : Begun config answers before transition reply next)
    (hrecovering : state ≠ .recovering)
    (hmanual : state ≠ .manualInterventionRequired) :
    ∃ calls, machineCalls next.effects = machineCalls before.effects ++ calls ∧
      ∀ call ∈ calls, call.Avoids state := by
  obtain ⟨calls, hcalls, hreply⟩ := hbegun.machineCalls_eq
  refine ⟨calls, hcalls, ?_⟩
  intro call hcall
  cases reply with
  | error error =>
      rw [hreply] at hcall
      cases hcall
  | ok restarting =>
      cases restarting with
      | false =>
          obtain ⟨reason, rfl⟩ := hreply
          rw [List.mem_singleton.mp hcall]
          exact forceState_avoids hmanual
      | true =>
          obtain ⟨reason, rfl⟩ := hreply
          rw [List.mem_singleton.mp hcall]
          exact forceState_avoids hrecovering

/-- Neither does a begun restart add to the streak of a state. -/
theorem Begun.countFor_le {transition : Transition}
    {reply : Except PyError Bool}
    (hbegun : Begun config answers before transition reply next) :
    next.machine.countFor state ≤ before.machine.countFor state := by
  cases hbegun with
  | raised hcall => exact le_rfl
  | refused hcall => exact Nat.zero_le _
  | unrecorded hcall hrecord => exact le_rfl
  | restarted hcall hrecord => exact Nat.zero_le _

/-- A cycle whose check does not evaluate to a state, and that state not one of
the three that are forced, neither moves the machine there nor adds to its
streak. -/
theorem Course.avoids {returned : Bool}
    (hcourse : Course config classifier answers before returned next)
    (hgathered : ∀ observation,
      gather config classifier answers = .ok observation →
        (evaluate observation).state ≠ state)
    (hforced : state ∉
      [State.healthy, .manualInterventionRequired, .recovering])
    (hbefore : machineCalls before.effects = []) :
    (∀ call ∈ machineCalls next.effects, call.Avoids state) ∧
      next.machine.countFor state ≤ before.machine.countFor state := by
  simp only [List.mem_cons, List.not_mem_nil, or_false, not_or] at hforced
  obtain ⟨hhealthy, hmanual, hrecovering⟩ := hforced
  cases hcourse with
  | blind hgather =>
      rw [hbefore]
      exact ⟨List.forall_mem_nil _, le_rfl⟩
  | @recovering observation progress _ hgather hprogress =>
      have hfirst : machineCalls (before.observe observation).effects = [] := by
        simp [hbefore]
      constructor
      · rw [machineCalls_take, hfirst, List.nil_append]
        exact Turn.avoids hhealthy hmanual _
      · cases turn config answers.monotonic progress observation with
        | holds recovery => exact le_rfl
        | recovers counted => exact Nat.zero_le _
        | escalates counted detail => exact Nat.zero_le _
  | @watching observation _ hgather hinactive =>
      have hstep := hgathered observation hgather
      have hcalls : machineCalls ((before.observe observation).step config
          observation).effects = [.step observation] := by
        simp [hbefore]
      rw [hcalls]
      refine ⟨fun call hcall => ?_, countFor_step hstep⟩
      rw [List.mem_singleton.mp hcall]
      exact hstep
  | @restarting observation transition begun _ after hgather hinactive
      htransition hcleared hbegun hreturned =>
      have hstep := hgathered observation hgather
      have hfirst : machineCalls ((before.observe observation).step config
          observation).effects = [.step observation] := by
        simp [hbefore]
      constructor
      · obtain ⟨calls, hcalls, havoid⟩ := hbegun.avoids hrecovering hmanual
        rw [hcalls, hfirst, List.singleton_append, List.forall_mem_cons]
        exact ⟨hstep, havoid⟩
      · exact hbegun.countFor_le.trans (countFor_step hstep)

end Course

/-- The check holds nothing against TeslaMate's logger. -/
structure Blameless (config : Config) (mqttConfig : MqttConfig)
    (classifier : LogClassifier) (client : WatchdogMqtt) (w : Watchdog)
    (answers : CycleAnswers) (now : ℚ) : Prop where
  healthy : (client.loggerHealth mqttConfig now).1.healthy ≠ some false
  stale : (client.loggerHealth mqttConfig now).1.stale = false
  /-- The check adds nothing to the streak of LOGGER_UNHEALTHY. -/
  streak : (cycle config classifier w
      (answers.listening mqttConfig client now)).2.machine.countFor
        .loggerUnhealthy ≤ w.machine.countFor .loggerUnhealthy
  /-- Nor is there a transition to it. -/
  entries : State.loggerUnhealthy ∉ failureEntries config w.machine
    (machineCalls (cycleTrace config classifier w
      (answers.listening mqttConfig client now)))

section Outage

variable {config : Config} {mqttConfig : MqttConfig}
  {classifier : LogClassifier} {client : WatchdogMqtt} {w : Watchdog}
  {answers : CycleAnswers} {now : ℚ} {trace : List Callback}

theorem blameless_of_verdict
    (hhealthy : (client.loggerHealth mqttConfig now).1.healthy ≠ some false)
    (hstale : (client.loggerHealth mqttConfig now).1.stale = false) :
    Blameless config mqttConfig classifier client w answers now := by
  have havoids := (cycle_course config classifier w
      (answers.listening mqttConfig client now)).avoids
    (fun observation hgather hstate => by
      have hfrom := gatheredFrom config classifier _ hgather
      have hgrounded := StateMachine.grounded_evaluate observation
      rcases hgrounded.logger hstate with hfalse | htrue
      · exact hhealthy (hfrom.loggerHealthy.symm.trans hfalse)
      · have hother := hfrom.loggerStale.symm.trans htrue
        exact absurd (hstale.symm.trans hother) Bool.false_ne_true)
    (by decide) rfl
  refine ⟨hhealthy, hstale, havoids.2, not_mem_failureEntries ?_⟩
  rw [cycleTrace, ← machineCalls_decides]
  exact havoids.1

theorem recalls_loggerHealth (hrecalls : WatchdogMqtt.Recalls trace client) :
    WatchdogMqtt.Recalls trace (client.loggerHealth mqttConfig now).2 := by
  unfold WatchdogMqtt.loggerHealth
  cases WatchdogMqtt.selected mqttConfig client with
  | some car => exact hrecalls
  | none =>
      dsimp only
      unfold WatchdogMqtt.warnIfPersistentlySilent
      split
      · exact hrecalls
      · split
        · exact hrecalls
        · split
          · exact hrecalls
          · exact ⟨hrecalls.link, hrecalls.connected, hrecalls.known,
              hrecalls.heard, hrecalls.healthy, hrecalls.state⟩

/-- Through callbacks and checks alike the client recalls the callbacks. -/
theorem recalls_run (happenings : List Happening) :
    WatchdogMqtt.Recalls (callbacks happenings)
      ((monitor config mqttConfig classifier).run (.initial, w)
        happenings).1.1 := by
  induction happenings using List.reverseRecOn with
  | nil => exact WatchdogMqtt.recalls_initial
  | append_singleton happenings happening ih =>
      rw [Mealy.run_concat]
      cases happening with
      | callback callback =>
          have hlast : callbacks (happenings ++ [.callback callback]) =
              callbacks happenings ++ [callback] := by
            simp [callbacks]
          rw [hlast]
          exact ih.apply callback
      | check answers now =>
          have hlast : callbacks (happenings ++ [.check answers now]) =
              callbacks happenings := by
            simp [callbacks]
          rw [hlast]
          by_cases hchecked : answers.check.isOk = true
          · simp only [Mealy.feed, monitor, hchecked, if_true]
            exact recalls_loggerHealth ih
          · simp only [Mealy.feed, monitor, hchecked]
            exact ih

end Outage

/-- The checks of an outage hold nothing against TeslaMate's logger exactly when
none of them finds the configured car, or any car if that one was never heard
of, last reported unhealthy. -/
theorem outage_blameless_iff (config : Config) (mqttConfig : MqttConfig)
    (classifier : LogClassifier) (w : Watchdog) (happenings : List Happening) :
    (∀ front answers now, front ++ [.check answers now] <+: happenings →
        Down (callbacks front) →
        Blameless config mqttConfig classifier
          ((monitor config mqttConfig classifier).run (.initial, w) front).1.1
          ((monitor config mqttConfig classifier).run (.initial, w) front).1.2
          answers now) ↔
      ∀ front answers now, front ++ [.check answers now] <+: happenings →
        Down (callbacks front) →
        ¬LeftUnhealthy mqttConfig (callbacks front) := by
  constructor
  · intro hblameless front answers now hfront hdown hleft
    exact (hblameless front answers now hfront hdown).healthy
      ((WatchdogMqtt.unhealthy_iff (recalls_run front)).mpr hleft)
  · intro hreported front answers now hfront hdown
    have hrecalls := @recalls_run config mqttConfig classifier w front
    apply blameless_of_verdict
    · intro hfalse
      exact hreported front answers now hfront hdown
        ((WatchdogMqtt.unhealthy_iff hrecalls).mp hfalse)
    · exact WatchdogMqtt.stale_of_down hrecalls hdown

/-- The car reports unhealthy, the connection is lost, and fifteen checks read
that one report. -/
def unhealthyOutage : List Happening :=
  [.callback (.connect false 0),
    .callback (.message "teslamate/cars/1/healthy" "false".toUTF8.toList 1 ""),
    .callback (.disconnect 2)] ++
  (List.range 15).map fun n => .check (.calm (60 * (n + 1))) (60 * (n + 1))

/-- The first of these checks already blames the logger; the last restarts
TeslaMate. -/
theorem outage_restarts_teslamate :
    ¬(∀ front answers now, front ++ [.check answers now] <+: unhealthyOutage →
        Down (callbacks front) →
        Blameless .fromEmptyEnv .fromEmptyEnv .withoutPatterns
          ((monitor .fromEmptyEnv .fromEmptyEnv .withoutPatterns).run
            (.initial, .build ⟨[], .missing⟩) front).1.1
          ((monitor .fromEmptyEnv .fromEmptyEnv .withoutPatterns).run
            (.initial, .build ⟨[], .missing⟩) front).1.2
          answers now) ∧
      restartCalls ((monitor .fromEmptyEnv .fromEmptyEnv .withoutPatterns).run
        (.initial, .build ⟨[], .missing⟩) unhealthyOutage).2 =
          ["teslamate"] := by
  constructor
  · intro hblameless
    have hdown : Down (callbacks (unhealthyOutage.take 3)) :=
      (WatchdogMqtt.down_iff _).mpr rfl
    have hfirst := hblameless (unhealthyOutage.take 3) _ _
      (List.take_prefix 4 unhealthyOutage) hdown
    exact hfirst.healthy (by decide +kernel)
  · decide +kernel

end TeslamateWatchdog
