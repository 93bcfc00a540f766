/-
The warning that no car has been heard from.  It is logged once in the life of
the client, by the first check that finds the silence, whatever the callbacks
and the checks in between are.
-/
import TeslamateWatchdog.BrokerOutage

namespace TeslamateWatchdog

open Foundation

namespace WatchdogMqtt

/-- The `connected_seconds` of the line that `_warn_if_persistently_silent`
logs, if it logs one. -/
def silenceWarning (config : MqttConfig) (now : ℚ) (client : WatchdogMqtt) :
    Option Int :=
  client.connectedSince.bind fun connectedSince =>
    if client.warnedNoMessages then none
    else if now - connectedSince < config.mqttParkedStaleSeconds then none
    else some (PyFloat.truncate (now - connectedSince))

/-- The warning that `logger_health` comes to. -/
def healthWarning (config : MqttConfig) (now : ℚ) (client : WatchdogMqtt) :
    Option Int :=
  if client.cars.isEmpty then client.silenceWarning config now else none

end WatchdogMqtt

/-- The MQTT client through callbacks and checks, with the warnings it logs.  A
check whose HTTP request raises does not come to ask it. -/
def warner (mqttConfig : MqttConfig) : Mealy WatchdogMqtt Happening Int where
  step client happening :=
    match happening with
    | .callback callback => (callback.apply client, [])
    | .check answers now =>
        if answers.check.isOk then
          ((client.loggerHealth mqttConfig now).2,
            (client.healthWarning mqttConfig now).toList)
        else (client, [])

/-- How long the connection has lasted, if it has for the time allowed to a
parked car, and no message came in all of the trace. -/
def silence (mqttConfig : MqttConfig) (trace : List Callback) (now : ℚ) :
    Option Int :=
  if trace.all (·.mentions.isNone) then
    (latest Callback.link trace).join.bind fun made =>
      if now - made < mqttConfig.mqttParkedStaleSeconds then none
      else some (PyFloat.truncate (now - made))
  else none

/-- Every check puts out the silence it finds. -/
def silences (mqttConfig : MqttConfig) :
    Mealy (List Callback) Happening Int where
  step trace happening :=
    match happening with
    | .callback callback => (trace ++ [callback], [])
    | .check answers now =>
        (trace, if answers.check.isOk then
          (silence mqttConfig trace now).toList else [])

namespace WatchdogMqtt

variable {mqttConfig : MqttConfig} {trace : List Callback}
  {client : WatchdogMqtt} {now : ℚ}

theorem selected_eq_none_iff :
    selected mqttConfig client = none ↔ client.cars = [] := by
  constructor
  · intro hnone
    rcases selected_cases mqttConfig client with
      ⟨primary, -, car, -, hselected⟩ | ⟨-, hselected⟩
    · rw [hnone] at hselected
      cases hselected
    · rw [hnone] at hselected
      exact List.head?_eq_none_iff.mp (Option.or_eq_none_iff.mp hselected.symm).2
  · intro hempty
    simp [selected, hempty]

/-- The warning is remembered, and is all that the check leaves behind. -/
theorem loggerHealth_client (mqttConfig : MqttConfig) (client : WatchdogMqtt)
    (now : ℚ) :
    (client.loggerHealth mqttConfig now).2 =
      if (client.healthWarning mqttConfig now).isSome then
        { client with warnedNoMessages := true }
      else client := by
  unfold loggerHealth healthWarning
  cases hselected : selected mqttConfig client with
  | some car =>
      have hcars : client.cars ≠ [] := fun hempty => by
        rw [selected_eq_none_iff.mpr hempty] at hselected
        cases hselected
      rw [List.isEmpty_eq_false_iff.mpr hcars]
      rfl
  | none =>
      rw [List.isEmpty_iff.mpr (selected_eq_none_iff.mp hselected), if_pos rfl]
      dsimp only
      unfold warnIfPersistentlySilent silenceWarning
      cases client.connectedSince with
      | none => rfl
      | some connectedSince =>
          dsimp only [Option.bind_some]
          split
          · rfl
          · split <;> rfl

theorem isEmpty_cars (hrecalls : Recalls trace client) :
    client.cars.isEmpty = trace.all (·.mentions.isNone) := by
  rw [Bool.eq_iff_iff, List.isEmpty_iff, List.all_eq_true]
  constructor
  · intro hempty callback hcallback
    rw [Option.isNone_iff_eq_none]
    cases hmentions : callback.mentions with
    | none => rfl
    | some carId =>
        have hknown := (hrecalls.known carId).mpr ⟨callback, hcallback, hmentions⟩
        simp [car?, hempty] at hknown
  · intro hsilent
    rw [List.eq_nil_iff_forall_not_mem]
    intro car hcar
    have hknown : (client.car? car.carId).isSome = true := by
      rw [car?_of_mem hcar]
      rfl
    obtain ⟨callback, hcallback, hmentions⟩ := (hrecalls.known _).mp hknown
    have hnone := hsilent callback hcallback
    rw [hmentions] at hnone
    cases hnone

/-- Until it has warned, the client warns of every silence. -/
theorem healthWarning_eq (hrecalls : Recalls trace client) :
    client.healthWarning mqttConfig now =
      if client.warnedNoMessages then none else silence mqttConfig trace now := by
  rw [healthWarning, silence, isEmpty_cars hrecalls, silenceWarning,
    hrecalls.link]
  cases client.warnedNoMessages with
  | false => rfl
  | true =>
      split
      · cases (latest Callback.link trace).join <;> rfl
      · rfl

theorem warnedNoMessages_apply (callback : Callback) (client : WatchdogMqtt) :
    (callback.apply client).warnedNoMessages = client.warnedNoMessages := by
  cases callback with
  | connect refused time => cases refused <;> rfl
  | disconnect time => rfl
  | message topic payload time wall => rfl

end WatchdogMqtt

section Runs

variable {mqttConfig : MqttConfig} {logged : WatchdogMqtt × List Int}
  {found : List Callback × List Int}

/-- The client recalls the callbacks, has logged the first of the silences that
were found, and knows whether there was one. -/
structure Warned (logged : WatchdogMqtt × List Int)
    (found : List Callback × List Int) : Prop where
  recalls : WatchdogMqtt.Recalls found.1 logged.1
  latch : logged.1.warnedNoMessages = !found.2.isEmpty
  warnings : logged.2 = found.2.take 1

theorem Warned.callback (hwarned : Warned logged found) (callback : Callback) :
    Warned ((warner mqttConfig).feed logged (.callback callback))
      ((silences mqttConfig).feed found (.callback callback)) where
  recalls := hwarned.recalls.apply callback
  latch := by
    show (callback.apply logged.1).warnedNoMessages = !(found.2 ++ []).isEmpty
    rw [WatchdogMqtt.warnedNoMessages_apply, hwarned.latch, List.append_nil]
  warnings := by
    show logged.2 ++ [] = (found.2 ++ []).take 1
    rw [hwarned.warnings, List.append_nil, List.append_nil]

/-- A check that does not come to ask the client changes nothing. -/
theorem Warned.unasked (hwarned : Warned logged found) {answers : CycleAnswers}
    (hraised : ¬answers.check.isOk = true) (now : ℚ) :
    Warned ((warner mqttConfig).feed logged (.check answers now))
      ((silences mqttConfig).feed found (.check answers now)) := by
  have hlogged : (warner mqttConfig).feed logged (.check answers now) =
      logged := by
    simp [Mealy.feed, warner, hraised]
  have hfound : (silences mqttConfig).feed found (.check answers now) =
      found := by
    simp [Mealy.feed, silences, hraised]
  rw [hlogged, hfound]
  exact hwarned

theorem Warned.asked (hwarned : Warned logged found) {answers : CycleAnswers}
    (hchecked : answers.check.isOk = true) (now : ℚ) :
    Warned ((warner mqttConfig).feed logged (.check answers now))
      ((silences mqttConfig).feed found (.check answers now)) := by
  have hlogged : (warner mqttConfig).feed logged (.check answers now) =
      ((logged.1.loggerHealth mqttConfig now).2, logged.2 ++
        (logged.1.healthWarning mqttConfig now).toList) := by
    simp [Mealy.feed, warner, hchecked]
  have hfound : (silences mqttConfig).feed found (.check answers now) =
      (found.1, found.2 ++ (silence mqttConfig found.1 now).toList) := by
    simp [Mealy.feed, silences, hchecked]
  have hwarning := @WatchdogMqtt.healthWarning_eq mqttConfig found.1 logged.1 now
    hwarned.recalls
  rw [hlogged, hfound]
  refine ⟨recalls_loggerHealth hwarned.recalls, ?_, ?_⟩
  · dsimp only
    have hlatch := hwarned.latch
    rw [WatchdogMqtt.loggerHealth_client, hwarning, hlatch]
    -- Whether a silence was found before decides, and then whether one is now.
    cases hbefore : found.2 with
    | nil =>
        rw [hbefore] at hlatch
        cases silence mqttConfig found.1 now with
        | none => exact hlatch
        | some seconds => rfl
    | cons seconds rest =>
        rw [hbefore] at hlatch
        exact hlatch
  · dsimp only
    rw [hwarning, hwarned.latch, hwarned.warnings]
    cases found.2 with
    | nil => cases silence mqttConfig found.1 now <;> rfl
    | cons seconds rest => rfl

end Runs

/-- The client of the whole watchdog is the one that warns here. -/
theorem monitor_client (config : Config) (mqttConfig : MqttConfig)
    (classifier : LogClassifier) (w : Watchdog) (happenings : List Happening) :
    ((monitor config mqttConfig classifier).run (.initial, w)
      happenings).1.1 = ((warner mqttConfig).run .initial happenings).1 := by
  refine Mealy.run_related
    (fun (run : (WatchdogMqtt × Watchdog) × List Effect)
      (track : WatchdogMqtt × List Int) => run.1.1 = track.1)
    rfl ?_ happenings
  intro run track hsame happening
  cases happening with
  | callback callback => exact congrArg callback.apply hsame
  | check answers now =>
      by_cases hchecked : answers.check.isOk = true
      · simp [Mealy.feed, monitor, warner, hchecked, hsame]
      · simp [Mealy.feed, monitor, warner, hchecked, hsame]

/-- Through any callbacks and checks, the client logs the first silence that a
check finds, and no other. -/
theorem silence_warned_once (mqttConfig : MqttConfig)
    (happenings : List Happening) :
    ((warner mqttConfig).run .initial happenings).2 =
      ((silences mqttConfig).run [] happenings).2.take 1 := by
  have hwarned : Warned ((warner mqttConfig).run .initial happenings)
      ((silences mqttConfig).run [] happenings) := by
    apply Mealy.run_related Warned
    · exact ⟨WatchdogMqtt.recalls_initial, rfl, rfl⟩
    · intro logged found hbefore happening
      cases happening with
      | callback callback => exact hbefore.callback callback
      | check answers now =>
          by_cases hchecked : answers.check.isOk = true
          · exact hbefore.asked hchecked now
          · exact hbefore.unasked hchecked now
  exact hwarned.warnings

/-- After the time allowed to a parked car, and not again. -/
example : ((warner .fromEmptyEnv).run .initial [.callback (.connect false 0),
    .check (.calm 0) 5399, .check (.calm 0) 5400, .check (.calm 0) 9000]).2 =
      [5400] := by decide +kernel

end TeslamateWatchdog
