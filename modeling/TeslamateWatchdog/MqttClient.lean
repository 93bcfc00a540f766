/-
The MQTT client as the checks use it: what the callbacks keep of the broker
connection and of the car topics, and the logger verdict read from that.
-/
import TeslamateWatchdog.CheckCycle

namespace TeslamateWatchdog

open Foundation

/-- Car topics derived from `TESLAMATE_HEALTH_TOPIC`. -/
structure TopicLayout where
  healthFilter : String
  stateFilter : Option String
  primaryCarId : Option String
deriving Repr, DecidableEq

namespace TopicLayout

/-- `[segment for segment in topic.split("/") if segment]`. -/
def segments (topic : String) : List String :=
  (PyText.split topic '/').filter (· ≠ "")

/-- A topic of an unrecognised shape is watched as it is, without the state
topic that gates staleness. -/
def derive (healthTopic : String) : TopicLayout :=
  let parts := segments healthTopic
  if 3 ≤ parts.length ∧ parts.getLast? = some "healthy" then
    let root := parts.take (parts.length - 2)
    ⟨"/".intercalate (root ++ ["+", "healthy"]),
      some ("/".intercalate (root ++ ["+", "state"])),
      parts[parts.length - 2]?⟩
  else ⟨healthTopic, none, none⟩

def carIdFromTopic (topic : String) : String :=
  let parts := segments topic
  if 2 ≤ parts.length then parts.getD (parts.length - 2) "" else topic

example : derive "teslamate/cars/1/healthy" =
    ⟨"teslamate/cars/+/healthy", some "teslamate/cars/+/state", some "1"⟩ := by
  decide +kernel

end TopicLayout

/-- The part of the configuration that the MQTT client reads.  The topics are
derived from the health topic, and staleness detection needs the state topic. -/
structure MqttConfig where
  healthTopic : String
  mqttStaleSeconds : Nat
  mqttParkedStaleSeconds : Nat
  stalenessDetectionEnabled : Bool
  mqttStaleSeconds_pos : 1 ≤ mqttStaleSeconds
  mqttParkedStaleSeconds_pos : 1 ≤ mqttParkedStaleSeconds
  stateFilter_of_staleness : stalenessDetectionEnabled = true →
    (TopicLayout.derive healthTopic).stateFilter ≠ none

def MqttConfig.topics (config : MqttConfig) : TopicLayout :=
  .derive config.healthTopic

/-- What `Config.from_env` returns when only `MQTT_HOST` is set. -/
def MqttConfig.fromEmptyEnv : MqttConfig where
  healthTopic := "teslamate/cars/1/healthy"
  mqttStaleSeconds := 600
  mqttParkedStaleSeconds := 5400
  stalenessDetectionEnabled := true
  mqttStaleSeconds_pos := by decide
  mqttParkedStaleSeconds_pos := by decide
  stateFilter_of_staleness := by decide +kernel

def truePayloads : List String := ["true", "1", "on", "online"]

def falsePayloads : List String := ["false", "0", "off", "offline"]

/-- Car states in which TeslaMate publishes every few seconds. -/
def activeCarStates : List String := ["driving", "charging"]

/-- Case-insensitive tri-state parse.  Unrecognised payloads become `none`. -/
def parseBoolPayload : Option String → Option Bool
  | none => none
  | some payload =>
      let normalised := PyText.lower (PyText.strip payload)
      if normalised ∈ truePayloads then some true
      else if normalised ∈ falsePayloads then some false
      else none

structure CarObservation where
  carId : String
  healthyPayload : Option String := none
  healthy : Option Bool := none
  healthyMonotonic : Option ℚ := none
  healthyAt : Option String := none
  statePayload : Option String := none
  stateMonotonic : Option ℚ := none
  stateAt : Option String := none
deriving Repr, DecidableEq

/-- What a message changes of the car it is about.  The state of a car is text
and never parsed. -/
def CarObservation.hear (topic payload : String) (nowMonotonic : ℚ)
    (nowWall : String) (car : CarObservation) : CarObservation :=
  if PyText.endsWith topic "/healthy" then
    { car with
      healthyPayload := some payload
      healthy := parseBoolPayload (some payload)
      healthyMonotonic := some nowMonotonic
      healthyAt := some nowWall }
  else if PyText.endsWith topic "/state" then
    { car with
      statePayload := some payload
      stateMonotonic := some nowMonotonic
      stateAt := some nowWall }
  else car

@[simp]
theorem CarObservation.hear_carId (topic payload : String) (nowMonotonic : ℚ)
    (nowWall : String) (car : CarObservation) :
    (car.hear topic payload nowMonotonic nowWall).carId = car.carId := by
  unfold hear
  split
  · rfl
  · split <;> rfl

/-- `cars.setdefault(car_id, …)`, and a change of that car. -/
def updateCar (carId : String) (change : CarObservation → CarObservation) :
    List CarObservation → List CarObservation
  | [] => [change { carId := carId }]
  | car :: rest =>
      if car.carId = carId then change car :: rest
      else car :: updateCar carId change rest

/-- A car keeps its place; a new one comes last. -/
theorem map_carId_updateCar {change : CarObservation → CarObservation}
    (hchange : ∀ car, (change car).carId = car.carId) (carId : String)
    (cars : List CarObservation) :
    (updateCar carId change cars).map (·.carId) =
      if carId ∈ cars.map (·.carId) then cars.map (·.carId)
      else cars.map (·.carId) ++ [carId] := by
  induction cars with
  | nil => simp [updateCar, hchange]
  | cons car rest ih =>
      rw [updateCar]
      by_cases hcar : car.carId = carId
      · simp [hchange, hcar]
      · have hother : carId ∈ car.carId :: rest.map (·.carId) ↔
            carId ∈ rest.map (·.carId) := by
          rw [List.mem_cons, or_iff_right (Ne.symm hcar)]
        simp only [if_neg hcar, List.map_cons, ih, hother]
        by_cases hknown : carId ∈ rest.map (·.carId)
        · rw [if_pos hknown, if_pos hknown]
        · rw [if_neg hknown, if_neg hknown, List.cons_append]

theorem nodup_updateCar {change : CarObservation → CarObservation}
    (hchange : ∀ car, (change car).carId = car.carId) (carId : String)
    {cars : List CarObservation} (hnodup : (cars.map (·.carId)).Nodup) :
    ((updateCar carId change cars).map (·.carId)).Nodup := by
  rw [map_carId_updateCar hchange]
  by_cases hknown : carId ∈ cars.map (·.carId)
  · rw [if_pos hknown]
    exact hnodup
  · rw [if_neg hknown]
    exact List.nodup_append.mpr ⟨hnodup, List.nodup_singleton carId,
      fun known hmem other hother hsame =>
        hknown (List.mem_singleton.mp hother ▸ hsame ▸ hmem)⟩

/-- The cars are in the order they were first heard from, each one once. -/
structure WatchdogMqtt where
  cars : List CarObservation
  connected : Bool
  connectedSince : Option ℚ
  warnedNoMessages : Bool
  cars_nodup : (cars.map (·.carId)).Nodup
deriving Repr, DecidableEq

namespace WatchdogMqtt

def initial : WatchdogMqtt := ⟨[], false, none, false, List.nodup_nil⟩

/-- `_on_connect`; a refused connection leaves everything as it was. -/
def onConnect (refused : Bool) (now : ℚ) (client : WatchdogMqtt) :
    WatchdogMqtt :=
  if refused then client
  else { client with connected := true, connectedSince := some now }

/-- `_on_disconnect`. -/
def onDisconnect (client : WatchdogMqtt) : WatchdogMqtt :=
  { client with connected := false, connectedSince := none }

/-- `_on_message`. -/
def onMessage (topic : String) (payload : List UInt8) (nowMonotonic : ℚ)
    (nowWall : String) (client : WatchdogMqtt) : WatchdogMqtt :=
  let payload := PyText.strip (Utf8.decode payload)
  let change := CarObservation.hear topic payload nowMonotonic nowWall
  { client with
    cars := updateCar (TopicLayout.carIdFromTopic topic) change client.cars
    cars_nodup := nodup_updateCar
      (CarObservation.hear_carId topic payload nowMonotonic nowWall)
      _ client.cars_nodup }

/-- The silence allowed to a car, by what it is doing. -/
def staleLimit (config : MqttConfig) (car : CarObservation) : Nat :=
  let state := PyText.lower (PyText.strip (car.statePayload.getD ""))
  if state ∈ activeCarStates then config.mqttStaleSeconds
  else config.mqttParkedStaleSeconds

/-- `_staleness`: whether the heartbeat has stopped for longer than that.  A car
never heard from is not stale, and the clock does not run while the watchdog is
disconnected. -/
def staleness (config : MqttConfig) (client : WatchdogMqtt)
    (car : CarObservation) (now : ℚ) : Bool × Option String :=
  if !config.stalenessDetectionEnabled then (false, none)
  else
    match car.healthyMonotonic, client.connectedSince with
    | none, _ => (false, none)
    | some _, none => (false, none)
    | some healthyMonotonic, some connectedSince =>
        let reference := max healthyMonotonic connectedSince
        let limit := staleLimit config car
        let age := now - reference
        if age ≤ limit then (false, none)
        else
          let described :=
            textOr (car.statePayload.getD "") "in an unknown state"
          (true, some ("car " ++ car.carId ++ " is " ++ described ++
            " but 'healthy' has been silent for " ++
            toString (PyFloat.truncate age) ++ "s (limit " ++ toString limit ++
            "s)"))

/-- `_warn_if_persistently_silent`, without the line it logs. -/
def warnIfPersistentlySilent (config : MqttConfig) (now : ℚ)
    (client : WatchdogMqtt) : WatchdogMqtt :=
  match client.connectedSince with
  | none => client
  | some connectedSince =>
      if client.warnedNoMessages then client
      else if now - connectedSince < config.mqttParkedStaleSeconds then client
      else { client with warnedNoMessages := true }

/-- The car `logger_health` reports on: the configured one, or else the first
that reports unhealthy, or else the first. -/
def selected (config : MqttConfig) (client : WatchdogMqtt) :
    Option CarObservation :=
  match config.topics.primaryCarId.bind fun primary =>
      client.cars.find? (·.carId == primary) with
  | some car => some car
  | none =>
      let unhealthy := client.cars.filter (·.healthy == some false)
      unhealthy.head?.or client.cars.head?

/-- How an f-string shows a tri-state. -/
def showTristate : Option Bool → String
  | none => "None"
  | some true => "True"
  | some false => "False"

/-- `logger_health`: the car topics summarised into a single verdict. -/
def loggerHealth (config : MqttConfig) (client : WatchdogMqtt) (now : ℚ) :
    LoggerHealth × WatchdogMqtt :=
  match selected config client with
  | none =>
      (⟨none, false, "no car messages received yet"⟩,
        client.warnIfPersistentlySilent config now)
  | some car =>
      let (stale, staleDetail) := staleness config client car now
      (⟨car.healthy, stale, staleDetail.getD
        ("car " ++ car.carId ++ " healthy=" ++ showTristate car.healthy)⟩,
        client)

end WatchdogMqtt

end TeslamateWatchdog
