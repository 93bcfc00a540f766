/-
The MQTT client over a whole trace of callbacks.  Every field of it is what the
latest callback of one kind says, so a verdict on the heartbeat is a statement
about the trace: a connection that has lasted, a car that has been silent.
-/
import TeslamateWatchdog.Foundation.Latest
import TeslamateWatchdog.MqttClient

namespace TeslamateWatchdog

open Foundation

/-- A callback of the MQTT client, and the monotonic clock when it runs. -/
inductive Callback where
  | connect (refused : Bool) (time : ℚ)
  | disconnect (time : ℚ)
  | message (topic : String) (payload : List UInt8) (time : ℚ) (wall : String)
deriving Repr, DecidableEq

namespace Callback

def time : Callback → ℚ
  | .connect _ time => time
  | .disconnect time => time
  | .message _ _ time _ => time

/-- What the callback does to the client. -/
def apply : Callback → WatchdogMqtt → WatchdogMqtt
  | .connect refused time, client => client.onConnect refused time
  | .disconnect _, client => client.onDisconnect
  | .message topic payload time wall, client =>
      client.onMessage topic payload time wall

/-- What the callback says of the connection: the time it was made, or that it
is gone. -/
def link : Callback → Option (Option ℚ)
  | .connect true _ => none
  | .connect false time => some (some time)
  | .disconnect _ => some none
  | .message _ _ _ _ => none

/-- The car a message is about. -/
def mentions : Callback → Option String
  | .message topic _ _ _ => some (TopicLayout.carIdFromTopic topic)
  | _ => none

/-- The time and the text, not yet trimmed, of a healthy message about the
car. -/
def heartbeat (carId : String) : Callback → Option (ℚ × String)
  | .message topic payload time _ =>
      if TopicLayout.carIdFromTopic topic = carId ∧
          PyText.endsWith topic "/healthy" = true then
        some (time, Utf8.decode payload)
      else none
  | _ => none

/-- The text of a state message about the car. -/
def carState (carId : String) : Callback → Option String
  | .message topic payload _ _ =>
      if TopicLayout.carIdFromTopic topic = carId ∧
          PyText.endsWith topic "/healthy" = false ∧
          PyText.endsWith topic "/state" = true then
        some (Utf8.decode payload)
      else none
  | _ => none

/-- Only a successful connect makes a connection. -/
theorem eq_connect_of_link {callback : Callback} {made : ℚ}
    (hmade : callback.link = some (some made)) :
    callback = .connect false made := by
  cases callback with
  | connect refused time =>
      cases refused with
      | true => cases hmade
      | false =>
          cases hmade
          rfl
  | disconnect time => cases hmade
  | message topic payload time wall => cases hmade

theorem time_of_heartbeat {carId : String} {callback : Callback}
    {beat : ℚ × String} (hbeat : callback.heartbeat carId = some beat) :
    callback.time = beat.1 := by
  cases callback with
  | message topic payload time wall =>
      obtain ⟨-, hsome⟩ := Option.ite_none_right_eq_some.mp hbeat
      exact congrArg Prod.fst (Option.some.inj hsome)
  | _ => cases hbeat

end Callback

/-- The client after a trace of callbacks. -/
def WatchdogMqtt.after (trace : List Callback) : WatchdogMqtt :=
  trace.foldl (fun client callback => callback.apply client) .initial

namespace WatchdogMqtt

theorem after_concat (trace : List Callback) (callback : Callback) :
    after (trace ++ [callback]) = callback.apply (after trace) := by
  simp [after]

def car? (client : WatchdogMqtt) (carId : String) : Option CarObservation :=
  client.cars.find? (·.carId == carId)

theorem find?_updateCar {change : CarObservation → CarObservation}
    (hchange : ∀ car, (change car).carId = car.carId) (carId other : String)
    (cars : List CarObservation) :
    (updateCar carId change cars).find? (·.carId == other) =
      if carId = other then
        some (change ((cars.find? (·.carId == carId)).getD { carId := carId }))
      else cars.find? (·.carId == other) := by
  induction cars with
  | nil =>
      by_cases hother : carId = other <;> simp [updateCar, hchange, hother]
  | cons car rest ih =>
      rw [updateCar]
      by_cases hcar : car.carId = carId
      · rw [if_pos hcar]
        by_cases hother : carId = other
        · simp [hchange, hcar, hother]
        · simp [hchange, hcar, hother]
      · rw [if_neg hcar]
        by_cases hother : car.carId = other
        · have hne : carId ≠ other := fun hsame => hcar (hother.trans hsame.symm)
          simp [hother, hne]
        · simp [hother, hcar, ih]

/-- The client's fields, each as the latest callback that says something about
it. -/
structure Recalls (trace : List Callback) (client : WatchdogMqtt) : Prop where
  link : client.connectedSince = (latest Callback.link trace).join
  connected : client.connected = client.connectedSince.isSome
  known : ∀ carId, (client.car? carId).isSome = true ↔
    ∃ callback ∈ trace, callback.mentions = some carId
  heard : ∀ carId, (client.car? carId).bind (·.healthyMonotonic) =
    (latest (Callback.heartbeat carId) trace).bind fun beat => some beat.1
  healthy : ∀ carId, (client.car? carId).bind (·.healthy) =
    (latest (Callback.heartbeat carId) trace).bind fun beat =>
      parseBoolPayload (some beat.2)
  state : ∀ carId, (client.car? carId).bind (·.statePayload) =
    (latest (Callback.carState carId) trace).bind fun text =>
      some (PyText.strip text)

section Message

variable {trace : List Callback} {client : WatchdogMqtt} (topic : String)
  (payload : List UInt8) (time : ℚ) (wall carId : String)

theorem car?_onMessage :
    (client.onMessage topic payload time wall).car? carId =
      if TopicLayout.carIdFromTopic topic = carId then
        some (((client.car? carId).getD { carId := carId }).hear topic
          (PyText.strip (Utf8.decode payload)) time wall)
      else client.car? carId := by
  unfold onMessage car?
  rw [find?_updateCar (CarObservation.hear_carId _ _ _ _)]
  by_cases hcar : TopicLayout.carIdFromTopic topic = carId
  · rw [if_pos hcar, if_pos hcar, hcar]
  · rw [if_neg hcar, if_neg hcar]

/-- A field that a message overwrites or leaves alone follows what the message
says of it. -/
theorem field_onMessage {U V : Type} {field : CarObservation → Option V}
    {reads : Callback → Option U} {read : U → Option V}
    (hfresh : field { carId := carId } = none)
    (hhear : TopicLayout.carIdFromTopic topic = carId → ∀ car,
      field (car.hear topic (PyText.strip (Utf8.decode payload)) time wall) =
        ((reads (.message topic payload time wall)).map read).getD (field car))
    (hother : TopicLayout.carIdFromTopic topic ≠ carId →
      reads (.message topic payload time wall) = none)
    (hfield : (client.car? carId).bind field = (latest reads trace).bind read) :
    ((client.onMessage topic payload time wall).car? carId).bind field =
      (latest reads (trace ++ [.message topic payload time wall])).bind read := by
  rw [car?_onMessage]
  by_cases hcar : TopicLayout.carIdFromTopic topic = carId
  · have hbefore : field ((client.car? carId).getD { carId := carId }) =
        (latest reads trace).bind read := by
      rw [← hfield]
      cases client.car? carId with
      | none => exact hfresh
      | some car => rfl
    rw [if_pos hcar, Option.bind_some, hhear hcar, hbefore, latest_concat]
    cases reads (.message topic payload time wall) <;> rfl
  · rw [if_neg hcar, latest_concat_of_none (hother hcar)]
    exact hfield

/-- A field that a heartbeat overwrites, and every other message leaves
alone. -/
theorem field_heartbeat {V : Type} {field : CarObservation → Option V}
    {read : ℚ × String → Option V} (hfresh : field { carId := carId } = none)
    (hbeats : PyText.endsWith topic "/healthy" = true → ∀ car : CarObservation,
      field (car.hear topic (PyText.strip (Utf8.decode payload)) time wall) =
        read (time, Utf8.decode payload))
    (hkeeps : ¬PyText.endsWith topic "/healthy" = true → ∀ car : CarObservation,
      field (car.hear topic (PyText.strip (Utf8.decode payload)) time wall) =
        field car)
    (hfield : (client.car? carId).bind field =
      (latest (Callback.heartbeat carId) trace).bind read) :
    ((client.onMessage topic payload time wall).car? carId).bind field =
      (latest (Callback.heartbeat carId)
        (trace ++ [.message topic payload time wall])).bind read := by
  apply field_onMessage topic payload time wall carId hfresh _ _ hfield
  · intro hcar car
    by_cases hbeat : PyText.endsWith topic "/healthy" = true
    · simp [Callback.heartbeat, hcar, hbeat, hbeats hbeat]
    · simp [Callback.heartbeat, hbeat, hkeeps hbeat]
  · intro hcar
    simp [Callback.heartbeat, hcar]

theorem Recalls.message (hrecalls : Recalls trace client) :
    Recalls (trace ++ [.message topic payload time wall])
      (client.onMessage topic payload time wall) where
  link := by
    rw [latest_concat_of_none rfl]
    exact hrecalls.link
  connected := hrecalls.connected
  known := by
    intro carId
    rw [car?_onMessage]
    by_cases hcar : TopicLayout.carIdFromTopic topic = carId
    · simp [hcar, Callback.mentions]
    · rw [if_neg hcar, hrecalls.known carId]
      simp [hcar, Callback.mentions]
  heard := by
    intro carId
    apply field_heartbeat topic payload time wall carId rfl
      (fun hbeat car => ?_) (fun hbeat car => ?_) (hrecalls.heard carId)
    · simp [CarObservation.hear, hbeat]
    · by_cases hstate : PyText.endsWith topic "/state" = true <;>
        simp [CarObservation.hear, hbeat, hstate]
  healthy := by
    intro carId
    apply field_heartbeat topic payload time wall carId rfl
      (fun hbeat car => ?_) (fun hbeat car => ?_) (hrecalls.healthy carId)
    · simp [CarObservation.hear, hbeat, parseBoolPayload]
    · by_cases hstate : PyText.endsWith topic "/state" = true <;>
        simp [CarObservation.hear, hbeat, hstate]
  state := by
    intro carId
    apply field_onMessage topic payload time wall carId rfl _ _
      (hrecalls.state carId)
    · intro hcar car
      by_cases hbeat : PyText.endsWith topic "/healthy" = true
      · simp [CarObservation.hear, Callback.carState, hbeat]
      · by_cases hstate : PyText.endsWith topic "/state" = true <;>
          simp [CarObservation.hear, Callback.carState, hcar, hbeat, hstate]
    · intro hcar
      simp [Callback.carState, hcar]

end Message

/-- A callback that is no message leaves the cars as they are. -/
theorem Recalls.linked {trace : List Callback} {client : WatchdogMqtt}
    (hrecalls : Recalls trace client) (callback : Callback)
    (hmentions : callback.mentions = none)
    (hlink : (callback.apply client).connectedSince =
      (latest Callback.link (trace ++ [callback])).join)
    (hconnected : (callback.apply client).connected =
      (callback.apply client).connectedSince.isSome) :
    Recalls (trace ++ [callback]) (callback.apply client) := by
  have hcars : (callback.apply client).cars = client.cars := by
    cases callback with
    | connect refused time => cases refused <;> rfl
    | disconnect time => rfl
    | message topic payload time wall => cases hmentions
  have hcar : ∀ carId,
      (callback.apply client).car? carId = client.car? carId := by
    intro carId
    rw [car?, car?, hcars]
  have hsilent : ∀ carId, callback.heartbeat carId = none ∧
      callback.carState carId = none := by
    intro carId
    cases callback with
    | message topic payload time wall => cases hmentions
    | _ => exact ⟨rfl, rfl⟩
  refine ⟨hlink, hconnected, ?_, ?_, ?_, ?_⟩
  · intro carId
    rw [hcar, hrecalls.known carId]
    simp [hmentions]
  · intro carId
    rw [hcar, latest_concat_of_none (hsilent carId).1]
    exact hrecalls.heard carId
  · intro carId
    rw [hcar, latest_concat_of_none (hsilent carId).1]
    exact hrecalls.healthy carId
  · intro carId
    rw [hcar, latest_concat_of_none (hsilent carId).2]
    exact hrecalls.state carId

theorem Recalls.apply {trace : List Callback} {client : WatchdogMqtt}
    (hrecalls : Recalls trace client) (callback : Callback) :
    Recalls (trace ++ [callback]) (callback.apply client) := by
  cases callback with
  | connect refused time =>
      cases refused with
      | true =>
          apply hrecalls.linked (.connect true time) rfl _ hrecalls.connected
          rw [latest_concat_of_none rfl]
          exact hrecalls.link
      | false =>
          apply hrecalls.linked (.connect false time) rfl _ rfl
          simp [latest_concat, Callback.link, Callback.apply, onConnect]
  | disconnect time =>
      apply hrecalls.linked (.disconnect time) rfl _ rfl
      simp [latest_concat, Callback.link, Callback.apply, onDisconnect]
  | message topic payload time wall =>
      exact hrecalls.message topic payload time wall

theorem recalls_initial : Recalls [] initial :=
  ⟨rfl, rfl, by simp [initial, car?], fun _ => rfl, fun _ => rfl, fun _ => rfl⟩

theorem recalls_after (trace : List Callback) : Recalls trace (after trace) := by
  induction trace using List.reverseRecOn with
  | nil => exact recalls_initial
  | append_singleton trace callback ih =>
      rw [after_concat]
      exact ih.apply callback

/-- Time does not run backwards in the trace, nor from its end to `now`. -/
def Timely (trace : List Callback) (now : ℚ) : Prop :=
  (trace.map Callback.time ++ [now]).Pairwise (· ≤ ·)

/-- The car has received a healthy message in the trace. -/
def Heard (trace : List Callback) (carId : String) : Prop :=
  ∃ callback ∈ trace, (callback.heartbeat carId).isSome = true

/-- One connection to the broker, made by a successful connect with neither a
disconnect nor another successful connect after it, has lasted up to `now` for
more than `seconds`. -/
def ConnectedFor (trace : List Callback) (seconds now : ℚ) : Prop :=
  ∃ front made rest, trace = front ++ .connect false made :: rest ∧
    (∀ callback ∈ rest, callback.link = none) ∧ seconds < now - made

/-- The car has received no healthy message in the last `seconds` seconds. -/
def SilentFor (trace : List Callback) (carId : String) (seconds now : ℚ) :
    Prop :=
  ∀ callback ∈ trace, (callback.heartbeat carId).isSome = true →
    ¬(now - seconds ≤ callback.time ∧ callback.time ≤ now)

/-- The silence that the car's latest state allows it: the payload, trimmed and
lower-cased, decides. -/
def allowedSilence (config : MqttConfig) (trace : List Callback)
    (carId : String) : Nat :=
  if ∃ state ∈ latest (Callback.carState carId) trace,
      PyText.lower (PyText.strip state) ∈ activeCarStates then
    config.mqttStaleSeconds
  else config.mqttParkedStaleSeconds

theorem car?_of_mem {client : WatchdogMqtt} {car : CarObservation}
    (hcar : car ∈ client.cars) : client.car? car.carId = some car := by
  have hknown : (client.cars.find? (·.carId == car.carId)).isSome = true :=
    List.find?_isSome.mpr ⟨car, hcar, beq_self_eq_true car.carId⟩
  obtain ⟨found, hfound⟩ := Option.isSome_iff_exists.mp hknown
  have hsame : found.carId = car.carId := by
    simpa using List.find?_some hfound
  have hnodup := client.cars_nodup
  rw [car?, hfound,
    List.inj_on_of_nodup_map hnodup (List.mem_of_find?_eq_some hfound) hcar hsame]

theorem mem_of_selected {config : MqttConfig} {client : WatchdogMqtt}
    {car : CarObservation} (hselected : selected config client = some car) :
    car ∈ client.cars := by
  unfold selected at hselected
  split at hselected
  · rename_i found hprimary
    obtain rfl := Option.some.inj hselected
    obtain ⟨primary, -, hfind⟩ := Option.bind_eq_some_iff.mp hprimary
    exact List.mem_of_find?_eq_some hfind
  · rcases Option.or_eq_some_iff.mp hselected with hunhealthy | ⟨-, hfirst⟩
    · exact List.mem_of_mem_filter (List.mem_of_mem_head? hunhealthy)
    · exact List.mem_of_mem_head? hfirst

theorem loggerHealth_healthy {mqttConfig : MqttConfig} {client : WatchdogMqtt}
    {now : ℚ} :
    (client.loggerHealth mqttConfig now).1.healthy =
      (selected mqttConfig client).bind (·.healthy) := by
  unfold loggerHealth
  cases selected mqttConfig client <;> rfl

/-- The configured car if it is known, or else the first unhealthy one, or else
the first. -/
theorem selected_cases (mqttConfig : MqttConfig) (client : WatchdogMqtt) :
    (∃ primary ∈ mqttConfig.topics.primaryCarId,
        ∃ car, client.car? primary = some car ∧
          selected mqttConfig client = some car) ∨
      (∀ primary ∈ mqttConfig.topics.primaryCarId,
        client.car? primary = none) ∧
        selected mqttConfig client =
          (client.cars.filter (·.healthy == some false)).head?.or
            client.cars.head? := by
  unfold selected
  cases hprimary : mqttConfig.topics.primaryCarId with
  | none => exact .inr ⟨by simp, rfl⟩
  | some primary =>
      rw [Option.bind_some]
      cases hcar : client.cars.find? (·.carId == primary) with
      | some car => exact .inl ⟨primary, rfl, car, hcar, rfl⟩
      | none =>
          refine .inr ⟨?_, rfl⟩
          intro other hother
          obtain rfl := Option.some.inj hother
          exact hcar

/-- Among the cars an unhealthy one comes first. -/
theorem first_unhealthy_iff (cars : List CarObservation) :
    ((cars.filter (·.healthy == some false)).head?.or cars.head?).bind
        (·.healthy) = some false ↔
      ∃ car ∈ cars, car.healthy = some false := by
  cases hunhealthy : (cars.filter (·.healthy == some false)).head? with
  | some car =>
      have hcar := List.mem_filter.mp (List.mem_of_mem_head? hunhealthy)
      have hfalse : car.healthy = some false := by simpa using hcar.2
      simp only [Option.some_or, Option.bind_some, hfalse, true_iff]
      exact ⟨car, hcar.1, hfalse⟩
  | none =>
      have hwell : ∀ car ∈ cars, car.healthy ≠ some false := by
        simpa using hunhealthy
      constructor
      · intro hfirst
        obtain ⟨car, hcar, hfalse⟩ := Option.bind_eq_some_iff.mp hfirst
        exact ⟨car, List.mem_of_mem_head? hcar, hfalse⟩
      · rintro ⟨car, hcar, hfalse⟩
        exact absurd hfalse (hwell car hcar)

/-- The verdict in terms of the two clocks the client keeps. -/
theorem staleness_iff {config : MqttConfig} {client : WatchdogMqtt}
    {car : CarObservation} {now : ℚ} :
    (staleness config client car now).1 = true ↔
      config.stalenessDetectionEnabled = true ∧
        ∃ beat made, car.healthyMonotonic = some beat ∧
          client.connectedSince = some made ∧
          (staleLimit config car : ℚ) < now - beat ∧
          (staleLimit config car : ℚ) < now - made := by
  have hgate : ∀ verdict : Bool × Option String,
      (if !config.stalenessDetectionEnabled then (false, none)
        else verdict).1 = true ↔
        config.stalenessDetectionEnabled = true ∧ verdict.1 = true := by
    intro verdict
    cases config.stalenessDetectionEnabled with
    | true =>
        exact (and_iff_right rfl).symm
    | false =>
        refine iff_of_false Bool.false_ne_true ?_
        intro hboth
        exact Bool.false_ne_true hboth.1
  have hlimit : ∀ (age : ℚ) (described : Option String),
      (if age ≤ staleLimit config car then (false, none)
        else (true, described)).1 = true ↔
        (staleLimit config car : ℚ) < age := by
    intro age described
    by_cases hage : age ≤ staleLimit config car
    · rw [if_pos hage]
      exact iff_of_false Bool.false_ne_true (not_lt.mpr hage)
    · rw [if_neg hage]
      exact iff_of_true rfl (not_le.mp hage)
  unfold staleness
  rw [hgate]
  apply and_congr_right
  intro _
  cases hbeat : car.healthyMonotonic with
  | none =>
      refine iff_of_false Bool.false_ne_true ?_
      rintro ⟨_, _, hnone, _⟩
      cases hnone
  | some beat =>
      cases hmade : client.connectedSince with
      | none =>
          refine iff_of_false Bool.false_ne_true ?_
          rintro ⟨_, _, _, hnone, _⟩
          cases hnone
      | some made =>
          have hclocks : (staleLimit config car : ℚ) < now - max beat made ↔
              (staleLimit config car : ℚ) < now - beat ∧
                (staleLimit config car : ℚ) < now - made := by
            rw [lt_sub_comm, max_lt_iff, lt_sub_comm, @lt_sub_comm _ _ _ _ made]
          refine (hlimit (now - max beat made) _).trans (hclocks.trans ?_)
          constructor
          · intro hlong
            exact ⟨beat, made, rfl, rfl, hlong⟩
          · rintro ⟨_, _, hbeats, hmakes, hlong⟩
            obtain rfl := Option.some.inj hbeats
            obtain rfl := Option.some.inj hmakes
            exact hlong

section Verdict

variable {config : MqttConfig} {trace : List Callback} {now : ℚ}
  {car : CarObservation}

theorem staleLimit_after (hcar : (after trace).car? car.carId = some car) :
    staleLimit config car = allowedSilence config trace car.carId := by
  have hstate := (recalls_after trace).state car.carId
  rw [hcar, Option.bind_some] at hstate
  unfold staleLimit allowedSilence
  rw [hstate]
  cases hlatest : latest (Callback.carState car.carId) trace with
  | none => simp [show PyText.lower (PyText.strip "") ∉ activeCarStates by decide]
  | some text => simp

theorem heard_iff (hcar : (after trace).car? car.carId = some car) :
    Heard trace car.carId ↔ car.healthyMonotonic ≠ none := by
  have hfield := (recalls_after trace).heard car.carId
  rw [hcar, Option.bind_some] at hfield
  rw [hfield]
  have hheard : Heard trace car.carId ↔
      latest (Callback.heartbeat car.carId) trace ≠ none := by
    rw [ne_eq, latest_eq_none_iff, Heard]
    simp [Option.isSome_iff_ne_none]
  rw [hheard]
  cases latest (Callback.heartbeat car.carId) trace <;> simp

/-- `connectedSince` is the time the connection that is up was made. -/
theorem connectedFor_iff {seconds : ℚ} :
    ConnectedFor trace seconds now ↔
      ∃ made, (after trace).connectedSince = some made ∧
        seconds < now - made := by
  rw [(recalls_after trace).link]
  constructor
  · rintro ⟨front, made, rest, rfl, hsilent, hlong⟩
    refine ⟨made, ?_, hlong⟩
    rw [(@latest_eq_some_iff _ _ Callback.link _ _).mpr
      ⟨front, _, rest, rfl, rfl, hsilent⟩]
    rfl
  · rintro ⟨made, hlink, hlong⟩
    obtain ⟨front, callback, rest, rfl, hmade, hsilent⟩ :=
      latest_eq_some_iff.mp (Option.join_eq_some_iff.mp hlink)
    obtain rfl := Callback.eq_connect_of_link hmade
    exact ⟨front, made, rest, rfl, hsilent, hlong⟩

/-- The latest heartbeat of a timely trace is the last one in time. -/
theorem silentFor_iff {seconds beat : ℚ} (htimely : Timely trace now)
    (hcar : (after trace).car? car.carId = some car)
    (hbeat : car.healthyMonotonic = some beat) :
    SilentFor trace car.carId seconds now ↔ seconds < now - beat := by
  have hfield := (recalls_after trace).heard car.carId
  rw [hcar, Option.bind_some, hbeat] at hfield
  obtain ⟨⟨time, text⟩, hlatest, htime⟩ :=
    Option.bind_eq_some_iff.mp hfield.symm
  obtain rfl := Option.some.inj htime
  obtain ⟨hordered, -, hnow⟩ := List.pairwise_append.mp htimely
  obtain ⟨last, hlast, hsaid, hlater⟩ :=
    exists_of_latest (List.pairwise_map.mp hordered) hlatest
  have hwhen : last.time = time := Callback.time_of_heartbeat hsaid
  have hpast : last.time ≤ now :=
    hnow _ (List.mem_map_of_mem hlast) now (List.mem_singleton_self now)
  constructor
  · intro hsilent
    have hearly := hsilent last hlast (by rw [hsaid]; rfl)
    by_contra hlong
    exact hearly ⟨by rw [hwhen]; linarith, hpast⟩
  · rintro hlong callback hcallback hsome ⟨hrecent, -⟩
    have hle := hlater callback hcallback
      (Option.isSome_iff_ne_none.mp hsome)
    rw [hwhen] at hle
    linarith

/-- `logger_health` reports stale exactly when staleness detection is enabled
and the selected car, once heard from, has been silent for longer than its state
allows, on a connection that has lasted longer than that too. -/
theorem stale_exact (config : MqttConfig) {trace : List Callback} {now : ℚ}
    (htimely : Timely trace now) :
    (loggerHealth config (after trace) now).1.stale = true ↔
      config.stalenessDetectionEnabled = true ∧
        ∃ car, selected config (after trace) = some car ∧
          Heard trace car.carId ∧
          ConnectedFor trace (allowedSilence config trace car.carId) now ∧
          SilentFor trace car.carId (allowedSilence config trace car.carId)
            now := by
  unfold loggerHealth
  cases hselected : selected config (after trace) with
  | none => simp
  | some car =>
      have hcar := car?_of_mem (mem_of_selected hselected)
      have hlimit := @staleLimit_after config trace car hcar
      change (staleness config (after trace) car now).1 = true ↔ _
      rw [staleness_iff, hlimit]
      constructor
      · rintro ⟨henabled, beat, made, hbeat, hmade, hsilent, hlong⟩
        refine ⟨henabled, car, rfl, (heard_iff hcar).mpr ?_,
          connectedFor_iff.mpr ⟨made, hmade, hlong⟩,
          (silentFor_iff htimely hcar hbeat).mpr hsilent⟩
        rw [hbeat]
        exact Option.some_ne_none beat
      · rintro ⟨henabled, found, hfound, hheard, hlong, hsilent⟩
        obtain rfl := Option.some.inj hfound
        obtain ⟨beat, hbeat⟩ :=
          Option.ne_none_iff_exists'.mp ((heard_iff hcar).mp hheard)
        obtain ⟨made, hmade, hlong⟩ := connectedFor_iff.mp hlong
        exact ⟨henabled, beat, made, hbeat, hmade,
          (silentFor_iff htimely hcar hbeat).mp hsilent, hlong⟩

end Verdict

/-- A car is driving when its heartbeat stops. -/
def drivingTrace : List Callback :=
  [.connect false 0,
    .message "teslamate/cars/1/state" "driving".toUTF8.toList 5 "",
    .message "teslamate/cars/1/healthy" "true".toUTF8.toList 10 ""]

theorem stale_exact_driving :
    (loggerHealth .fromEmptyEnv (after drivingTrace) 700).1.stale = true ∧
      ∃ car, selected .fromEmptyEnv (after drivingTrace) = some car ∧
        Heard drivingTrace car.carId ∧
        ConnectedFor drivingTrace
          (allowedSilence .fromEmptyEnv drivingTrace car.carId) 700 ∧
        SilentFor drivingTrace car.carId
          (allowedSilence .fromEmptyEnv drivingTrace car.carId) 700 := by
  have htimely : Timely drivingTrace 700 := by
    unfold Timely
    decide +kernel
  have hstale :
      (loggerHealth .fromEmptyEnv (after drivingTrace) 700).1.stale = true := by
    decide +kernel
  exact ⟨hstale, ((stale_exact .fromEmptyEnv htimely).mp hstale).2⟩

end WatchdogMqtt

end TeslamateWatchdog
