/-
Home Assistant MQTT discovery: the entities that are announced, and what they
show in a Home Assistant that keeps to its documentation.
-/
import TeslamateWatchdog.Foundation.JinjaTemplate
import TeslamateWatchdog.Foundation.JsonRoundTrip
import TeslamateWatchdog.HomeAssistant
import TeslamateWatchdog.TraceRules

namespace TeslamateWatchdog

open Foundation

/-- The part of the configuration that names the topics. -/
structure TopicConfig where
  mqttBaseTopic : String
  haDiscoveryEnabled : Bool
  haDiscoveryPrefix : String
  mqttBaseTopic_ne : mqttBaseTopic ≠ ""

/-- What `Config.from_env` returns when only `MQTT_HOST` is set. -/
def TopicConfig.fromEmptyEnv : TopicConfig where
  mqttBaseTopic := "teslamate/watchdog"
  haDiscoveryEnabled := true
  haDiscoveryPrefix := "homeassistant"
  mqttBaseTopic_ne := by decide

namespace TopicConfig

variable (config : TopicConfig)

def topic (suffix : String) : String :=
  config.mqttBaseTopic ++ "/" ++ suffix

def availabilityTopic : String :=
  config.topic "availability"

def eventTopic : String :=
  config.topic "event"

end TopicConfig

def payloadOnline : String := "online"

def payloadOffline : String := "offline"

namespace HaDiscovery

def version : String := "0.1.0"

def nodeId : String := "teslamate_watchdog"

/-- true is ON, false is OFF, anything else is unknown. -/
def tristateTemplate : JinjaTemplate where
  first := (.equals "true", .text "ON")
  others := [(.equals "false", .text "OFF")]
  otherwise := .text "None"

/-- An empty payload is unknown rather than an invalid timestamp. -/
def timestampTemplate : JinjaTemplate where
  first := (.truthy, .value)
  others := []
  otherwise := .text "None"

example : tristateTemplate.source =
    "\x7b% if value == 'true' %\x7dON\x7b% elif value == 'false' %\x7dOFF" ++
      "\x7b% else %\x7dNone\x7b% endif %\x7d" := by decide

example : timestampTemplate.source =
    "\x7b% if value %\x7d\x7b\x7b value \x7d\x7d\x7b% else %\x7dNone" ++
      "\x7b% endif %\x7d" := by decide

def device : Json :=
  .obj [("identifiers", .arr [.str nodeId]), ("name", .str "TeslaMate Watchdog"),
    ("manufacturer", .str "teslamate-watchdog"),
    ("model", .str "TeslaMate Watchdog"), ("sw_version", .str version)]

/-- A discovered entity: `(component, object_id, payload)`. -/
structure Entity where
  component : String
  objectId : String
  payload : List (String × Json)

variable (config : TopicConfig)

/-- What the payloads of all entities begin with. -/
def identity (objectId name : String) : List (String × Json) :=
  [("name", .str name), ("unique_id", .str (nodeId ++ "_" ++ objectId)),
    ("object_id", .str (nodeId ++ "_" ++ objectId)),
    ("state_topic", .str (config.topic objectId))]

def binarySensor (objectId name icon : String) : Entity where
  component := "binary_sensor"
  objectId := objectId
  payload := identity config objectId name ++
    [("value_template", .str tristateTemplate.source),
      ("payload_on", .str "ON"), ("payload_off", .str "OFF"),
      ("icon", .str icon)]

def timestampSensor (objectId name icon : String) : Entity where
  component := "sensor"
  objectId := objectId
  payload := identity config objectId name ++
    [("device_class", .str "timestamp"),
      ("value_template", .str timestampTemplate.source), ("icon", .str icon)]

def stateSensor : Entity where
  component := "sensor"
  objectId := "state"
  payload := identity config "state" "State" ++
    [("icon", .str "mdi:shield-search")]

def restartCountSensor : Entity where
  component := "sensor"
  objectId := "restart_count_24h"
  payload := identity config "restart_count_24h" "Restarts in 24h" ++
    [("state_class", .str "measurement"), ("icon", .str "mdi:counter")]

def availability : List (String × Json) :=
  [("availability_topic", .str config.availabilityTopic),
    ("payload_available", .str "online"),
    ("payload_not_available", .str "offline")]

/-- `payload.update(availability)`, and `payload["device"] = device`. -/
def Entity.complete (entity : Entity) : Entity :=
  { entity with
    payload := Dict.ofMembers (entity.payload ++ availability config ++
      [("device", device)]) }

def buildEntities : List Entity :=
  [stateSensor config,
    binarySensor config "healthy" "Healthy" "mdi:heart-pulse",
    binarySensor config "authenticated" "Authenticated" "mdi:key",
    binarySensor config "database_healthy" "Database healthy" "mdi:database",
    binarySensor config "logger_healthy" "Logger healthy" "mdi:car-connected",
    timestampSensor config "last_failure" "Last failure"
      "mdi:alert-circle-outline",
    timestampSensor config "last_restart" "Last restart" "mdi:restart",
    restartCountSensor config].map (Entity.complete config)

def Entity.topic (entity : Entity) : String :=
  config.haDiscoveryPrefix ++ "/" ++ entity.component ++ "/" ++ nodeId ++
    "/" ++ entity.objectId ++ "/config"

/-- The retained messages of `publish`. -/
def publish (floats : Json.FloatRepr) : List (String × String) :=
  if config.haDiscoveryEnabled then
    (buildEntities config).map fun entity =>
      (entity.topic config, Json.dumpsCompact floats (.obj entity.payload))
  else []

end HaDiscovery

namespace HaState

def ofTristate : Option Bool → HaState
  | some true => .on
  | some false => .off
  | none => .unknown

/-- A text that is not there yet, or that says so. -/
def ofText (text : String) : HaState :=
  if text = "" ∨ text = payloadUnset then .unknown else .reading text

end HaState

namespace HaDiscovery

variable (config : TopicConfig) (objectId name icon : String)

theorem distinct_complete {entity : Entity}
    (hentity : ∀ member ∈ entity.payload, ∃ text, member.2 = .str text) :
    (Json.obj (entity.complete config).payload).Distinct := by
  apply Json.distinct_ofMembers
  intro member hmember
  rw [List.mem_append, List.mem_append, List.mem_singleton] at hmember
  rcases hmember with (hown | havailability) | rfl
  · obtain ⟨text, htext⟩ := hentity member hown
    exact htext ▸ Json.distinct_str text
  · simp only [availability, List.mem_cons, List.not_mem_nil, or_false]
      at havailability
    rcases havailability with rfl | rfl | rfl <;> exact Json.distinct_str _
  · simp [device, Json.distinct_obj, Json.distinct_arr]

theorem distinct_of_mem {entity : Entity}
    (hentity : entity ∈ buildEntities config) :
    (Json.obj entity.payload).Distinct := by
  obtain ⟨raw, hraw, rfl⟩ := List.mem_map.mp hentity
  apply distinct_complete
  simp only [List.mem_cons, List.not_mem_nil, or_false] at hraw
  rcases hraw with rfl | rfl | rfl | rfl | rfl | rfl | rfl | rfl <;>
    simp [stateSensor, restartCountSensor, binarySensor, timestampSensor,
      identity]

theorem loads_discovery (floats : Json.FloatText) {entity : Entity}
    (hentity : entity ∈ buildEntities config) :
    Json.loads floats (Json.dumpsCompact floats.toFloatRepr
      (.obj entity.payload)).toList = some (.obj entity.payload) :=
  Json.loads_dumpsCompact (distinct_of_mem config hentity)

/-- A member of a completed payload is looked up from the end. -/
theorem look_complete (entity : Entity) (key : String) :
    (Json.obj (entity.complete config).payload).look [key] =
      ((entity.payload ++ availability config ++
        [("device", device)]).reverse.lookup key).getD .null := by
  rw [Json.look, Entity.complete, Dict.lookup_ofMembers, Json.look]

end HaDiscovery

section Shown

open HaDiscovery HomeAssistant

variable {config : TopicConfig} {floats : Json.FloatText}
  {jinja : String → String → String} {retained : String → Option String}
  {shows : HomeAssistant}

/-- The availability is told last, whatever the entity. -/
theorem look_availability (entity : Entity) {key text : String}
    (hmember : (key, Json.str text) ∈ availability config) :
    (Json.obj (entity.complete config).payload).look [key] = .str text := by
  rw [look_complete, List.reverse_append, List.reverse_append]
  simp only [availability, List.mem_cons, List.not_mem_nil, or_false,
    Prod.mk.injEq, Json.str.injEq] at hmember
  rcases hmember with ⟨rfl, rfl⟩ | ⟨rfl, rfl⟩ | ⟨rfl, rfl⟩ <;> rfl

theorem available_complete (entity : Entity)
    (honline : retained config.availabilityTopic = some payloadOnline) :
    Available retained (.obj (entity.complete config).payload) :=
  ⟨config.availabilityTopic, payloadOnline,
    look_availability entity (by simp [availability]),
    look_availability entity (by simp [availability, payloadOnline]), honline⟩

/-- The discovery topic of the entity retains what `publish` publishes on it. -/
def AnnouncedEntity (config : TopicConfig) (floats : Json.FloatRepr)
    (retained : String → Option String) (entity : Entity) : Prop :=
  retained (entity.topic config) =
    some (Json.dumpsCompact floats (.obj entity.payload))

theorem announces_of_mem {entity : Entity}
    (hentity : entity ∈ buildEntities config)
    (hannounced : AnnouncedEntity config floats.toFloatRepr retained entity) :
    Announces floats retained (entity.topic config) (.obj entity.payload) :=
  ⟨_, hannounced, loads_discovery config floats hentity⟩

/-- Without the availability no entity shows anything. -/
theorem shows_unavailable (hshows : shows.Documented floats jinja)
    {entity : Entity} (hentity : entity ∈ buildEntities config)
    (hannounced : AnnouncedEntity config floats.toFloatRepr retained entity)
    (hoffline : retained config.availabilityTopic ≠ some payloadOnline) :
    shows retained entity.component (entity.topic config) = .unavailable := by
  have hannounces := announces_of_mem hentity hannounced
  obtain ⟨raw, -, rfl⟩ := List.mem_map.mp hentity
  exact hshows.unavailable hannounces
    (look_availability raw (by simp [availability]))
    (look_availability raw (by simp [availability, payloadOnline])) hoffline

/-- A template on the state topic renders what is retained there. -/
theorem renders_of_look {template : JinjaTemplate} {payload : Json}
    {topic value : String}
    (hjinja : RendersJinja [tristateTemplate, timestampTemplate] jinja)
    (htemplate : template ∈ [tristateTemplate, timestampTemplate])
    (hstate : payload.look ["state_topic"] = .str topic)
    (hsource : payload.look ["value_template"] = .str template.source)
    (hvalue : retained topic = some value) :
    Renders jinja retained payload (template.render value) :=
  ⟨topic, value, hstate, hvalue,
    .inr ⟨template.source, hsource, (hjinja template htemplate value).symm⟩⟩

theorem shows_binarySensor (hshows : shows.Documented floats jinja)
    (hjinja : RendersJinja [tristateTemplate, timestampTemplate] jinja)
    (honline : retained config.availabilityTopic = some payloadOnline)
    {objectId name icon value topic : String}
    (hannounces : Announces floats retained topic
      (.obj ((binarySensor config objectId name icon).complete config).payload))
    (hvalue : retained (config.topic objectId) = some value) :
    shows retained "binary_sensor" topic =
      if value = "true" then .on
      else if value = "false" then .off else .unknown := by
  have hlook : ∀ key text, (key, Json.str text) ∈
      [("state_topic", Json.str (config.topic objectId)),
        ("value_template", .str tristateTemplate.source),
        ("payload_on", .str "ON"), ("payload_off", .str "OFF")] →
      (Json.obj ((binarySensor config objectId name icon).complete
        config).payload).look [key] = .str text := by
    intro key text hmember
    rw [look_complete]
    simp only [List.mem_cons, List.not_mem_nil, or_false, Prod.mk.injEq,
      Json.str.injEq] at hmember
    rcases hmember with ⟨rfl, rfl⟩ | ⟨rfl, rfl⟩ | ⟨rfl, rfl⟩ | ⟨rfl, rfl⟩ <;>
      rfl
  have hon := hlook "payload_on" "ON" (by simp)
  have hoff := hlook "payload_off" "OFF" (by simp)
  have hrenders := renders_of_look hjinja List.mem_cons_self
    (hlook "state_topic" _ (by simp)) (hlook "value_template" _ (by simp)) hvalue
  have havailable :=
    available_complete (binarySensor config objectId name icon) honline
  by_cases htrue : value = "true"
  · subst htrue
    exact hshows.binarySensor_on hannounces havailable hrenders hon
  rw [if_neg htrue]
  by_cases hfalse : value = "false"
  · subst hfalse
    refine hshows.binarySensor_off hannounces havailable hrenders ?_ hoff
    rw [hon]
    exact fun heq => absurd (Json.str.inj heq) (by decide)
  rw [if_neg hfalse]
  have hnone : tristateTemplate.render value = "None" := by
    simp [JinjaTemplate.render, tristateTemplate, JinjaTest.holds, htrue,
      hfalse, JinjaOutput.render]
  rw [hnone] at hrenders
  refine hshows.binarySensor_none hannounces havailable hrenders ?_ ?_
  · rw [hon]
    exact fun heq => absurd (Json.str.inj heq) (by decide)
  · rw [hoff]
    exact fun heq => absurd (Json.str.inj heq) (by decide)

theorem shows_timestampSensor (hshows : shows.Documented floats jinja)
    (hjinja : RendersJinja [tristateTemplate, timestampTemplate] jinja)
    (honline : retained config.availabilityTopic = some payloadOnline)
    {objectId name icon value topic : String}
    (hannounces : Announces floats retained topic
      (.obj ((timestampSensor config objectId name icon).complete
        config).payload))
    (hvalue : retained (config.topic objectId) = some value) :
    shows retained "sensor" topic = .ofText value := by
  have hlook : ∀ key text, (key, Json.str text) ∈
      [("state_topic", Json.str (config.topic objectId)),
        ("value_template", .str timestampTemplate.source)] →
      (Json.obj ((timestampSensor config objectId name icon).complete
        config).payload).look [key] = .str text := by
    intro key text hmember
    rw [look_complete]
    simp only [List.mem_cons, List.not_mem_nil, or_false, Prod.mk.injEq,
      Json.str.injEq] at hmember
    rcases hmember with ⟨rfl, rfl⟩ | ⟨rfl, rfl⟩ <;> rfl
  have hrenders := renders_of_look hjinja
    (List.mem_cons_of_mem _ List.mem_cons_self)
    (hlook "state_topic" _ (by simp)) (hlook "value_template" _ (by simp)) hvalue
  have havailable :=
    available_complete (timestampSensor config objectId name icon) honline
  by_cases hempty : value = ""
  · subst hempty
    exact hshows.sensor_none hannounces havailable hrenders
  have hsame : timestampTemplate.render value = value := by
    simp [JinjaTemplate.render, timestampTemplate, JinjaTest.holds, hempty,
      JinjaOutput.render]
  rw [hsame] at hrenders
  by_cases hunset : value = payloadUnset
  · subst hunset
    exact hshows.sensor_none hannounces havailable hrenders
  · rw [hshows.sensor hannounces havailable hrenders hempty hunset,
      HaState.ofText, if_neg (not_or.mpr ⟨hempty, hunset⟩)]

/-- A sensor without a template shows its payload. -/
theorem shows_plainSensor (hshows : shows.Documented floats jinja)
    (honline : retained config.availabilityTopic = some payloadOnline)
    {entity : Entity} {value topic : String}
    (hentity : entity ∈ [stateSensor config, restartCountSensor config])
    (hannounces : Announces floats retained topic
      (.obj (entity.complete config).payload))
    (hvalue : retained (config.topic entity.objectId) = some value)
    (hempty : value ≠ "") (hnone : value ≠ "None") :
    shows retained "sensor" topic = .reading value := by
  have hrenders : Renders jinja retained
      (.obj (entity.complete config).payload) value := by
    refine ⟨config.topic entity.objectId, value, ?_, hvalue, .inl ⟨?_, rfl⟩⟩
    · rw [look_complete]
      rcases List.mem_pair.mp hentity with rfl | rfl <;> rfl
    · rw [look_complete]
      rcases List.mem_pair.mp hentity with rfl | rfl <;> rfl
  exact hshows.sensor hannounces (available_complete entity honline) hrenders
    hempty hnone

/-- Every entity has been announced on its discovery topic. -/
def Announced (config : TopicConfig) (floats : Json.FloatRepr)
    (retained : String → Option String) : Prop :=
  ∀ message ∈ publish config floats, retained message.1 = some message.2

theorem announcedEntity_of_mem
    (hannounced : Announced config floats.toFloatRepr retained)
    (henabled : config.haDiscoveryEnabled = true) {entity : Entity}
    (hentity : entity ∈ buildEntities config) :
    AnnouncedEntity config floats.toFloatRepr retained entity :=
  hannounced (entity.topic config, _) (by
    rw [publish, if_pos henabled]
    exact List.mem_map_of_mem hentity)

/-- What the entities show of a status that was published. -/
def statusView (answers : CycleAnswers) (observation : Observation)
    (w : Watchdog) (lastRestart : Option String) : List HaState :=
  [.reading w.machine.state.value,
    if w.machine.state = .healthy then .on else .off,
    .ofTristate observation.http.category.signedIn,
    .ofTristate observation.databaseHealthy,
    .ofTristate observation.loggerHealthy,
    .ofText w.lastFailure,
    .ofText (lastRestart.getD ""),
    .reading (toString (w.restarts.restartsIn24h answers.publishAt))]

theorem toString_nat_ne (n : Nat) : toString n ≠ "None" := by
  intro hnone
  have hmem : 'N' ∈ (Nat.repr n).toList := by
    have hrepr : Nat.repr n = "None" := hnone
    rw [hrepr]
    decide
  rw [Nat.repr, String.toList_ofList] at hmem
  exact absurd (Nat.isDigit_of_mem_toDigits (by decide) (by decide) hmem)
    (by decide)

theorem state_value_ne (state : State) : state.value ≠ "None" := by
  cases state <;> decide

theorem state_value_nonempty (state : State) : state.value ≠ "" := by
  cases state <;> decide

theorem ofText_textOr (text : String) :
    HaState.ofText (textOr text payloadUnset) = HaState.ofText text := by
  by_cases hempty : text = ""
  · subst hempty
    decide
  · rw [textOr, if_neg hempty]

theorem ofTristate_tristate (value : Option Bool) :
    (if tristate value = "true" then HaState.on
      else if tristate value = "false" then .off else .unknown) =
    .ofTristate value := by
  rcases value with - | - | - <;> decide

theorem toString_nat_nonempty (n : Nat) : toString n ≠ "" := by
  intro hempty
  have hchars : (Nat.repr n).toList = [] := congrArg String.toList hempty
  rw [Nat.toList_repr] at hchars
  exact absurd hchars Nat.toDigits_ne_nil

/-- Once a status is retained and the entities are announced, they show the
watchdog as it was when it published it. -/
theorem shown_of_retained (hshows : shows.Documented floats jinja)
    (hjinja : RendersJinja [tristateTemplate, timestampTemplate] jinja)
    (hannounced : Announced config floats.toFloatRepr retained)
    (henabled : config.haDiscoveryEnabled = true)
    (honline : retained config.availabilityTopic = some payloadOnline)
    {answers : CycleAnswers} {observation : Observation} {w : Watchdog}
    {lastRestart : Option String}
    (hstatus : ∀ value ∈ statusValues answers observation w lastRestart,
      retained (config.topic value.1) = some value.2) :
    (buildEntities config).map (fun entity =>
        shows retained entity.component (entity.topic config)) =
      statusView answers observation w lastRestart := by
  have hannounces : ∀ entity ∈ buildEntities config,
      Announces floats retained (entity.topic config) (.obj entity.payload) :=
    fun entity hentity => announces_of_mem hentity
      (announcedEntity_of_mem hannounced henabled hentity)
  have hplain : ∀ entity ∈ [stateSensor config, restartCountSensor config],
      ∀ value, value ≠ "" → value ≠ "None" → (entity.objectId, value) ∈
        statusValues answers observation w lastRestart → ∀ topic,
      Announces floats retained topic (.obj (entity.complete config).payload) →
      shows retained "sensor" topic = .reading value :=
    fun entity hentity value hempty hnone hvalue topic hentityAnnounces =>
      shows_plainSensor hshows honline hentity hentityAnnounces
        (hstatus _ hvalue) hempty hnone
  have hbinary : ∀ objectId name icon value topic,
      (objectId, value) ∈ statusValues answers observation w lastRestart →
      Announces floats retained topic
        (.obj ((binarySensor config objectId name icon).complete
          config).payload) →
      shows retained "binary_sensor" topic = if value = "true" then .on
        else if value = "false" then .off else .unknown :=
    fun objectId name icon value topic hvalue hentityAnnounces =>
      shows_binarySensor hshows hjinja honline hentityAnnounces
        (hstatus _ hvalue)
  have hstamp : ∀ objectId name icon text topic,
      (objectId, textOr text payloadUnset) ∈
        statusValues answers observation w lastRestart →
      Announces floats retained topic
        (.obj ((timestampSensor config objectId name icon).complete
          config).payload) →
      shows retained "sensor" topic = .ofText text := by
    intro objectId name icon text topic hvalue hentityAnnounces
    rw [shows_timestampSensor hshows hjinja honline hentityAnnounces
      (hstatus _ hvalue), ofText_textOr]
  rw [buildEntities] at hannounces ⊢
  rw [List.map_map]
  simp only [List.forall_mem_map, List.forall_mem_cons, List.not_mem_nil,
    IsEmpty.forall_iff, implies_true, and_true] at hannounces
  obtain ⟨hstate, hhealthy, hauthenticated, hdatabase, hlogger, hfailure,
    hrestart, hcount⟩ := hannounces
  simp only [List.map_cons, List.map_nil, Function.comp_apply, statusView,
    List.cons.injEq, and_true]
  refine ⟨?_, ?_, ?_, ?_, ?_, ?_, ?_, ?_⟩
  · exact hplain _ (by simp) _ (state_value_nonempty _) (state_value_ne _)
      (by simp [statusValues, stateSensor]) _ hstate
  · refine (hbinary _ _ _ (if w.machine.state = .healthy then "true" else "false")
      _ (by simp [statusValues]) hhealthy).trans ?_
    split <;> rfl
  · exact (hbinary _ _ _ _ _ (by simp [statusValues]) hauthenticated).trans
      (ofTristate_tristate _)
  · exact (hbinary _ _ _ _ _ (by simp [statusValues]) hdatabase).trans
      (ofTristate_tristate _)
  · exact (hbinary _ _ _ _ _ (by simp [statusValues]) hlogger).trans
      (ofTristate_tristate _)
  · exact hstamp _ _ _ _ _ (by simp [statusValues]) hfailure
  · exact hstamp _ _ _ _ _ (by simp [statusValues]) hrestart
  · exact hplain _ (by simp) _ (toString_nat_nonempty _) (toString_nat_ne _)
      (by simp [statusValues, restartCountSensor]) _ hcount

end Shown

end TeslamateWatchdog
