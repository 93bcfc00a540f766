/-
Home Assistant, as far as its documentation of MQTT discovery goes: what it
shows for an entity, read off the retained messages alone.
-/
import TeslamateWatchdog.Foundation.JsonReader

namespace TeslamateWatchdog

open Foundation

/-- The state of an entity in Home Assistant.  A reading is what it makes of a
text. -/
inductive HaState where
  | unavailable
  | unknown
  | on
  | off
  | reading (text : String)
deriving Repr, DecidableEq

/-- What Home Assistant shows, once it has subscribed and read the retained
messages, for an entity of a component that is announced on a topic. -/
abbrev HomeAssistant :=
  (String → Option String) → (component topic : String) → HaState

namespace HomeAssistant

/-- The topic retains an announcement with this payload. -/
def Announces (floats : Json.FloatText) (retained : String → Option String)
    (topic : String) (payload : Json) : Prop :=
  ∃ text, retained topic = some text ∧
    Json.loads floats text.toList = some payload

/-- The availability topic says that the entity is available. -/
def Available (retained : String → Option String) (payload : Json) : Prop :=
  ∃ topic text, payload.look ["availability_topic"] = .str topic ∧
    payload.look ["payload_available"] = .str text ∧ retained topic = some text

/-- The state topic retains a value, of which the template, if there is one,
makes this. -/
def Renders (jinja : String → String → String)
    (retained : String → Option String) (payload : Json) (text : String) :
    Prop :=
  ∃ topic value, payload.look ["state_topic"] = .str topic ∧
    retained topic = some value ∧
    (payload.look ["value_template"] = .null ∧ text = value ∨
      ∃ template, payload.look ["value_template"] = .str template ∧
        text = jinja template value)

/-- What the MQTT integration says of the payloads. -/
structure Documented (floats : Json.FloatText)
    (jinja : String → String → String) (shows : HomeAssistant) : Prop where
  unavailable : ∀ {retained component topic payload availability text},
    Announces floats retained topic payload →
      payload.look ["availability_topic"] = .str availability →
      payload.look ["payload_available"] = .str text →
      retained availability ≠ some text →
      shows retained component topic = .unavailable
  binarySensor_on : ∀ {retained topic payload text},
    Announces floats retained topic payload → Available retained payload →
      Renders jinja retained payload text →
      payload.look ["payload_on"] = .str text →
      shows retained "binary_sensor" topic = .on
  binarySensor_off : ∀ {retained topic payload text},
    Announces floats retained topic payload → Available retained payload →
      Renders jinja retained payload text →
      payload.look ["payload_on"] ≠ .str text →
      payload.look ["payload_off"] = .str text →
      shows retained "binary_sensor" topic = .off
  binarySensor_none : ∀ {retained topic payload},
    Announces floats retained topic payload → Available retained payload →
      Renders jinja retained payload "None" →
      payload.look ["payload_on"] ≠ .str "None" →
      payload.look ["payload_off"] ≠ .str "None" →
      shows retained "binary_sensor" topic = .unknown
  sensor_none : ∀ {retained topic payload},
    Announces floats retained topic payload → Available retained payload →
      Renders jinja retained payload "None" →
      shows retained "sensor" topic = .unknown
  sensor : ∀ {retained topic payload text},
    Announces floats retained topic payload → Available retained payload →
      Renders jinja retained payload text → text ≠ "" → text ≠ "None" →
      shows retained "sensor" topic = .reading text

/-- A text, if the member is one. -/
def textOf : Json → Option String
  | .str text => some text
  | _ => none

theorem textOf_eq_some {json : Json} {text : String} :
    textOf json = some text ↔ json = .str text := by
  cases json <;> simp [textOf]

/-- What the template makes of a value, or the value where there is none. -/
def rendered (jinja : String → String → String) (payload : Json)
    (value : String) : String :=
  ((textOf (payload.look ["value_template"])).map (jinja · value)).getD value

/-- What the entity shows for the text it is left with. -/
def ofRendered (component : String) (payload : Json) (text : String) :
    HaState :=
  if component = "binary_sensor" then
    if textOf (payload.look ["payload_on"]) = some text then .on
    else if textOf (payload.look ["payload_off"]) = some text then .off
    else .unknown
  else if text = "" ∨ text = "None" then .unknown
  else .reading text

def isAvailable (retained : String → Option String) (payload : Json) : Bool :=
  match textOf (payload.look ["availability_topic"]),
    textOf (payload.look ["payload_available"]) with
  | some topic, some text => retained topic == some text
  | _, _ => false

/-- One that keeps to the documentation, for entities that tell their
availability. -/
def plain (floats : Json.FloatText) (jinja : String → String → String) :
    HomeAssistant := fun retained component topic =>
  match (retained topic).bind fun text => Json.loads floats text.toList with
  | some payload =>
      if isAvailable retained payload then
        (((textOf (payload.look ["state_topic"])).bind retained).map fun value =>
          ofRendered component payload (rendered jinja payload value)).getD
            .unknown
      else .unavailable
  | none => .unavailable

section Plain

variable {floats : Json.FloatText} {jinja : String → String → String}
  {retained : String → Option String} {component topic : String}
  {payload : Json}

theorem rendered_of_renders {text : String}
    (hrenders : Renders jinja retained payload text) :
    ∃ value, (textOf (payload.look ["state_topic"])).bind retained =
      some value ∧ rendered jinja payload value = text := by
  obtain ⟨state, value, hstate, hvalue, htemplate⟩ := hrenders
  refine ⟨value, by rw [hstate]; exact hvalue, ?_⟩
  rcases htemplate with ⟨hnone, rfl⟩ | ⟨template, hsome, rfl⟩
  · rw [rendered, hnone]
    rfl
  · rw [rendered, hsome]
    rfl

theorem plain_of_renders {text : String}
    (hannounces : Announces floats retained topic payload)
    (havailable : Available retained payload)
    (hrenders : Renders jinja retained payload text) :
    plain floats jinja retained component topic =
      ofRendered component payload text := by
  obtain ⟨announcement, hretained, hloads⟩ := hannounces
  obtain ⟨availability, online, htopic, honline, hsaid⟩ := havailable
  obtain ⟨value, hvalue, rfl⟩ := rendered_of_renders hrenders
  have hshown : isAvailable retained payload = true := by
    rw [isAvailable, htopic, honline]
    exact beq_iff_eq.mpr hsaid
  rw [plain, hretained, Option.bind_some, hloads]
  dsimp only
  rw [if_pos hshown, hvalue]
  rfl

theorem documented_plain (floats : Json.FloatText)
    (jinja : String → String → String) :
    (plain floats jinja).Documented floats jinja where
  unavailable hannounces htopic honline hoffline := by
    obtain ⟨announcement, hretained, hloads⟩ := hannounces
    rw [plain, hretained, Option.bind_some, hloads]
    dsimp only
    rw [if_neg]
    rw [isAvailable, htopic, honline]
    exact fun hshown => hoffline (beq_iff_eq.mp hshown)
  binarySensor_on hannounces havailable hrenders hon := by
    rw [plain_of_renders hannounces havailable hrenders, ofRendered, if_pos rfl,
      if_pos (textOf_eq_some.mpr hon)]
  binarySensor_off hannounces havailable hrenders hon hoff := by
    rw [plain_of_renders hannounces havailable hrenders, ofRendered, if_pos rfl,
      if_neg (mt textOf_eq_some.mp hon), if_pos (textOf_eq_some.mpr hoff)]
  binarySensor_none hannounces havailable hrenders hon hoff := by
    rw [plain_of_renders hannounces havailable hrenders, ofRendered, if_pos rfl,
      if_neg (mt textOf_eq_some.mp hon), if_neg (mt textOf_eq_some.mp hoff)]
  sensor_none hannounces havailable hrenders := by
    rw [plain_of_renders hannounces havailable hrenders, ofRendered,
      if_neg (by decide), if_pos (.inr rfl)]
  sensor hannounces havailable hrenders hempty hnone := by
    rw [plain_of_renders hannounces havailable hrenders, ofRendered,
      if_neg (by decide), if_neg (not_or.mpr ⟨hempty, hnone⟩)]

end Plain

end HomeAssistant

end TeslamateWatchdog
