/-
What Home Assistant shows: the status of the last cycle that was reported, or
that the watchdog is unavailable.
-/
import TeslamateWatchdog.RetainedView

namespace TeslamateWatchdog

open Foundation Mqtt HaDiscovery WatchdogMqtt

variable {config : TopicConfig} {floats : Json.FloatRepr}

/-- What is published for an effect; every event has a timestamp of its own. -/
def Effect.messages (config : TopicConfig) (floats : Json.FloatRepr)
    (stamp : Event → String) : Effect → List Message
  | .status values => values.map fun value =>
      ⟨config.topic value.1, value.2, true⟩
  | .event told =>
      [⟨config.eventTopic, told.text floats (stamp told), false⟩]
  | _ => []

section Status

variable {answers : CycleAnswers} {observation : Observation} {w : Watchdog}
  {lastRestart : Option String}

theorem keys_statusValues (answers : CycleAnswers) (observation : Observation)
    (w : Watchdog) (lastRestart : Option String) :
    (statusValues answers observation w lastRestart).map Prod.fst =
      statusSuffixes := rfl

/-- No value of the status would delete its topic. -/
theorem statusValues_nonempty (hstamp : answers.checkIso ≠ "") :
    ∀ value ∈ statusValues answers observation w lastRestart,
      value.2 ≠ "" := by
  have htristate : ∀ value, tristate value ≠ "" := by
    rintro (- | - | -) <;> decide
  have htext : ∀ text, textOr text payloadUnset ≠ "" := by
    intro text
    by_cases hempty : text = ""
    · subst hempty
      decide
    · rw [textOr, if_neg hempty]
      exact hempty
  have hrecovery : w.recovery.status.value ≠ "" := by
    cases w.recovery.status <;> decide
  have hhealthy : (if w.machine.state = .healthy then "true" else "false") ≠
      "" := by
    split <;> decide
  have hhttp : (observation.http.statusCode.map toString).getD "unknown" ≠
      "" := by
    cases observation.http.statusCode with
    | none => decide
    | some code => exact toString_nat_nonempty code
  simp only [statusValues, List.forall_mem_cons, List.not_mem_nil,
    IsEmpty.forall_iff, implies_true, and_true]
  exact ⟨state_value_nonempty _, hhealthy, hhttp, htristate _, htristate _, htristate _,
    hstamp, htext _, htext _, toString_nat_nonempty _, hrecovery⟩

/-- The reports the check loop makes of a status. -/
def statusReports (hstamp : answers.checkIso ≠ "") (observation : Observation)
    (w : Watchdog) (lastRestart : Option String) : List Report :=
  (statusValues answers observation w lastRestart).attach.map fun value =>
    .status {
      suffix := value.1.1
      payload := value.1.2
      suffix_mem := by
        rw [← keys_statusValues answers observation w lastRestart]
        exact List.mem_map_of_mem value.2
      payload_ne := statusValues_nonempty hstamp value.1 value.2 }

/-- They are what is published for the effect. -/
theorem messages_statusReports (config : TopicConfig) (floats : Json.FloatRepr)
    (stamp : Event → String) (hstamp : answers.checkIso ≠ "") :
    (statusReports hstamp observation w lastRestart).map
        (Report.message config) =
      Effect.messages config floats stamp
        (.status (statusValues answers observation w lastRestart)) := by
  rw [statusReports, List.map_map, Effect.messages]
  exact @List.attach_map_val _ _ _ fun value : String × String =>
    (⟨config.topic value.1, value.2, true⟩ : Message)

/-- The last status on a connection is what was said last on its topics. -/
theorem spoken_status {suffix payload : String} (hstamp : answers.checkIso ≠ "")
    (hvalue : (suffix, payload) ∈
      statusValues answers observation w lastRestart)
    (front : List Packet) {back : List Packet}
    (hback : ∀ packet ∈ back,
      packet.leaves (config.topic suffix) = none) :
    spoken (config.topic suffix) (front ++
      (statusValues answers observation w lastRestart).map (fun value =>
        .publish ⟨config.topic value.1, value.2, true⟩) ++ back) =
      some (some payload) := by
  have hsuffix : ∀ value ∈ statusValues answers observation w lastRestart,
      '/' ∉ value.1.toList := by
    intro value hmem
    refine (statusSuffixes_plain value.1 ?_).1
    rw [← keys_statusValues answers observation w lastRestart]
    exact List.mem_map_of_mem hmem
  have hleaves : ∀ value ∈ statusValues answers observation w lastRestart,
      (Packet.publish ⟨config.topic value.1, value.2, true⟩).leaves
        (config.topic suffix) =
      if value.1 = suffix then some (some value.2) else none := by
    intro value hmem
    have hpayload := statusValues_nonempty hstamp value hmem
    by_cases hsame : value.1 = suffix
    · rw [if_pos hsame]
      simp [Packet.leaves, Message.leaves, Message.kept, hsame, hpayload]
    · have htopic : config.topic value.1 ≠ config.topic suffix := fun heq =>
        hsame (topic_inj (hsuffix value hmem) (hsuffix _ hvalue) heq)
      rw [if_neg hsame]
      simp [Packet.leaves, Message.leaves, htopic]
  have hnodup : ((statusValues answers observation w lastRestart).map
      Prod.fst).Nodup := by
    rw [keys_statusValues]
    decide
  have hlatest := @latest_of_agree _ _
    (Packet.leaves (config.topic suffix))
    ((statusValues answers observation w lastRestart).map fun value =>
      Packet.publish ⟨config.topic value.1, value.2, true⟩) (some payload)
    ⟨_, List.mem_map_of_mem hvalue, by rw [hleaves _ hvalue, if_pos rfl]⟩ (by
      intro packet hpacket
      obtain ⟨value, hmem, rfl⟩ := List.mem_map.mp hpacket
      rw [hleaves value hmem]
      by_cases hsame : value.1 = suffix
      · right
        rw [if_pos hsame, List.inj_on_of_nodup_map hnodup hmem hvalue hsame]
      · exact .inl (if_neg hsame))
  have hquiet : latest (Packet.leaves (config.topic suffix)) back = none :=
    latest_eq_none_iff.mpr hback
  rw [spoken, latest_append, hquiet, Option.none_or, latest_append, hlatest,
    Option.some_or]

/-- A cycle in which all is well, and its moment. -/
def CycleAnswers.stamped : CycleAnswers :=
  { calm 0 with checkIso := "2026-01-01T00:00:00+00:00" }

def Observation.calm : Observation where
  http := { category := .authenticated, statusCode := some 200 }
  loggerHealthy := some true
  loggerDetail := "healthy"
  databaseHealthy := some true
  teslamateContainerRunning := some true

def Watchdog.afterCalm : Watchdog :=
  (outcome (Watchdog.checkOnce .fromEmptyEnv .withoutPatterns .stamped)
    (.build ⟨[], .missing⟩)).2

/-- A watchdog that connects and reports its first cycle. -/
def reporting : List DeploymentAction :=
  [.start 0, .openConnection, .deliver 0, .connack []] ++
    (statusReports (by decide : CycleAnswers.stamped.checkIso ≠ "") .calm
      .afterCalm none).map .publish ++
    List.replicate 20 (.deliver 0)

/-- Jinja, as far as the two templates go. -/
def jinjaOfTemplates (source value : String) : String :=
  if source = tristateTemplate.source then tristateTemplate.render value
  else timestampTemplate.render value

theorem rendersJinja_templates :
    RendersJinja [tristateTemplate, timestampTemplate] jinjaOfTemplates := by
  intro template htemplate value
  rcases List.mem_pair.mp htemplate with rfl | rfl
  · exact if_pos rfl
  · exact if_neg (by decide)

end Status

end TeslamateWatchdog
