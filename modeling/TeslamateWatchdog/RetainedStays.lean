/-
Topics do not vanish: no message of the watchdog deletes what a broker retains.
-/
import TeslamateWatchdog.RetainedView

namespace TeslamateWatchdog

open Foundation Mqtt HaDiscovery WatchdogMqtt

variable {config : TopicConfig} {floats : Json.FloatRepr}

section Durable

variable {deployment : Deployment Network} {process later : WatchdogProcess}

/-- Nothing that was published, or will be sent again, deletes a topic. -/
structure Durable (deployment : Deployment Network) : Prop where
  network : Lasting deployment.network
  published : ∀ process ∈ deployment.process,
    ∀ message ∈ process.published, message.Lasting

theorem report_lasting (config : TopicConfig) (report : Report) :
    (report.message config).Lasting := by
  intro hretain
  cases report with
  | status value => exact value.payload_ne
  | event text => cases hretain

theorem goodbye_lasting (config : TopicConfig) (process : WatchdogProcess) :
    ∀ message ∈ process.goodbye config, message.Lasting := by
  intro message hmessage
  rw [WatchdogProcess.goodbye] at hmessage
  split at hmessage
  · obtain rfl := List.mem_singleton.mp hmessage
    have hoffline : payloadOffline ≠ "" := by decide
    exact fun _ => hoffline
  · cases hmessage

theorem lasting_send (hlasting : Lasting deployment.network)
    (process : WatchdogProcess) {packets : List Packet}
    (hpackets : ∀ packet ∈ packets, packet.Lasting) :
    Lasting (process.send deployment.network packets) := by
  rw [WatchdogProcess.send]
  cases process.connection with
  | none => exact hlasting
  | some connection => exact hlasting.send hpackets connection

theorem Durable.hand (hdurable : Durable deployment)
    (hprocess : deployment.process = some process)
    (hpublished : later.published = process.published)
    {messages : List Message}
    (hmessages : ∀ message ∈ messages, message.Lasting) :
    Durable (deployment.hand later messages) where
  network := lasting_send hdurable.network later fun packet hpacket => by
    obtain ⟨message, hmessage, rfl⟩ := List.mem_map.mp hpacket
    exact hmessages message hmessage
  published current hcurrent message hmessage := by
    obtain rfl := Option.some.inj hcurrent
    rcases List.mem_append.mp hmessage with hold | hnew
    · rw [hpublished] at hold
      exact hdurable.published process hprocess message hold
    · exact hmessages message hnew

theorem Durable.act (hdurable : Durable deployment)
    (hprocess : deployment.process = some process) (action : DeploymentAction) :
    Durable (deployment.act config floats process action) := by
  have hkept : ∀ current ∈ deployment.process,
      ∀ message ∈ current.published, message.Lasting := hdurable.published
  cases action with
  | openConnection =>
      rw [Deployment.act]
      split
      · refine ⟨hdurable.network.openWith ?_, ?_⟩
        · have hoffline : payloadOffline ≠ "" := by decide
          refine List.forall_mem_singleton.mpr fun message hmessage => ?_
          obtain rfl := Option.some.inj hmessage
          exact fun _ => hoffline
        · intro current hcurrent
          obtain rfl := Option.some.inj hcurrent
          exact hkept process hprocess
      · exact hdurable
  | connack resent =>
      rw [Deployment.act]
      split
      · refine hdurable.hand hprocess ?_ fun message hmessage => ?_
        · rfl
        · rcases List.mem_append.mp hmessage with hfirst | hagain
          · exact fun _ => (onConnectMessages_lasting hfirst).2
          · exact hkept process hprocess message
              (by simpa using (List.mem_filter.mp hagain).2)
      · exact hdurable
  | disconnected =>
      refine ⟨hdurable.network, fun current hcurrent => ?_⟩
      obtain rfl := Option.some.inj hcurrent
      exact hkept process hprocess
  | publish report =>
      rw [Deployment.act]
      split
      · exact hdurable
      · exact hdurable.hand hprocess rfl
          (List.forall_mem_singleton.mpr (report_lasting config report))
  | stopBegins =>
      rw [Deployment.act]
      split
      · exact hdurable
      · refine hdurable.hand hprocess ?_ (goodbye_lasting config process)
        rfl
  | stopEnds =>
      rw [Deployment.act]
      split
      · exact ⟨lasting_send hdurable.network process
          (List.forall_mem_singleton.mpr trivial),
          fun current hcurrent => by cases hcurrent⟩
      · exact hdurable
  | killed =>
      exact ⟨hdurable.network, fun current hcurrent => by cases hcurrent⟩
  | _ => exact hdurable

theorem Durable.step (hdurable : Durable deployment) (action : DeploymentAction) :
    Durable (deployment.step config floats action) := by
  have hact : Durable (deployment.proceed config floats action) := by
    rw [Deployment.proceed]
    cases hprocess : deployment.process with
    | none => exact hdurable
    | some process => exact hdurable.act hprocess action
  cases action with
  | start now =>
      rw [Deployment.step]
      cases hprocess : deployment.process with
      | none =>
          refine ⟨hdurable.network, fun current hcurrent message hmessage => ?_⟩
          obtain rfl := Option.some.inj hcurrent
          cases hmessage
      | some process => exact hdurable
  | deliver connection =>
      exact ⟨hdurable.network.deliver connection, hdurable.published⟩
  | breakOff connection =>
      exact ⟨hdurable.network.breakOff connection, hdurable.published⟩
  | brokerRestart => exact ⟨lasting_restart, hdurable.published⟩
  | _ => exact hact

theorem Durable.close (hdurable : Durable deployment) (closed : Nat → Bool) :
    Durable { deployment with network := deployment.network.close closed } where
  network := hdurable.network.close closed
  published := hdurable.published

theorem durable_initial {network : Network}
    (hfresh : MqttService.Fresh network) : Durable (.initial network) where
  network := {
    wills := fun session hsession =>
      absurd hsession (fresh_session hfresh session)
    packets := fun connection packet hpacket => by
      rw [Deployment.initial, fresh_link hfresh] at hpacket
      cases hpacket }
  published process hprocess := by cases hprocess

/-- The broker's own steps are the only ones that change what is retained. -/
theorem retained_act (process : WatchdogProcess) (action : DeploymentAction) :
    (deployment.act config floats process action).network.broker =
      deployment.network.broker := by
  have hsend : ∀ (later : WatchdogProcess) packets,
      (later.send deployment.network packets).broker =
        deployment.network.broker := by
    intro later packets
    rw [WatchdogProcess.send]
    cases later.connection <;> rfl
  cases action <;> dsimp only [Deployment.act] <;> (try split) <;>
    first | rfl | exact hsend _ _

theorem Durable.retained_step (hdurable : Durable deployment)
    (action : DeploymentAction) (hkept : action ≠ .brokerRestart)
    {topic : String} (hretained : deployment.network.broker.retained topic ≠ none) :
    (deployment.step config floats action).network.broker.retained topic ≠
      none := by
  have hact : (deployment.proceed config floats
      action).network.broker.retained topic ≠ none := by
    rw [Deployment.proceed]
    cases deployment.process with
    | none => exact hretained
    | some process =>
        dsimp only
        rwa [retained_act]
  cases action with
  | start now =>
      rw [Deployment.step]
      cases deployment.process <;> exact hretained
  | deliver connection =>
      exact hdurable.network.retained_deliver connection hretained
  | breakOff connection => exact hdurable.network.retained_giveUp _ hretained
  | brokerRestart => exact absurd rfl hkept
  | _ => exact hact

end Durable

section Stays

open MqttService

variable {N : Type} [MqttService N] {start : N}

/-- Whatever happens, a topic that is retained stays so with any broker that
keeps to MQTT, unless it starts afresh. -/
theorem retained_stays (hmqtt : Documented N) (hfresh : Fresh start)
    (front : List DeploymentAction) {back : List DeploymentAction}
    (hkept : .brokerRestart ∉ back) {topic : String}
    (hretained : retained ((deploymentMachine config floats).run
      (.initial start) front).1.network topic ≠ none) :
    retained ((deploymentMachine config floats).run (.initial start)
      (front ++ back)).1.network topic ≠ none := by
  induction back using List.reverseRecOn with
  | nil => rwa [List.append_nil]
  | append_singleton back action ih =>
      rw [List.mem_append, List.mem_singleton, not_or] at hkept
      rw [← List.append_assoc, Mealy.run_concat]
      have hdurable : Durable ((deploymentMachine config floats).run
          (.initial start) (front ++ back)).1.seen :=
        Deployment.seen_invariant hmqtt _
          (fun _ closed _ hbefore => hbefore.close closed)
          (fun _ action hbefore _ => hbefore.step action)
          (durable_initial (fresh_view hfresh))
          (Mealy.along_of_forall (fun _ _ => trivial) _)
      have hstep : (Deployment.step config floats
          ((deploymentMachine config floats).run (.initial start)
            (front ++ back)).1.seen action).network.broker.retained topic ≠
          none :=
        hdurable.retained_step action (Ne.symm hkept.2) (ih hkept.1)
      obtain ⟨⟨closed, -, hview⟩, -⟩ := @Deployment.looks_step N _ config floats
        hmqtt ((deploymentMachine config floats).run (.initial start)
          (front ++ back)).1 action
      have hbroker := congrArg (fun network : Network =>
        network.broker.retained topic) hview
      exact fun hnone => hstep (hbroker.symm.trans hnone)

theorem retained_stays_killed :
    retained ((deploymentMachine .fromEmptyEnv
      Json.wholeFloats.toFloatRepr).run (.initial networkWithout)
        ([.start 0, .openConnection, .deliver 0, .connack [], .deliver 0] ++
          [.killed, .breakOff 0])).1.network
      TopicConfig.fromEmptyEnv.availabilityTopic ≠ none :=
  retained_stays documented_network fresh_networkWithout [.start 0,
    .openConnection, .deliver 0, .connack [], .deliver 0] (by simp)
    (by decide +kernel)

end Stays

end TeslamateWatchdog
