/-
The watchdog and a broker, their steps in any order: what `WatchdogMqtt`
publishes as it connects, runs and stops, and what a broker makes of it that
keeps to MQTT.
-/
import TeslamateWatchdog.Foundation.MqttService
import TeslamateWatchdog.Foundation.TopicFilter
import TeslamateWatchdog.HaDiscovery
import TeslamateWatchdog.PublishedEvents

namespace TeslamateWatchdog

open Foundation Mqtt

/-- The suffixes `_publish_status` publishes. -/
def statusSuffixes : List String :=
  ["state", "healthy", "http_status", "authenticated", "database_healthy",
    "logger_healthy", "last_check", "last_failure", "last_restart",
    "restart_count_24h", "recovery_status"]

/-- A value of the status.  An empty one would delete the topic. -/
structure StatusValue where
  suffix : String
  payload : String
  suffix_mem : suffix ∈ statusSuffixes
  payload_ne : payload ≠ ""

/-- What the check loop hands to the client. -/
inductive Report where
  | status (value : StatusValue)
  | event (text : String)

/-- `publish_state` retains and `publish_event` does not. -/
def Report.message (config : TopicConfig) : Report → Message
  | .status value => ⟨config.topic value.suffix, value.payload, true⟩
  | .event text => ⟨config.eventTopic, text, false⟩

namespace WatchdogMqtt

variable (config : TopicConfig) (floats : Json.FloatRepr)

def clientId (now : ℚ) : String :=
  "teslamate-watchdog-" ++ toString (PyFloat.truncate now)

/-- The availability topic carries `online`, or `offline`. -/
def availability (payload : String) : Message :=
  ⟨config.availabilityTopic, payload, true⟩

/-- What `_on_connect` publishes, the hook for the discovery included. -/
def onConnectMessages : List Message :=
  availability config payloadOnline ::
    (HaDiscovery.publish config floats).map fun message =>
      ⟨message.1, message.2, true⟩

end WatchdogMqtt

/-- A running watchdog, as the broker gets to know it.  `paho` keeps what was
published, and may send it again on a later connection. -/
structure WatchdogProcess where
  clientId : String
  connection : Option Nat
  connected : Bool
  stopping : Bool
  published : List Message
deriving Repr, DecidableEq

namespace WatchdogProcess

def started (now : ℚ) : WatchdogProcess where
  clientId := WatchdogMqtt.clientId now
  connection := none
  connected := false
  stopping := false
  published := []

variable {N : Type} [MqttService N] (process : WatchdogProcess)

/-- What goes out on the connection, if there is one. -/
def send (network : N) (packets : List Packet) : N :=
  match process.connection with
  | some connection => MqttService.send network connection packets
  | none => network

/-- The broker has the CONNECT of the connection, so that a CONNACK can come. -/
def accepted (network : N) : Bool :=
  match process.connection with
  | some connection =>
      !(MqttService.links network connection).arrived.isEmpty
  | none => false

/-- `_on_disconnect`. -/
def onDisconnect : WatchdogProcess :=
  { process with
    connection := none
    connected := false }

/-- What `stop` publishes. -/
def goodbye (config : TopicConfig) : List Message :=
  if process.connected then
    [WatchdogMqtt.availability config payloadOffline]
  else []

end WatchdogProcess

/-- The broker with its connections, and the watchdog while one runs. -/
structure Deployment (N : Type) where
  network : N
  process : Option WatchdogProcess

/-- What can happen next.  `stop` is taken in two steps, between which the
network thread goes on. -/
inductive DeploymentAction where
  | start (now : ℚ)
  | openConnection
  | connack (resent : List Message)
  | disconnected
  | publish (report : Report)
  | stopBegins
  | stopEnds
  | killed
  | deliver (connection : Nat)
  | breakOff (connection : Nat)
  | brokerRestart

namespace Deployment

variable {N : Type} [MqttService N]

/-- No watchdog runs yet. -/
def initial (network : N) : Deployment N where
  network := network
  process := none

variable (config : TopicConfig) (floats : Json.FloatRepr)
  (deployment : Deployment N) (process : WatchdogProcess)

/-- Messages are handed to `paho`. -/
def hand (messages : List Message) : Deployment N where
  network := process.send deployment.network (messages.map .publish)
  process := some
    { process with published := process.published ++ messages }

/-- The client connects, with its will. -/
def openConnection : Deployment N where
  network := MqttService.openWith deployment.network
    [.connect process.clientId
      (some (WatchdogMqtt.availability config payloadOffline))]
  process := some
    { process with
      connection := some (MqttService.opened deployment.network) }

/-- What the running watchdog does. -/
def act : DeploymentAction → Deployment N
  | .openConnection =>
      if process.connection = none then deployment.openConnection config process
      else deployment
  | .connack resent =>
      if process.connected = false ∧
          process.accepted deployment.network = true then
        deployment.hand { process with connected := true }
          (WatchdogMqtt.onConnectMessages config floats ++
            resent.filter (· ∈ process.published))
      else deployment
  | .disconnected => { deployment with process := some process.onDisconnect }
  | .publish report =>
      if process.stopping then deployment
      else deployment.hand process [report.message config]
  | .stopBegins =>
      if process.stopping then deployment
      else deployment.hand { process with stopping := true }
        (process.goodbye config)
  | .stopEnds =>
      if process.stopping then
        ⟨process.send deployment.network [.disconnect], none⟩
      else deployment
  | .killed => { deployment with process := none }
  | _ => deployment

/-- A step of the watchdog, if one runs. -/
def proceed (action : DeploymentAction) : Deployment N :=
  match deployment.process with
  | none => deployment
  | some process => deployment.act config floats process action

def step : DeploymentAction → Deployment N
  | .start now =>
      match deployment.process with
      | none => { deployment with process := some (.started now) }
      | some _ => deployment
  | .deliver connection =>
      { deployment with
        network := MqttService.deliver deployment.network connection }
  | .breakOff connection =>
      { deployment with
        network := MqttService.breakOff deployment.network connection }
  | .brokerRestart =>
      { deployment with network := MqttService.restart deployment.network }
  | action => deployment.proceed config floats action

end Deployment

/-- The deployment as a machine; nothing is put out. -/
def deploymentMachine {N : Type} [MqttService N] (config : TopicConfig)
    (floats : Json.FloatRepr) :
    Mealy (Deployment N) DeploymentAction Empty where
  step deployment action := (deployment.step config floats action, [])

namespace Deployment

variable {N : Type} [MqttService N] {config : TopicConfig}
  {floats : Json.FloatRepr}

/-- The deployment, with as much of the service as can be seen. -/
def seen (deployment : Deployment N) : Deployment Network :=
  ⟨MqttService.view deployment.network, deployment.process⟩

/-- The deployment looks like this, but for connections that were closed. -/
def Looks (deployment : Deployment N) (seen : Deployment Network) : Prop :=
  MqttService.Closes seen.network deployment.network ∧
    deployment.process = seen.process

section Seen

variable (hmqtt : MqttService.Documented N) (deployment : Deployment N)
  (process : WatchdogProcess)

include hmqtt

theorem view_send (packets : List Packet) :
    MqttService.view (process.send deployment.network packets) =
      process.send deployment.seen.network packets := by
  rw [WatchdogProcess.send, WatchdogProcess.send]
  cases process.connection with
  | none => rfl
  | some connection => exact hmqtt.view_send deployment.network connection packets

theorem seen_hand (messages : List Message) :
    (deployment.hand process messages).seen =
      deployment.seen.hand process messages := by
  rw [seen, hand, view_send hmqtt]
  rfl

theorem seen_openConnection :
    (deployment.openConnection config process).seen =
      deployment.seen.openConnection config process := by
  rw [seen, openConnection, hmqtt.view_openWith]
  rfl

theorem seen_act (action : DeploymentAction) :
    (deployment.act config floats process action).seen =
      deployment.seen.act config floats process action := by
  cases action with
  | openConnection =>
      rw [act, act, apply_ite seen, seen_openConnection hmqtt]
  | connack resent =>
      have haccepted : process.accepted deployment.seen.network =
          process.accepted deployment.network := rfl
      rw [act, act, apply_ite seen, seen_hand hmqtt, haccepted]
  | publish report => rw [act, act, apply_ite seen, seen_hand hmqtt]
  | stopBegins => rw [act, act, apply_ite seen, seen_hand hmqtt]
  | stopEnds =>
      rw [act, act, apply_ite seen, seen, view_send hmqtt]
  | _ => rfl

/-- Whatever happens looks as if it happened to the network that is seen. -/
theorem looks_step (action : DeploymentAction) :
    (deployment.step config floats action).Looks
      (deployment.seen.step config floats action) := by
  have hproceed : (deployment.proceed config floats action).seen =
      deployment.seen.proceed config floats action := by
    have hprocess : deployment.seen.process = deployment.process := rfl
    rw [proceed, proceed, hprocess]
    cases deployment.process with
    | none => rfl
    | some process => exact seen_act hmqtt deployment process action
  have hlooks : ∀ {later : Deployment N} {same : Deployment Network},
      later.seen = same → later.Looks same := fun hsame =>
    ⟨MqttService.closes_of_eq (congrArg network hsame),
      congrArg process hsame⟩
  cases action with
  | start now =>
      apply hlooks
      have hprocess : deployment.seen.process = deployment.process := rfl
      rw [step, step, hprocess]
      cases deployment.process <;> rfl
  | deliver connection => exact ⟨hmqtt.view_deliver _ connection, rfl⟩
  | breakOff connection =>
      exact ⟨MqttService.closes_of_eq (hmqtt.view_breakOff _ connection), rfl⟩
  | brokerRestart =>
      exact ⟨MqttService.closes_of_eq (hmqtt.view_restart _), rfl⟩
  | _ => exact hlooks hproceed

/-- What every step on a network preserves, and every closing of connections
without a session, holds of all that is seen on a run. -/
theorem seen_invariant {invariant : Deployment Network → Prop}
    {condition : Deployment N → DeploymentAction → Prop}
    (hclose : ∀ seen closed, Idle seen.network closed → invariant seen →
      invariant { seen with network := seen.network.close closed })
    (hstep : ∀ (current : Deployment N) action, invariant current.seen →
      condition current action →
      invariant (current.seen.step config floats action))
    (hstart : invariant deployment.seen) {actions : List DeploymentAction}
    (halong : (deploymentMachine config floats).Along condition deployment
      actions) :
    invariant ((deploymentMachine config floats).run deployment
      actions).1.seen := by
  refine Mealy.run_invariant (fun current => invariant current.seen) hstart
    (fun current action hbefore hcondition => ?_) actions halong
  obtain ⟨⟨closed, hidle, hview⟩, hprocess⟩ :=
    @looks_step N _ config floats hmqtt current action
  have hseen : (current.step config floats action).seen =
      { current.seen.step config floats action with
        network := (current.seen.step config floats action).network.close
          closed } := by
    rw [seen, hview, hprocess]
  have hafter := hclose _ closed hidle (hstep current action hbefore hcondition)
  rw [← hseen] at hafter
  exact hafter

end Seen

end Deployment

section Topics

variable {config : TopicConfig} {floats : Json.FloatRepr}

theorem levels_topic (config : TopicConfig) {suffix : String}
    (hsuffix : '/' ∉ suffix.toList) :
    Topic.levels (config.topic suffix) =
      Topic.levels config.mqttBaseTopic ++ [suffix] := by
  rw [TopicConfig.topic, Topic.levels_append, Topic.levels_eq_singleton hsuffix]

theorem topic_inj {suffix other : String} (hsuffix : '/' ∉ suffix.toList)
    (hother : '/' ∉ other.toList)
    (heq : config.topic suffix = config.topic other) : suffix = other := by
  have hlevels := congrArg Topic.levels heq
  rw [levels_topic config hsuffix, levels_topic config hother] at hlevels
  exact List.singleton_inj.mp (List.append_cancel_left hlevels)

theorem statusSuffixes_plain :
    ∀ suffix ∈ statusSuffixes, '/' ∉ suffix.toList ∧ suffix ≠ "availability" ∧
      suffix ≠ "config" := by
  decide

/-- A report is about another topic than the availability. -/
theorem report_leaves_availability (config : TopicConfig) (report : Report) :
    (Packet.publish (report.message config)).leaves config.availabilityTopic =
      none := by
  rw [Packet.leaves, Message.leaves, if_neg]
  rintro ⟨hretain, htopic⟩
  cases report with
  | status value =>
      have hplain := statusSuffixes_plain _ value.suffix_mem
      exact hplain.2.1 (topic_inj hplain.1 (by decide) htopic)
  | event text => cases hretain

end Topics

/-- What the current connection has carried, while the process keeps to the
order of `_on_connect` and `stop`. -/
structure Manners (config : TopicConfig) (process : WatchdogProcess)
    (sent : List Packet) : Prop where
  staying : .disconnect ∉ sent
  silent : process.connected = false →
    spoken config.availabilityTopic sent = none
  leaving : process.stopping = true →
    spoken config.availabilityTopic sent ≠ some (some payloadOnline)

structure Polite (config : TopicConfig) (deployment : Deployment Network) :
    Prop where
  attended :
    Attended config.availabilityTopic payloadOnline deployment.network
  manners : ∀ process ∈ deployment.process,
    ∀ connection ∈ process.connection,
      (deployment.network.links connection).broken = false →
      Manners config process (deployment.network.links connection).sent

/-- Nothing connects while the watchdog stops. -/
def Undisturbed {N : Type} (deployment : Deployment N) :
    DeploymentAction → Prop
  | .connack _ => ∀ process ∈ deployment.process, process.stopping = false
  | _ => True

instance {N : Type} (deployment : Deployment N) (action : DeploymentAction) :
    Decidable (Undisturbed deployment action) :=
  match action with
  | .connack _ => inferInstanceAs
      (Decidable (∀ process ∈ deployment.process, process.stopping = false))
  | .start _ | .openConnection | .disconnected | .publish _ | .stopBegins
  | .stopEnds | .killed | .deliver _ | .breakOff _ | .brokerRestart =>
      .isTrue trivial

section PoliteSteps

variable {config : TopicConfig} {floats : Json.FloatRepr}
  {deployment : Deployment Network} {process later : WatchdogProcess}

theorem leaves_availability (config : TopicConfig) (payload : String)
    (hpayload : payload ≠ "") :
    (Packet.publish (WatchdogMqtt.availability config payload)).leaves
      config.availabilityTopic = some (some payload) := by
  simp [Packet.leaves, Message.leaves, Message.kept, WatchdogMqtt.availability,
    hpayload]

theorem recants_offline (config : TopicConfig) :
    Recants config.availabilityTopic payloadOnline
      (some (WatchdogMqtt.availability config payloadOffline)) :=
  ⟨some payloadOffline, leaves_availability config _ (by decide), by decide⟩

theorem Manners.staying_publish {sent : List Packet}
    (hmanners : Manners config process sent) (messages : List Message) :
    .disconnect ∉ sent ++ messages.map Packet.publish := by
  simp [hmanners.staying]

theorem Manners.report {sent : List Packet}
    (hmanners : Manners config process sent)
    (hstopping : process.stopping = false) (report : Report) :
    Manners config process
      (sent ++ [report.message config].map .publish) where
  staying := hmanners.staying_publish _
  silent hconnected := by
    rw [List.map_singleton, spoken_concat_of_none
      (report_leaves_availability config report)]
    exact hmanners.silent hconnected
  leaving hleaving := by
    rw [hstopping] at hleaving
    cases hleaving

theorem Manners.goodbye {sent : List Packet}
    (hmanners : Manners config process sent) :
    Manners config { process with stopping := true }
      (sent ++ (process.goodbye config).map .publish) where
  staying := hmanners.staying_publish _
  silent hconnected := by
    dsimp only at hconnected
    rw [WatchdogProcess.goodbye, hconnected, if_neg Bool.false_ne_true,
      List.map_nil, List.append_nil]
    exact hmanners.silent hconnected
  leaving _ := by
    rw [WatchdogProcess.goodbye]
    split
    · rw [List.map_singleton, spoken_concat_of_some
        (leaves_availability config payloadOffline (by decide))]
      decide
    · rename_i hconnected
      rw [List.map_nil, List.append_nil,
        hmanners.silent (Bool.eq_false_of_not_eq_true hconnected)]
      decide

theorem Manners.connack {sent : List Packet}
    (hmanners : Manners config process sent)
    (hstopping : process.stopping = false) (messages : List Message) :
    Manners config { process with connected := true }
      (sent ++ messages.map .publish) where
  staying := hmanners.staying_publish messages
  silent hconnected := by cases hconnected
  leaving hleaving := by
    dsimp only at hleaving
    rw [hstopping] at hleaving
    cases hleaving

/-- Packets that go out on the current connection, if they keep its manners. -/
theorem Polite.send (hpolite : Polite config deployment)
    (hprocess : deployment.process = some process) {packets : List Packet}
    (hconnects : ∀ packet ∈ packets,
      packet.Recants config.availabilityTopic payloadOnline)
    (hcourteous : ∀ sent, Manners config process sent →
      Courteous config.availabilityTopic payloadOnline (sent ++ packets)) :
    Attended config.availabilityTopic payloadOnline
      (process.send deployment.network packets) := by
  rw [WatchdogProcess.send]
  cases hconnection : process.connection with
  | none => exact hpolite.attended
  | some connection =>
      refine hpolite.attended.send hconnects ?_
      cases hbroken : (deployment.network.links connection).broken with
      | true =>
          rw [Link.send_of_broken hbroken]
          exact hpolite.attended.courteous connection
      | false =>
          rw [Link.send_sent hbroken]
          exact hcourteous _ (hpolite.manners process hprocess connection
            hconnection hbroken)

/-- What is handed to `paho` goes out on the current connection. -/
theorem Polite.hand (hpolite : Polite config deployment)
    (hprocess : deployment.process = some process)
    (hconnection : later.connection = process.connection)
    {messages : List Message}
    (hmanners : ∀ sent, Manners config process sent →
      Manners config later (sent ++ messages.map .publish)) :
    Polite config (deployment.hand later messages) where
  attended := by
    have hattended := hpolite.send hprocess
      (fun packet hpacket => by
        obtain ⟨message, -, rfl⟩ := List.mem_map.mp hpacket
        trivial)
      fun sent hsent => courteous_of_staying (hmanners sent hsent).staying
    rwa [WatchdogProcess.send, ← hconnection] at hattended
  manners current hcurrent connection hlink hwhole := by
    obtain rfl := Option.some.inj hcurrent
    have hlater : later.connection = some connection := hlink
    rw [Deployment.hand, WatchdogProcess.send, hlater] at hwhole ⊢
    dsimp only at hwhole ⊢
    rw [service_send] at hwhole ⊢
    rw [send_self, Link.send_broken] at hwhole
    rw [send_self, Link.send_sent hwhole]
    have hsent := hmanners _ (hpolite.manners process hprocess connection
      (hconnection.symm.trans hlater) hwhole)
    exact ⟨hsent.staying, hsent.silent, hsent.leaving⟩

theorem Polite.openConnection (hpolite : Polite config deployment)
    (process : WatchdogProcess) :
    Polite config (deployment.openConnection config process) where
  attended := hpolite.attended.openWith
    (List.forall_mem_singleton.mpr (recants_offline config)) (by simp)
  manners current hcurrent connection hlink hwhole := by
    obtain rfl := Option.some.inj hcurrent
    obtain rfl := Option.some.inj hlink
    rw [Deployment.openConnection, service_openWith, service_opened,
      openWith_self]
    exact ⟨by simp [Link.sent], fun _ => rfl, fun _ honline => by cases honline⟩

/-- Without a process, or without a connection, there is nobody whose manners
matter. -/
theorem Polite.leave (hpolite : Polite config deployment)
    {process : Option WatchdogProcess}
    (hnone : ∀ current ∈ process, current.connection = none) :
    Polite config { deployment with process := process } where
  attended := hpolite.attended
  manners current hcurrent connection hlink := by
    rw [hnone current hcurrent] at hlink
    cases hlink

theorem Polite.stopEnds (hpolite : Polite config deployment)
    (hprocess : deployment.process = some process)
    (hstopping : process.stopping = true) :
    Polite config ⟨process.send deployment.network [.disconnect], none⟩ where
  attended := hpolite.send hprocess
    (List.forall_mem_singleton.mpr trivial)
    fun _ hsent => courteous_goodbye hsent.staying (hsent.leaving hstopping)
  manners current hcurrent := by cases hcurrent

theorem Polite.act (hpolite : Polite config deployment)
    (hprocess : deployment.process = some process) (action : DeploymentAction)
    (hundisturbed : Undisturbed deployment action) :
    Polite config (deployment.act config floats process action) := by
  cases action with
  | openConnection =>
      rw [Deployment.act]
      split
      · exact hpolite.openConnection process
      · exact hpolite
  | connack resent =>
      rw [Deployment.act]
      split
      · refine hpolite.hand hprocess ?_ fun sent hsent =>
          hsent.connack (hundisturbed process hprocess) _
        rfl
      · exact hpolite
  | disconnected =>
      refine hpolite.leave fun current hcurrent => ?_
      obtain rfl := Option.some.inj hcurrent
      rfl
  | publish report =>
      rw [Deployment.act]
      split
      · exact hpolite
      · rename_i hstopping
        exact hpolite.hand hprocess rfl fun sent hsent =>
          hsent.report (Bool.eq_false_of_not_eq_true hstopping) report
  | stopBegins =>
      rw [Deployment.act]
      split
      · exact hpolite
      · refine hpolite.hand hprocess ?_ fun sent hsent => hsent.goodbye
        rfl
  | stopEnds =>
      rw [Deployment.act]
      split
      · rename_i hstopping
        exact hpolite.stopEnds hprocess hstopping
      · exact hpolite
  | killed => exact hpolite.leave fun current hcurrent => by cases hcurrent
  | _ => exact hpolite

theorem Polite.close (hpolite : Polite config deployment)
    {closed : Nat → Bool} (hidle : Idle deployment.network closed) :
    Polite config
      { deployment with network := deployment.network.close closed } where
  attended := hpolite.attended.close hidle
  manners process hprocess link hlink hwhole := by
    have hlinks := close_of_whole hwhole
    dsimp only at hwhole ⊢
    rw [hlinks] at hwhole ⊢
    exact hpolite.manners process hprocess link hlink hwhole

theorem Polite.step (hpolite : Polite config deployment)
    (action : DeploymentAction)
    (hundisturbed : Undisturbed deployment action) :
    Polite config (deployment.step config floats action) := by
  have hact : Polite config (deployment.proceed config floats action) := by
    rw [Deployment.proceed]
    cases hprocess : deployment.process with
    | none => exact hpolite
    | some process => exact hpolite.act hprocess action hundisturbed
  cases action with
  | start now =>
      rw [Deployment.step]
      cases hprocess : deployment.process with
      | none =>
          refine hpolite.leave fun current hcurrent => ?_
          obtain rfl := Option.some.inj hcurrent
          rfl
      | some process => exact hpolite
  | deliver connection =>
      refine ⟨hpolite.attended.deliver connection, ?_⟩
      intro process hprocess link hlink hwhole
      rw [Deployment.step, service_deliver] at hwhole ⊢
      rw [deliver_broken] at hwhole
      rw [deliver_sent]
      exact hpolite.manners process hprocess link hlink hwhole
  | breakOff connection =>
      refine ⟨hpolite.attended.breakOff connection, ?_⟩
      intro process hprocess link hlink hwhole
      have hlinks := breakOff_of_whole hwhole
      rw [Deployment.step, service_breakOff] at hwhole ⊢
      rw [hlinks] at hwhole ⊢
      exact hpolite.manners process hprocess link hlink hwhole
  | brokerRestart =>
      refine ⟨hpolite.attended.restart, ?_⟩
      intro process hprocess link hlink hwhole
      cases hwhole
  | _ => exact hact

theorem polite_initial {network : Network} (hfresh : MqttService.Fresh network)
    (hretained : network.broker.retained config.availabilityTopic ≠
      some payloadOnline) : Polite config (.initial network) where
  attended := {
    known := fresh_known hfresh
    wills := fun session hsession =>
      absurd hsession (fresh_session hfresh session)
    connects := fun connection packet hpacket => by
      rw [Deployment.initial, fresh_link hfresh] at hpacket
      cases hpacket
    courteous := fun connection => courteous_of_staying (by
      rw [Deployment.initial, fresh_link hfresh]
      exact List.not_mem_nil)
    held := fun honline => absurd honline hretained }
  manners process hprocess := by cases hprocess

end PoliteSteps

section Online

open MqttService

variable {config : TopicConfig} {N : Type} [MqttService N] {start : N}

theorem fresh_view (hfresh : Fresh start) : Fresh (view start) :=
  ⟨hfresh.sessions, hfresh.opened, hfresh.links⟩

theorem undisturbed_seen {deployment : Deployment N} {action : DeploymentAction}
    (hundisturbed : Undisturbed deployment action) :
    Undisturbed deployment.seen action := by
  cases action <;> exact hundisturbed

theorem polite_run (hmqtt : Documented N) (hfresh : Fresh start)
    (hretained : retained start config.availabilityTopic ≠ some payloadOnline)
    (floats : Json.FloatRepr) {actions : List DeploymentAction}
    (hundisturbed : (deploymentMachine config floats).Along Undisturbed
      (.initial start) actions) :
    Polite config ((deploymentMachine config floats).run (.initial start)
      actions).1.seen :=
  Deployment.seen_invariant hmqtt _
    (fun _ _ hidle hpolite => hpolite.close hidle)
    (fun _ action hpolite hcondition =>
      hpolite.step action (undisturbed_seen hcondition))
    (polite_initial (fresh_view hfresh) hretained) hundisturbed

/-- Whatever is delivered, lost, killed or restarted in what order, with any
broker that keeps to MQTT: a watchdog that is said to be online has a session
that said so itself, and whose end takes it off the topic; without a session
every announced entity is unavailable. -/
theorem online_has_session {floats : Json.FloatText} (hmqtt : Documented N)
    (hfresh : Fresh start)
    (hretained : retained start config.availabilityTopic ≠ some payloadOnline)
    {actions : List DeploymentAction}
    (hundisturbed : (deploymentMachine config floats.toFloatRepr).Along
      Undisturbed (.initial start) actions) :
    let network := ((deploymentMachine config floats.toFloatRepr).run
      (.initial start) actions).1.network
    (retained network config.availabilityTopic = some payloadOnline →
      ∃ session ∈ sessions network,
        spoken config.availabilityTopic
            (links network session.connection).arrived =
          some (some payloadOnline) ∧
        retained (breakOff network session.connection)
          config.availabilityTopic ≠ some payloadOnline) ∧
    (sessions network = [] → ∀ jinja (shows : HomeAssistant),
      shows.Documented floats jinja →
      ∀ entity ∈ HaDiscovery.buildEntities config,
        AnnouncedEntity config floats.toFloatRepr (retained network) entity →
        shows (retained network) entity.component (entity.topic config) =
          .unavailable) := by
  intro network
  have hattended : Attended config.availabilityTopic payloadOnline
      (view network) :=
    (polite_run hmqtt hfresh hretained floats.toFloatRepr
      hundisturbed).attended
  constructor
  · intro honline
    obtain ⟨session, hsession, hspoken⟩ := hattended.held honline
    refine ⟨session, hsession, hspoken, fun hstill => ?_⟩
    have hgiveUp : (view (breakOff network session.connection)).broker.retained
        config.availabilityTopic = some payloadOnline := hstill
    rw [hmqtt.view_breakOff] at hgiveUp
    have hsame : ((view network).breakOff session.connection).broker =
        (view network).broker := giveUp_of_online hattended.wills hgiveUp
    have hgone := hsame ▸ hsession
    simp [Network.breakOff, Broker.giveUp] at hgone
  · intro hnone jinja shows hshows entity hentity hannounced
    refine shows_unavailable hshows hentity hannounced fun honline => ?_
    obtain ⟨session, hsession, -⟩ := hattended.held honline
    have hsessions : (view network).broker.sessions = [] := hnone
    rw [hsessions] at hsession
    cases hsession

/-- A network without connections, and with nothing retained. -/
def networkWithout : Network :=
  ⟨⟨fun _ => none, []⟩, 0, fun _ => ⟨[], [], false⟩⟩

theorem fresh_networkWithout : Fresh networkWithout := ⟨rfl, rfl, fun _ => rfl⟩

theorem online_has_session_connecting :
    let network := ((deploymentMachine .fromEmptyEnv
      Json.wholeFloats.toFloatRepr).run (.initial networkWithout)
      [.start 0, .openConnection, .deliver 0, .connack [], .deliver 0]).1.network
    ∃ session ∈ sessions network,
      spoken TopicConfig.fromEmptyEnv.availabilityTopic
        (links network session.connection).arrived =
          some (some payloadOnline) := by
  have hheld := (@online_has_session .fromEmptyEnv Network _ networkWithout
    Json.wholeFloats documented_network fresh_networkWithout (by decide)
    [.start 0, .openConnection, .deliver 0, .connack [], .deliver 0]
    (by decide +kernel)).1
  obtain ⟨session, hsession, hspoken, -⟩ := hheld (by decide +kernel)
  exact ⟨session, hsession, hspoken⟩

-- a CONNACK between the two steps of `stop` leaves the topic at `online`
example :
    let config := { TopicConfig.fromEmptyEnv with haDiscoveryEnabled := false }
    let network := ((deploymentMachine config Json.wholeFloats.toFloatRepr).run
      (.initial networkWithout) [.start 0, .openConnection, .deliver 0,
        .stopBegins, .connack [], .stopEnds, .deliver 0, .deliver 0]).1.network
    sessions network = [] ∧
      retained network config.availabilityTopic = some payloadOnline := by
  decide +kernel

end Online

end TeslamateWatchdog
