/-
What the broker retains of a watchdog that starts once the one before it is
gone: whatever was said last on every topic.
-/
import TeslamateWatchdog.Availability

namespace TeslamateWatchdog

open Foundation Mqtt HaDiscovery WatchdogMqtt

variable {config : TopicConfig} {floats : Json.FloatRepr}

section Standing

theorem levels_discovery (config : TopicConfig) (entity : Entity)
    (hcomponent : '/' ∉ entity.component.toList)
    (hid : '/' ∉ entity.objectId.toList) :
    Topic.levels (entity.topic config) =
      Topic.levels config.haDiscoveryPrefix ++
        [entity.component, nodeId, entity.objectId, "config"] := by
  have htopic : entity.topic config =
      config.haDiscoveryPrefix ++ "/" ++ entity.component ++ "/" ++ nodeId ++
        "/" ++ entity.objectId ++ "/" ++ "config" := by
    have hend : "/config" = "/" ++ "config" := by decide
    rw [Entity.topic, hend, ← String.append_assoc]
  rw [htopic, Topic.levels_append, Topic.levels_append, Topic.levels_append,
    Topic.levels_append, Topic.levels_eq_singleton hcomponent,
    Topic.levels_eq_singleton hid,
    Topic.levels_eq_singleton (by decide : '/' ∉ nodeId.toList),
    Topic.levels_eq_singleton (by decide : '/' ∉ "config".toList)]
  simp

theorem names_buildEntities (config : TopicConfig) :
    (buildEntities config).map (fun entity =>
        (entity.component, entity.objectId)) =
      [("sensor", "state"), ("binary_sensor", "healthy"),
        ("binary_sensor", "authenticated"),
        ("binary_sensor", "database_healthy"),
        ("binary_sensor", "logger_healthy"), ("sensor", "last_failure"),
        ("sensor", "last_restart"), ("sensor", "restart_count_24h")] := rfl

theorem plain_of_mem {entity : Entity}
    (hentity : entity ∈ buildEntities config) :
    '/' ∉ entity.component.toList ∧ '/' ∉ entity.objectId.toList := by
  have hmem : (entity.component, entity.objectId) ∈
      (buildEntities config).map fun entity =>
        (entity.component, entity.objectId) :=
    List.mem_map_of_mem hentity
  have hplain : ∀ name ∈ (buildEntities config).map fun entity =>
      (entity.component, entity.objectId),
      '/' ∉ name.1.toList ∧ '/' ∉ name.2.toList := by
    rw [names_buildEntities]
    decide
  exact hplain _ hmem

theorem eq_of_objectId {entity other : Entity}
    (hentity : entity ∈ buildEntities config)
    (hother : other ∈ buildEntities config)
    (hid : entity.objectId = other.objectId) : entity = other := by
  have hnodup : ((buildEntities config).map Entity.objectId).Nodup := by
    have hnames : (buildEntities config).map Entity.objectId =
        ["state", "healthy", "authenticated", "database_healthy",
          "logger_healthy", "last_failure", "last_restart",
          "restart_count_24h"] := rfl
    rw [hnames]
    decide
  exact List.inj_on_of_nodup_map hnodup hentity hother hid

theorem discovery_ne_topic {entity : Entity}
    (hentity : entity ∈ buildEntities config) {suffix : String}
    (hsuffix : '/' ∉ suffix.toList) (hne : suffix ≠ "config") :
    entity.topic config ≠ config.topic suffix := by
  intro heq
  have hlevels := congrArg Topic.levels heq
  have hplain := plain_of_mem hentity
  rw [levels_discovery config entity hplain.1 hplain.2,
    levels_topic config hsuffix] at hlevels
  have hlast := congrArg List.getLast? hlevels
  simp at hlast
  exact hne hlast.symm

theorem discovery_topic_inj {entity other : Entity}
    (hentity : entity ∈ buildEntities config)
    (hother : other ∈ buildEntities config)
    (htopic : entity.topic config = other.topic config) : entity = other := by
  have hlevels := congrArg Topic.levels htopic
  have hfirst := plain_of_mem hentity
  have hsecond := plain_of_mem hother
  rw [levels_discovery config entity hfirst.1 hfirst.2,
    levels_discovery config other hsecond.1 hsecond.2] at hlevels
  have hnames := List.append_cancel_left hlevels
  simp only [List.cons.injEq, and_true] at hnames
  exact eq_of_objectId hentity hother hnames.2.2

theorem dumpsCompact_obj_ne (floats : Json.FloatRepr)
    (members : List (String × Json)) :
    Json.dumpsCompact floats (.obj members) ≠ "" := by
  intro hempty
  have hchars := congrArg String.toList hempty
  rw [Json.dumpsCompact, String.toList_ofList, Json.write] at hchars
  cases hpieces : Json.writeMembers floats .compact (0 + 1) members with
  | nil =>
      rw [hpieces] at hchars
      cases hchars
  | cons piece rest =>
      rw [hpieces] at hchars
      cases hchars

theorem mem_onConnectMessages {message : Message} :
    message ∈ onConnectMessages config floats ↔
      message = WatchdogMqtt.availability config payloadOnline ∨
        config.haDiscoveryEnabled = true ∧
        ∃ entity ∈ buildEntities config,
          message = ⟨entity.topic config,
            Json.dumpsCompact floats (.obj entity.payload), true⟩ := by
  rw [onConnectMessages, List.mem_cons, HaDiscovery.publish]
  refine or_congr_right ?_
  split
  · rename_i henabled
    simp [henabled, eq_comm]
  · rename_i henabled
    simp [henabled]

theorem onConnectMessages_inj {message other : Message}
    (hmessage : message ∈ onConnectMessages config floats)
    (hother : other ∈ onConnectMessages config floats)
    (htopic : message.topic = other.topic) : message = other := by
  rcases mem_onConnectMessages.mp hmessage with rfl | ⟨-, entity, hentity, rfl⟩ <;>
    rcases mem_onConnectMessages.mp hother with rfl | ⟨-, second, hsecond, rfl⟩
  · rfl
  · exact absurd htopic.symm
      (discovery_ne_topic hsecond (by decide) (by decide))
  · exact absurd htopic (discovery_ne_topic hentity (by decide) (by decide))
  · rw [discovery_topic_inj hentity hsecond htopic]

theorem onConnectMessages_lasting {message : Message}
    (hmessage : message ∈ onConnectMessages config floats) :
    message.retain = true ∧ message.payload ≠ "" := by
  rcases mem_onConnectMessages.mp hmessage with rfl | ⟨-, entity, -, rfl⟩
  · have honline : payloadOnline ≠ "" := by decide
    exact ⟨rfl, honline⟩
  · exact ⟨rfl, dumpsCompact_obj_ne floats entity.payload⟩

/-- A message that does not contradict what `_on_connect` publishes. -/
def Agrees (config : TopicConfig) (floats : Json.FloatRepr)
    (message : Message) : Prop :=
  ∀ standing ∈ onConnectMessages config floats,
    message.leaves standing.topic = none ∨
      message.leaves standing.topic = some (some standing.payload)

theorem onConnectMessages_leaves {standing : Message}
    (hstanding : standing ∈ onConnectMessages config floats) :
    standing.leaves standing.topic = some (some standing.payload) := by
  obtain ⟨hretain, hpayload⟩ := onConnectMessages_lasting hstanding
  rw [Message.leaves, if_pos ⟨hretain, rfl⟩, Message.kept, if_neg hpayload]

theorem onConnectMessages_agrees {message : Message}
    (hmessage : message ∈ onConnectMessages config floats) :
    Agrees config floats message := by
  intro standing hstanding
  by_cases htopic : message.topic = standing.topic
  · right
    rw [onConnectMessages_inj hmessage hstanding htopic,
      onConnectMessages_leaves hstanding]
  · left
    rw [Message.leaves, if_neg fun hleaves => htopic hleaves.2]

theorem report_agrees (report : Report) :
    Agrees config floats (report.message config) := by
  intro standing hstanding
  left
  rcases mem_onConnectMessages.mp hstanding with rfl | ⟨-, entity, hentity, rfl⟩
  · exact report_leaves_availability config report
  · rw [Message.leaves, if_neg]
    rintro ⟨hretain, htopic⟩
    cases report with
    | status value =>
        have hplain := statusSuffixes_plain _ value.suffix_mem
        exact discovery_ne_topic hentity hplain.1 hplain.2.2 htopic.symm
    | event text => cases hretain

end Standing

/-- What `_on_connect` publishes is what was said last on the connection. -/
def Proclaimed (config : TopicConfig) (floats : Json.FloatRepr)
    (sent : List Packet) : Prop :=
  ∀ standing ∈ onConnectMessages config floats,
    spoken standing.topic sent = some (some standing.payload)

structure Candid (config : TopicConfig) (floats : Json.FloatRepr)
    (deployment : Deployment Network) : Prop where
  sole : ∃ client, Sole client deployment.network ∧
    ∀ process ∈ deployment.process, process.clientId = client
  published : ∀ process ∈ deployment.process, process.stopping = false →
    ∀ message ∈ process.published, Agrees config floats message
  linked : ∀ process ∈ deployment.process, process.connection = none →
    process.connected = false
  standing : ∀ process ∈ deployment.process, process.connected = true →
    process.stopping = false → ∀ connection ∈ process.connection,
      (deployment.network.links connection).broken = false →
      Proclaimed config floats (deployment.network.links connection).sent

/-- A watchdog starts once nothing of the one before it is left at the broker
or under way. -/
def Orderly {N : Type} [MqttService N] (deployment : Deployment N) :
    DeploymentAction → Prop
  | .start _ => MqttService.sessions deployment.network = [] ∧
      ∀ connection,
        (MqttService.links deployment.network connection).pending = []
  | _ => True

def DeploymentAction.starts : DeploymentAction → Bool
  | .start _ => true
  | _ => false

section CandidSteps

variable {deployment : Deployment Network} {process later : WatchdogProcess}

theorem Proclaimed.concat {sent : List Packet}
    (hstanding : Proclaimed config floats sent) {message : Message}
    (hagrees : Agrees config floats message) :
    Proclaimed config floats (sent ++ [.publish message]) := by
  intro standing hmem
  rcases hagrees standing hmem with hnone | hsame
  · have hpacket : (Packet.publish message).leaves standing.topic = none :=
      hnone
    rw [spoken_concat_of_none hpacket, hstanding standing hmem]
  · exact spoken_concat_of_some hsame

/-- After `_on_connect` everything it publishes stands, whatever was sent before
it, and whatever that agrees is sent again. -/
theorem standing_connack (sent : List Packet) {resent : List Message}
    (hresent : ∀ message ∈ resent, Agrees config floats message) :
    Proclaimed config floats
      (sent ++ (onConnectMessages config floats ++ resent).map .publish) := by
  intro standing hstanding
  have hagree : ∀ packet ∈ (onConnectMessages config floats ++ resent).map
      Packet.publish, packet.leaves standing.topic = none ∨
        packet.leaves standing.topic = some (some standing.payload) := by
    intro packet hpacket
    obtain ⟨message, hmessage, rfl⟩ := List.mem_map.mp hpacket
    rcases List.mem_append.mp hmessage with hfirst | hagain
    · exact onConnectMessages_agrees hfirst standing hstanding
    · exact hresent message hagain standing hstanding
  have hlatest := latest_of_agree ⟨Packet.publish standing,
    List.mem_map_of_mem (List.mem_append_left resent hstanding),
    onConnectMessages_leaves hstanding⟩ hagree
  rw [spoken, latest_append, hlatest, Option.some_or]

/-- Packets that open nothing leave the client without rivals. -/
theorem sole_send {client : String} (hsole : Sole client deployment.network)
    (process : WatchdogProcess) {packets : List Packet}
    (hopens : ∀ packet ∈ packets, packet.opens = false) :
    Sole client (process.send deployment.network packets) := by
  rw [WatchdogProcess.send]
  cases process.connection with
  | none => exact hsole
  | some connection =>
      refine hsole.send (fun packet hpacket => ?_)
        ((hsole.opening connection).send hopens)
      cases packet with
      | connect client will =>
          have hfalse := hopens _ hpacket
          cases hfalse
      | _ => trivial

theorem Candid.hand (hcandid : Candid config floats deployment)
    (hprocess : deployment.process = some process)
    (hclient : later.clientId = process.clientId)
    (hconnection : later.connection = process.connection)
    {messages : List Message}
    (hlinked : later.connection = none → later.connected = false)
    (hpublished : later.stopping = false →
      ∀ message ∈ later.published ++ messages, Agrees config floats message)
    (hstanding : later.connected = true → later.stopping = false →
      ∀ sent, (process.connected = true → process.stopping = false →
          Proclaimed config floats sent) →
        Proclaimed config floats (sent ++ messages.map .publish)) :
    Candid config floats (deployment.hand later messages) where
  sole := by
    obtain ⟨client, hsole, howner⟩ := hcandid.sole
    refine ⟨client, sole_send hsole later fun packet hpacket => ?_, ?_⟩
    · obtain ⟨message, -, rfl⟩ := List.mem_map.mp hpacket
      rfl
    · intro current hcurrent
      obtain rfl := Option.some.inj hcurrent
      exact hclient.trans (howner process hprocess)
  published current hcurrent := by
    obtain rfl := Option.some.inj hcurrent
    exact hpublished
  linked current hcurrent := by
    obtain rfl := Option.some.inj hcurrent
    exact hlinked
  standing current hcurrent hconnected hstopping connection hlink hwhole := by
    obtain rfl := Option.some.inj hcurrent
    have hlater : later.connection = some connection := hlink
    rw [Deployment.hand, WatchdogProcess.send, hlater] at hwhole ⊢
    dsimp only at hwhole ⊢
    rw [service_send] at hwhole ⊢
    rw [send_broken] at hwhole
    rw [send_self, Link.send_sent hwhole]
    exact hstanding hconnected hstopping _ fun hbefore hrunning =>
      hcandid.standing process hprocess hbefore hrunning connection
        (hconnection.symm.trans hlater) hwhole

theorem Candid.openConnection (hcandid : Candid config floats deployment)
    (hprocess : deployment.process = some process)
    (hfresh : process.connection = none) :
    Candid config floats (deployment.openConnection config process) where
  sole := by
    obtain ⟨client, hsole, howner⟩ := hcandid.sole
    have hclient := howner process hprocess
    refine ⟨client, hsole.openWith (List.forall_mem_singleton.mpr hclient)
      (by intro packet hpacket; cases hpacket), ?_⟩
    intro current hcurrent
    obtain rfl := Option.some.inj hcurrent
    exact hclient
  published current hcurrent hstopping := by
    obtain rfl := Option.some.inj hcurrent
    exact hcandid.published process hprocess hstopping
  linked current hcurrent hnone := by
    obtain rfl := Option.some.inj hcurrent
    cases hnone
  standing current hcurrent hconnected := by
    obtain rfl := Option.some.inj hcurrent
    have hbefore : process.connected = true := hconnected
    rw [hcandid.linked process hprocess hfresh] at hbefore
    cases hbefore

/-- A process that is over leaves the network to the next. -/
theorem Candid.gone {network : Network} {client : String}
    (hsole : Sole client network) : Candid config floats ⟨network, none⟩ where
  sole := ⟨client, hsole, fun current hcurrent => by cases hcurrent⟩
  published current hcurrent := by cases hcurrent
  linked current hcurrent := by cases hcurrent
  standing current hcurrent := by cases hcurrent

theorem Candid.onDisconnect (hcandid : Candid config floats deployment)
    (hprocess : deployment.process = some process) :
    Candid config floats
      { deployment with process := some process.onDisconnect } where
  sole := by
    obtain ⟨client, hsole, howner⟩ := hcandid.sole
    refine ⟨client, hsole, fun current hcurrent => ?_⟩
    obtain rfl := Option.some.inj hcurrent
    exact howner process hprocess
  published current hcurrent := by
    obtain rfl := Option.some.inj hcurrent
    exact hcandid.published process hprocess
  linked current hcurrent hnone := by
    obtain rfl := Option.some.inj hcurrent
    rfl
  standing current hcurrent hconnected := by
    obtain rfl := Option.some.inj hcurrent
    cases hconnected

theorem candid_started {network : Network} {client : String}
    (hsole : Sole client network) (hsessions : network.broker.sessions = [])
    (hpending : ∀ connection, (network.links connection).pending = [])
    (now : ℚ) : Candid config floats ⟨network, some (.started now)⟩ where
  sole := by
    refine ⟨clientId now, hsole.succeed hsessions hpending _, ?_⟩
    intro current hcurrent
    obtain rfl := Option.some.inj hcurrent
    rfl
  published current hcurrent hstopping message hmessage := by
    obtain rfl := Option.some.inj hcurrent
    cases hmessage
  linked current hcurrent hnone := by
    obtain rfl := Option.some.inj hcurrent
    rfl
  standing current hcurrent hconnected := by
    obtain rfl := Option.some.inj hcurrent
    cases hconnected

theorem Candid.connack (hcandid : Candid config floats deployment)
    (hprocess : deployment.process = some process)
    (haccepted : process.accepted deployment.network = true)
    (resent : List Message) :
    Candid config floats (deployment.hand { process with connected := true }
      (onConnectMessages config floats ++
        resent.filter (· ∈ process.published))) := by
  have hresent : process.stopping = false →
      ∀ message ∈ resent.filter (· ∈ process.published),
        Agrees config floats message := by
    intro hstopping message hmessage
    exact hcandid.published process hprocess hstopping message
      (by simpa using (List.mem_filter.mp hmessage).2)
  refine hcandid.hand hprocess ?_ ?_ ?_ ?_ ?_
  · rfl
  · rfl
  · intro hnone
    rw [WatchdogProcess.accepted, hnone] at haccepted
    cases haccepted
  · intro hstopping message hmessage
    rcases List.mem_append.mp hmessage with hold | hnew
    · exact hcandid.published process hprocess hstopping message hold
    · exact (List.mem_append.mp hnew).elim onConnectMessages_agrees
        (hresent hstopping message)
  · exact fun _ hstopping sent _ => standing_connack sent (hresent hstopping)

theorem Candid.report (hcandid : Candid config floats deployment)
    (hprocess : deployment.process = some process) (report : Report) :
    Candid config floats
      (deployment.hand process [report.message config]) := by
  refine hcandid.hand hprocess rfl rfl
    (hcandid.linked process hprocess) ?_ ?_
  · intro hstopping message hmessage
    rcases List.mem_append.mp hmessage with hold | hnew
    · exact hcandid.published process hprocess hstopping message hold
    · obtain rfl := List.mem_singleton.mp hnew
      exact report_agrees report
  · exact fun hconnected hstopping sent hstanding =>
      (hstanding hconnected hstopping).concat (report_agrees report)

theorem Candid.stopBegins (hcandid : Candid config floats deployment)
    (hprocess : deployment.process = some process) :
    Candid config floats (deployment.hand { process with stopping := true }
      (process.goodbye config)) := by
  refine hcandid.hand hprocess ?_ ?_ (hcandid.linked process hprocess) ?_ ?_
  · rfl
  · rfl
  · exact fun hstopping => by cases hstopping
  · exact fun _ hstopping => by cases hstopping

theorem Candid.act (hcandid : Candid config floats deployment)
    (hprocess : deployment.process = some process) (action : DeploymentAction) :
    Candid config floats (deployment.act config floats process action) := by
  obtain ⟨client, hsole, -⟩ := hcandid.sole
  cases action with
  | openConnection =>
      rw [Deployment.act]
      split
      · rename_i hfresh
        exact hcandid.openConnection hprocess hfresh
      · exact hcandid
  | connack resent =>
      rw [Deployment.act]
      split
      · rename_i haccepted
        exact hcandid.connack hprocess haccepted.2 resent
      · exact hcandid
  | disconnected => exact hcandid.onDisconnect hprocess
  | publish report =>
      rw [Deployment.act]
      split
      · exact hcandid
      · exact hcandid.report hprocess report
  | stopBegins =>
      rw [Deployment.act]
      split
      · exact hcandid
      · exact hcandid.stopBegins hprocess
  | stopEnds =>
      rw [Deployment.act]
      split
      · exact .gone (sole_send hsole process
          (List.forall_mem_singleton.mpr rfl))
      · exact hcandid
  | killed => exact .gone hsole
  | _ => exact hcandid

/-- What the network does by itself leaves the process as it is. -/
theorem Candid.network (hcandid : Candid config floats deployment)
    {network : Network}
    (hsole : ∀ client, Sole client deployment.network → Sole client network)
    (hlinks : ∀ connection, (network.links connection).broken = false →
      (deployment.network.links connection).broken = false ∧
        (network.links connection).sent =
          (deployment.network.links connection).sent) :
    Candid config floats { deployment with network := network } where
  sole := by
    obtain ⟨client, hbefore, howner⟩ := hcandid.sole
    exact ⟨client, hsole client hbefore, howner⟩
  published := hcandid.published
  linked := hcandid.linked
  standing process hprocess hconnected hstopping connection hlink hwhole := by
    obtain ⟨hbefore, hsent⟩ := hlinks connection hwhole
    dsimp only
    rw [hsent]
    exact hcandid.standing process hprocess hconnected hstopping connection
      hlink hbefore

theorem Candid.step (hcandid : Candid config floats deployment)
    (action : DeploymentAction) (horderly : Orderly deployment action) :
    Candid config floats (deployment.step config floats action) := by
  have hact : Candid config floats (deployment.proceed config floats action) := by
    rw [Deployment.proceed]
    cases hprocess : deployment.process with
    | none => exact hcandid
    | some process => exact hcandid.act hprocess action
  cases action with
  | start now =>
      rw [Deployment.step]
      cases hprocess : deployment.process with
      | none =>
          obtain ⟨client, hsole, -⟩ := hcandid.sole
          exact candid_started hsole horderly.1 horderly.2 now
      | some process => exact hcandid
  | deliver connection =>
      refine hcandid.network (fun client hsole => hsole.deliver connection) ?_
      intro link hwhole
      rw [service_deliver, deliver_broken] at hwhole
      exact ⟨hwhole, deliver_sent⟩
  | breakOff connection =>
      refine hcandid.network (fun client hsole => hsole.breakOff connection) ?_
      intro link hwhole
      have hlinks := breakOff_of_whole hwhole
      rw [service_breakOff] at hwhole ⊢
      rw [hlinks] at hwhole ⊢
      exact ⟨hwhole, rfl⟩
  | brokerRestart =>
      refine hcandid.network (fun client hsole => hsole.restart) ?_
      intro link hwhole
      cases hwhole
  | _ => exact hact

theorem Candid.close (hcandid : Candid config floats deployment)
    {closed : Nat → Bool} (hidle : Idle deployment.network closed) :
    Candid config floats
      { deployment with network := deployment.network.close closed } := by
  refine hcandid.network (fun client hsole => hsole.close hidle) ?_
  intro link hwhole
  have hlinks := close_of_whole hwhole
  rw [hlinks] at hwhole ⊢
  exact ⟨hwhole, rfl⟩

theorem candid_initial {network : Network}
    (hfresh : MqttService.Fresh network) :
    Candid config floats (.initial network) where
  sole := ⟨"", {
      known := fresh_known hfresh
      owner := fun session hsession =>
        absurd hsession (fresh_session hfresh session)
      single := by
        have hnone : network.broker.sessions = [] := hfresh.sessions
        rw [Deployment.initial, hnone]
        exact Nat.zero_le 1
      connects := fun connection packet hpacket => by
        rw [Deployment.initial, fresh_link hfresh] at hpacket
        cases hpacket
      opening := fun connection packet hpacket => by
        rw [Deployment.initial, fresh_link hfresh] at hpacket
        cases hpacket
      follows := fun session hsession =>
        absurd hsession (fresh_session hfresh session) },
    fun process hprocess => by cases hprocess⟩
  published process hprocess := by cases hprocess
  linked process hprocess := by cases hprocess
  standing process hprocess := by cases hprocess

end CandidSteps

section Said

open MqttService

variable {N : Type} [MqttService N] {start : N} {deployment : Deployment N}
  {actions : List DeploymentAction}

/-- A watchdog that starts first and alone starts in order. -/
theorem orderly_of_alone
    (hactions : ∀ action ∈ actions, action.starts = false) :
    (deploymentMachine config floats).Along Orderly deployment actions := by
  refine Mealy.along_of_mem fun action hmem reached => ?_
  have hstarts := hactions action hmem
  cases action with
  | start now => cases hstarts
  | _ => trivial

theorem orderly_seen {action : DeploymentAction}
    (horderly : Orderly deployment action) :
    Orderly deployment.seen action := by
  cases action <;> exact horderly

theorem candid_run (hmqtt : Documented N) (hfresh : Fresh start)
    (horderly : (deploymentMachine config floats).Along Orderly
      (.initial start) actions) :
    Candid config floats ((deploymentMachine config floats).run
      (.initial start) actions).1.seen :=
  Deployment.seen_invariant hmqtt _
    (fun _ _ hidle hcandid => hcandid.close hidle)
    (fun _ action hcandid hcondition =>
      hcandid.step action (orderly_seen hcondition))
    (candid_initial (fresh_view hfresh)) horderly

/-- A watchdog that connects, and all it sends is delivered. -/
def connected : List DeploymentAction :=
  [.start 0, .openConnection, .deliver 0, .connack []] ++
    List.replicate 9 (.deliver 0)

-- the will of the watchdog before hides the one that runs
example :
    let config := { TopicConfig.fromEmptyEnv with haDiscoveryEnabled := false }
    let network := ((deploymentMachine config Json.wholeFloats.toFloatRepr).run
      (.initial networkWithout) [.start 0, .openConnection, .deliver 0,
        .connack [], .deliver 0, .killed, .start 1, .openConnection, .deliver 1,
        .connack [], .deliver 1, .breakOff 0]).1.network
    network.broker.serves 1 = true ∧ (network.links 1).pending = [] ∧
      network.broker.retained config.availabilityTopic =
        some payloadOffline := by
  decide +kernel

end Said

end TeslamateWatchdog
