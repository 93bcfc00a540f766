/-
An MQTT broker and the connections to it as a parameter: what can be asked of
them, what can happen, and what MQTT says of each.  From outside all of them
look like a `Network`.
-/
import TeslamateWatchdog.Foundation.BrokerRules

namespace Foundation

namespace Mqtt

/-- A broker with the connections opened to it so far. -/
class MqttService (N : Type) where
  retained : N → String → Option String
  sessions : N → List Session
  opened : N → Nat
  links : N → Nat → Link
  /-- A new connection, and the first packets on it. -/
  openWith : N → List Packet → N
  send : N → Nat → List Packet → N
  /-- The next packet of a connection reaches the broker. -/
  deliver : N → Nat → N
  /-- The broker notices that a connection is gone. -/
  breakOff : N → Nat → N
  /-- The broker starts afresh. -/
  restart : N → N

/-- The network itself is a service. -/
instance : MqttService Network where
  retained network := network.broker.retained
  sessions network := network.broker.sessions
  opened := Network.opened
  links := Network.links
  openWith := Network.openWith
  send := Network.send
  deliver := Network.deliver
  breakOff := Network.breakOff
  restart := Network.restart

namespace MqttService

variable {N : Type} [MqttService N]

/-- A session of the connection stands. -/
def Serves (network : N) (connection : Nat) : Prop :=
  ∃ session ∈ sessions network, session.connection = connection

instance (network : N) (connection : Nat) :
    Decidable (Serves network connection) :=
  inferInstanceAs (Decidable (∃ session ∈ sessions network,
    session.connection = connection))

/-- Nothing was ever connected, whatever is retained. -/
structure Fresh (network : N) : Prop where
  sessions : sessions network = []
  opened : opened network = 0
  links : ∀ connection, links network connection = ⟨[], [], false⟩

/-- What is retained once the wills of the sessions are published. -/
def afterWills (lost : List Session) (retained : String → Option String)
    (topic : String) : Option String :=
  (latest (Session.leaves topic) lost).getD (retained topic)

/-- The packet is the next one to arrive on the connection. -/
def NextOn (network : N) (connection : Nat) (packet : Packet)
    (rest : List Packet) : Prop :=
  connection < opened network ∧
    (links network connection).pending = packet :: rest

/-- The links once the packet has arrived. -/
def passed (network : N) (connection : Nat) (packet : Packet)
    (rest : List Packet) : Nat → Link :=
  Function.update (links network) connection { links network connection with
    arrived := (links network connection).arrived ++ [packet]
    pending := rest }

/-- The packet violates the protocol. -/
def Violates (network : N) (connection : Nat) : Packet → Prop
  | .connect client will => Serves network connection ∨ client = "" ∨
      ∃ message ∈ will, message.publishable = false
  | .publish message =>
      ¬Serves network connection ∨ message.publishable = false
  | .disconnect => False

/-- What MQTT says of the operations, to a broker that admits clients by name,
keeps what is retained in memory and has no other clients. -/
structure Documented (N : Type) [MqttService N] : Prop where
  /-- The broker learns of packets when they arrive, not when they are sent. -/
  unheard_openWith : ∀ (network : N) packets,
    retained (openWith network packets) = retained network ∧
      sessions (openWith network packets) = sessions network
  unheard_send : ∀ (network : N) connection packets,
    retained (send network connection packets) = retained network ∧
      sessions (send network connection packets) = sessions network
  /-- Packets arrive in the order in which they were sent. -/
  opened_openWith : ∀ (network : N) packets,
    opened (openWith network packets) = opened network + 1
  links_openWith : ∀ (network : N) packets,
    links (openWith network packets) =
      Function.update (links network) (opened network) ⟨[], packets, false⟩
  opened_send : ∀ (network : N) connection packets,
    opened (send network connection packets) = opened network
  links_send : ∀ (network : N) connection packets,
    links (send network connection packets) = Function.update (links network)
      connection ((links network connection).send packets)
  opened_deliver : ∀ (network : N) connection,
    opened (deliver network connection) = opened network
  /-- A connection that is left without a session may be closed as well. -/
  links_deliver : ∀ (network : N) connection packet rest,
    NextOn network connection packet rest → ∀ other,
      links (deliver network connection) other =
          passed network connection packet rest other ∨
        ¬Serves (deliver network connection) other ∧
          links (deliver network connection) other =
            (passed network connection packet rest other).breakOff
  nothing_next : ∀ (network : N) connection,
    (∀ packet rest, ¬NextOn network connection packet rest) →
      retained (deliver network connection) = retained network ∧
        sessions (deliver network connection) = sessions network ∧
        links (deliver network connection) = links network
  /-- CONNECT opens a session with its will.  An earlier session of the client
  ends, and the will of that is published. -/
  connect : ∀ (network : N) connection client will rest,
    NextOn network connection (.connect client will) rest →
      ¬Violates network connection (.connect client will) →
      retained (deliver network connection) =
        afterWills ((sessions network).filter (·.client == client))
          (retained network) ∧
      sessions (deliver network connection) =
        (sessions network).filter (!·.client == client) ++
          [⟨connection, client, will⟩]
  /-- PUBLISH with RETAIN replaces what the topic retains, and with an empty
  payload deletes it. -/
  publish : ∀ (network : N) connection message rest,
    NextOn network connection (.publish message) rest →
      ¬Violates network connection (.publish message) →
      (∀ topic, retained (deliver network connection) topic =
        (message.leaves topic).getD (retained network topic)) ∧
      sessions (deliver network connection) = sessions network
  /-- A session ends with a packet that violates the protocol, and the will is
  published. -/
  violation : ∀ (network : N) connection packet rest,
    NextOn network connection packet rest →
      Violates network connection packet →
      retained (deliver network connection) =
        afterWills ((sessions network).filter (·.connection == connection))
          (retained network) ∧
      sessions (deliver network connection) =
        (sessions network).filter (!·.connection == connection)
  /-- DISCONNECT ends the session, and the will is not published. -/
  disconnect : ∀ (network : N) connection rest,
    NextOn network connection .disconnect rest →
      retained (deliver network connection) = retained network ∧
      sessions (deliver network connection) =
        (sessions network).filter (·.connection != connection)
  /-- The will of a session whose connection is lost is published. -/
  lost : ∀ (network : N) connection,
    retained (breakOff network connection) =
        afterWills ((sessions network).filter (·.connection == connection))
          (retained network) ∧
      sessions (breakOff network connection) =
        (sessions network).filter (!·.connection == connection) ∧
      opened (breakOff network connection) = opened network ∧
      links (breakOff network connection) = Function.update (links network)
        connection (links network connection).breakOff
  /-- What was retained is not kept across a restart, and neither are the
  connections. -/
  restarted : ∀ network : N,
    retained (restart network) = (fun _ => none) ∧
      sessions (restart network) = [] ∧
      opened (restart network) = opened network ∧
      links (restart network) = fun connection =>
        (links network connection).breakOff

/-- What can be seen of a service. -/
def view (network : N) : Network :=
  ⟨⟨retained network, sessions network⟩, opened network, links network⟩

theorem view_serves {network : N} {connection : Nat} :
    (view network).broker.serves connection = true ↔
      Serves network connection :=
  serves_iff

theorem view_violated {network : N} {connection : Nat} {packet : Packet} :
    (view network).broker.violated connection packet = true ↔
      Violates network connection packet := by
  cases packet with
  | connect client will =>
      rw [Broker.violated, Bool.or_eq_true, Bool.or_eq_true, view_serves,
        beq_iff_eq, or_assoc, Violates]
      cases will <;> simp
  | publish message =>
      rw [Broker.violated, Bool.or_eq_true, Bool.not_eq_true',
        ← Bool.not_eq_true, view_serves, Bool.not_eq_true', Violates]
  | disconnect => exact iff_of_false Bool.false_ne_true id

/-- The network looks like this, but for connections that were closed. -/
def Closes (seen : Network) (network : N) : Prop :=
  ∃ closed, Idle seen closed ∧ view network = seen.close closed

theorem closes_of_eq {seen : Network} {network : N}
    (hsame : view network = seen) : Closes seen network :=
  ⟨fun _ => false, fun _ hclosed => absurd hclosed Bool.false_ne_true,
    hsame.trans (close_none seen).symm⟩

theorem deliver_of_next {network : Network} {connection : Nat} {packet : Packet}
    {rest : List Packet} (hnext : NextOn network connection packet rest) :
    network.deliver connection = { network with
      broker := network.broker.receive connection packet
      links := passed network connection packet rest } := by
  have hopened : connection < network.opened := hnext.1
  have hpending : (network.links connection).pending = packet :: rest := hnext.2
  rw [Network.deliver, if_pos hopened, hpending]
  rfl

namespace Documented

variable (hmqtt : Documented N) (network : N) (connection : Nat)

include hmqtt

theorem view_openWith (packets : List Packet) :
    view (openWith network packets) = (view network).openWith packets := by
  rw [view, (hmqtt.unheard_openWith network packets).1,
    (hmqtt.unheard_openWith network packets).2, hmqtt.opened_openWith,
    hmqtt.links_openWith]
  rfl

theorem view_send (packets : List Packet) :
    view (send network connection packets) =
      (view network).send connection packets := by
  rw [view, (hmqtt.unheard_send network connection packets).1,
    (hmqtt.unheard_send network connection packets).2, hmqtt.opened_send,
    hmqtt.links_send]
  rfl

theorem broker_deliver {packet : Packet} {rest : List Packet}
    (hnext : NextOn network connection packet rest) :
    (⟨retained (deliver network connection),
        sessions (deliver network connection)⟩ : Broker) =
      (view network).broker.receive connection packet := by
  rw [Broker.receive]
  by_cases hviolated : Violates network connection packet
  · obtain ⟨hretained, hsessions⟩ :=
      hmqtt.violation network connection packet rest hnext hviolated
    rw [if_pos (view_violated.mpr hviolated), hretained, hsessions]
    rfl
  rw [if_neg (mt view_violated.mp hviolated)]
  cases packet with
  | connect client will =>
      obtain ⟨hretained, hsessions⟩ :=
        hmqtt.connect network connection client will rest hnext hviolated
      rw [hretained, hsessions]
      rfl
  | publish message =>
      obtain ⟨hretained, hsessions⟩ :=
        hmqtt.publish network connection message rest hnext hviolated
      rw [hsessions, funext hretained]
      rfl
  | disconnect =>
      obtain ⟨hretained, hsessions⟩ :=
        hmqtt.disconnect network connection rest hnext
      rw [hretained, hsessions]
      rfl

theorem view_deliver :
    Closes ((view network).deliver connection) (deliver network connection) := by
  classical
  by_cases hnext : ∃ packet rest, NextOn network connection packet rest
  · obtain ⟨packet, rest, hnext⟩ := hnext
    have hbroker := hmqtt.broker_deliver network connection hnext
    have hdelivered : (view network).deliver connection =
        ⟨(view network).broker.receive connection packet, opened network,
          passed network connection packet rest⟩ :=
      deliver_of_next hnext
    refine ⟨fun other => decide (links (deliver network connection) other ≠
      passed network connection packet rest other), ?_, ?_⟩
    · intro other hclosed
      rw [hdelivered, ← hbroker]
      rcases hmqtt.links_deliver network connection packet rest hnext other with
        hsame | ⟨hunserved, -⟩
      · exact absurd hsame (of_decide_eq_true hclosed)
      · exact eq_false_of_ne_true (mt view_serves.mp hunserved)
    · rw [hdelivered, ← hbroker, view, hmqtt.opened_deliver, Network.close,
        Network.mk.injEq]
      refine ⟨rfl, rfl, funext fun other => ?_⟩
      rcases hmqtt.links_deliver network connection packet rest hnext other with
        hsame | ⟨-, hbroken⟩
      · rw [if_neg (by simp [hsame]), hsame]
      · by_cases hsame : links (deliver network connection) other =
            passed network connection packet rest other
        · rw [if_neg (by simp [hsame]), hsame]
        · rw [if_pos (decide_eq_true hsame), hbroken]
  · have hidle : (view network).deliver connection = view network := by
      rcases deliver_cases (view network) connection with hsame |
        ⟨packet, rest, hopened, hpending, -⟩
      · exact hsame
      · exact absurd ⟨packet, rest, hopened, hpending⟩ hnext
    obtain ⟨hretained, hsessions, hlinks⟩ :=
      hmqtt.nothing_next network connection fun packet rest hmore =>
        hnext ⟨packet, rest, hmore⟩
    apply closes_of_eq
    rw [hidle, view, hretained, hsessions, hlinks, hmqtt.opened_deliver]
    rfl

theorem view_breakOff :
    view (breakOff network connection) =
      (view network).breakOff connection := by
  obtain ⟨hretained, hsessions, hopened, hlinks⟩ :=
    hmqtt.lost network connection
  rw [view, hretained, hsessions, hopened, hlinks]
  rfl

theorem view_restart : view (restart network) = (view network).restart := by
  obtain ⟨hretained, hsessions, hopened, hlinks⟩ := hmqtt.restarted network
  rw [view, hretained, hsessions, hopened, hlinks]
  rfl

end Documented

end MqttService

section Service

variable (network : Network) (connection : Nat) (packets : List Packet)

theorem service_openWith :
    MqttService.openWith network packets = network.openWith packets := rfl

theorem service_opened : MqttService.opened network = network.opened := rfl

theorem service_send : MqttService.send network connection packets =
    network.send connection packets := rfl

theorem service_deliver :
    MqttService.deliver network connection = network.deliver connection := rfl

theorem service_breakOff :
    MqttService.breakOff network connection =
      network.breakOff connection := rfl

end Service

section Fresh

variable {network : Network} (hfresh : MqttService.Fresh network)

include hfresh

theorem fresh_session (session : Session) :
    session ∉ network.broker.sessions := by
  have hnone : network.broker.sessions = [] := hfresh.sessions
  rw [hnone]
  exact List.not_mem_nil

theorem fresh_link (connection : Nat) :
    network.links connection = ⟨[], [], false⟩ :=
  hfresh.links connection

theorem fresh_known : Known network where
  opened session hsession := absurd hsession (fresh_session hfresh session)
  whole session hsession := absurd hsession (fresh_session hfresh session)
  dead connection hbroken := by
    rw [fresh_link hfresh] at hbroken
    cases hbroken

end Fresh

theorem broker_of_lawful {network : Network} {connection : Nat}
    {packet : Packet} {rest : List Packet}
    (hnext : MqttService.NextOn network connection packet rest)
    (hlawful : ¬MqttService.Violates network connection packet) :
    (network.deliver connection).broker =
      network.broker.accept connection packet := by
  have hviolated : ¬network.broker.violated connection packet = true :=
    fun hviolated => hlawful (MqttService.view_violated.mp hviolated)
  rw [MqttService.deliver_of_next hnext, Broker.receive, if_neg hviolated]

theorem documented_network : MqttService.Documented Network where
  unheard_openWith _ _ := ⟨rfl, rfl⟩
  unheard_send _ _ _ := ⟨rfl, rfl⟩
  opened_openWith _ _ := rfl
  links_openWith _ _ := rfl
  opened_send _ _ _ := rfl
  links_send _ _ _ := rfl
  opened_deliver _ _ := deliver_opened
  links_deliver network connection packet rest hnext other :=
    .inl (congrFun (congrArg Network.links
      (MqttService.deliver_of_next hnext)) other)
  nothing_next network connection hnothing := by
    have hidle : network.deliver connection = network := by
      rcases deliver_cases network connection with hsame |
        ⟨packet, rest, hopened, hpending, -⟩
      · exact hsame
      · exact absurd ⟨hopened, hpending⟩ (hnothing packet rest)
    change (network.deliver connection).broker.retained = _ ∧
      (network.deliver connection).broker.sessions = _ ∧
      (network.deliver connection).links = _
    rw [hidle]
    exact ⟨rfl, rfl, rfl⟩
  connect network connection client will rest hnext hlawful := by
    have hbroker := broker_of_lawful hnext hlawful
    have hretained := congrArg Broker.retained hbroker
    have hsessions := congrArg Broker.sessions hbroker
    exact ⟨hretained, hsessions⟩
  publish network connection message rest hnext hlawful := by
    have hbroker := broker_of_lawful hnext hlawful
    have hretained := congrFun (congrArg Broker.retained hbroker)
    have hsessions := congrArg Broker.sessions hbroker
    exact ⟨hretained, hsessions⟩
  violation network connection packet rest hnext hviolates := by
    have hbroker := congrArg Network.broker (MqttService.deliver_of_next hnext)
    have hviolated : network.broker.violated connection packet = true :=
      MqttService.view_violated.mpr hviolates
    rw [Broker.receive, if_pos hviolated] at hbroker
    have hretained := congrArg Broker.retained hbroker
    have hsessions := congrArg Broker.sessions hbroker
    exact ⟨hretained, hsessions⟩
  disconnect network connection rest hnext := by
    have hbroker := broker_of_lawful hnext id
    have hretained := congrArg Broker.retained hbroker
    have hsessions := congrArg Broker.sessions hbroker
    exact ⟨hretained, hsessions⟩
  lost _ _ := ⟨rfl, rfl, rfl, rfl⟩
  restarted _ := ⟨rfl, rfl, rfl, rfl⟩

end Mqtt

end Foundation
