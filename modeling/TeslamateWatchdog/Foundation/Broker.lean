/-
An MQTT broker and the connections it serves.  It keeps the last retained
message of every topic, and publishes the will of a session that ends without a
goodbye.
-/
import Mathlib.Logic.Function.Basic
import TeslamateWatchdog.Foundation.Latest

namespace Foundation

namespace Mqtt

structure Message where
  topic : String
  payload : String
  retain : Bool
deriving Repr, DecidableEq

namespace Message

/-- What the broker keeps of a retained message; an empty one deletes what was
kept. -/
def kept (message : Message) : Option String :=
  if message.payload = "" then none else some message.payload

/-- What the topic is left with by the message. -/
def leaves (topic : String) (message : Message) : Option (Option String) :=
  if message.retain = true ∧ message.topic = topic then some message.kept
  else none

/-- The topic is one that can be published to. -/
def publishable (message : Message) : Bool :=
  message.topic != "" && decide (message.topic.utf8ByteSize < 65536) &&
    message.topic.toList.all fun c => c != '+' && c != '#' && c != '\x00'

end Message

/-- What a client sends. -/
inductive Packet where
  | connect (client : String) (will : Option Message)
  | publish (message : Message)
  | disconnect
deriving Repr, DecidableEq

namespace Packet

def leaves (topic : String) : Packet → Option (Option String)
  | .publish message => message.leaves topic
  | _ => none

def opens : Packet → Bool
  | .connect _ _ => true
  | _ => false

end Packet

/-- What the packets last said on the topic. -/
def spoken (topic : String) (packets : List Packet) : Option (Option String) :=
  latest (Packet.leaves topic) packets

/-- A connection: what the broker has of it, and what is still under way.  Once
it is broken nothing more gets through. -/
structure Link where
  arrived : List Packet
  pending : List Packet
  broken : Bool
deriving Repr, DecidableEq

namespace Link

def sent (link : Link) : List Packet :=
  link.arrived ++ link.pending

def send (link : Link) (packets : List Packet) : Link :=
  if link.broken then link
  else { link with pending := link.pending ++ packets }

/-- What has not arrived never will. -/
def breakOff (link : Link) : Link :=
  { link with pending := [], broken := true }

end Link

structure Session where
  connection : Nat
  client : String
  will : Option Message
deriving Repr, DecidableEq

/-- What the broker publishes for a session it gives up. -/
def Session.leaves (topic : String) (session : Session) :
    Option (Option String) :=
  session.will.bind (Message.leaves topic)

structure Broker where
  retained : String → Option String
  sessions : List Session

namespace Broker

/-- Sessions that end without a goodbye, and their wills. -/
def giveUp (broker : Broker) (lost : Session → Bool) : Broker where
  retained topic :=
    (latest (Session.leaves topic) (broker.sessions.filter lost)).getD
      (broker.retained topic)
  sessions := broker.sessions.filter fun session => !lost session

def serves (broker : Broker) (connection : Nat) : Bool :=
  broker.sessions.any fun session => session.connection == connection

/-- The packet violates the protocol: what is named in it is no topic or no
client, or it does not follow one CONNECT on its connection. -/
def violated (broker : Broker) (connection : Nat) : Packet → Bool
  | .connect client will => broker.serves connection || client == "" ||
      will.any fun message => !message.publishable
  | .publish message => !broker.serves connection || !message.publishable
  | .disconnect => false

/-- A client that connects takes the place of an earlier session of its own. -/
def accept (broker : Broker) (connection : Nat) : Packet → Broker
  | .connect client will =>
      let left := broker.giveUp fun session => session.client == client
      ⟨left.retained, left.sessions ++ [⟨connection, client, will⟩]⟩
  | .publish message =>
      { broker with
        retained := fun topic =>
          (message.leaves topic).getD (broker.retained topic) }
  | .disconnect =>
      { broker with
        sessions := broker.sessions.filter fun session =>
          session.connection != connection }

/-- One that violates the protocol is given up. -/
def receive (broker : Broker) (connection : Nat) (packet : Packet) : Broker :=
  if broker.violated connection packet then
    broker.giveUp fun session => session.connection == connection
  else broker.accept connection packet

end Broker

/-- The broker, and the connections opened to it so far. -/
structure Network where
  broker : Broker
  opened : Nat
  links : Nat → Link

namespace Network

variable (network : Network) (connection : Nat)

/-- A new connection, and the first packets on it. -/
def openWith (packets : List Packet) : Network where
  broker := network.broker
  opened := network.opened + 1
  links := Function.update network.links network.opened ⟨[], packets, false⟩

def send (packets : List Packet) : Network :=
  { network with
    links := Function.update network.links connection
      ((network.links connection).send packets) }

/-- The next packet of a connection reaches the broker. -/
def deliver : Network :=
  if connection < network.opened then
    match (network.links connection).pending with
    | packet :: rest =>
        { network with
          broker := network.broker.receive connection packet
          links := Function.update network.links connection
            { network.links connection with
              arrived := (network.links connection).arrived ++ [packet]
              pending := rest } }
    | [] => network
  else network

/-- The broker notices that a connection is gone. -/
def breakOff : Network :=
  { network with
    broker := network.broker.giveUp fun session =>
      session.connection == connection
    links := Function.update network.links connection
      (network.links connection).breakOff }

/-- Connections that the broker closes. -/
def close (closed : Nat → Bool) : Network :=
  { network with
    links := fun other =>
      if closed other then (network.links other).breakOff
      else network.links other }

/-- The broker starts afresh, with nothing retained. -/
def restart : Network :=
  { network with
    broker := ⟨fun _ => none, []⟩
    links := fun other => (network.links other).breakOff }

end Network

section Links

variable {network : Network} {connection other : Nat} {packets : List Packet}
  {link : Link}

@[simp]
theorem Link.send_arrived : (link.send packets).arrived = link.arrived := by
  rw [Link.send]
  split <;> rfl

@[simp]
theorem Link.send_broken : (link.send packets).broken = link.broken := by
  rw [Link.send]
  split <;> rfl

theorem Link.send_of_broken (hbroken : link.broken = true) :
    link.send packets = link := by
  rw [Link.send, if_pos hbroken]

theorem Link.send_sent (hwhole : link.broken = false) :
    (link.send packets).sent = link.sent ++ packets := by
  rw [Link.send, hwhole, if_neg Bool.false_ne_true, Link.sent, Link.sent,
    List.append_assoc]

theorem Link.mem_send_pending {packet : Packet}
    (hpacket : packet ∈ (link.send packets).pending) :
    packet ∈ link.pending ∨ packet ∈ packets := by
  rw [Link.send] at hpacket
  split at hpacket
  · exact .inl hpacket
  · exact List.mem_append.mp hpacket

@[simp]
theorem Link.breakOff_sent : link.breakOff.sent = link.arrived := by
  rw [Link.sent, Link.breakOff, List.append_nil]

@[simp]
theorem send_self : (network.send connection packets).links connection =
    (network.links connection).send packets := by
  simp [Network.send]

theorem send_of_ne (hother : other ≠ connection) :
    (network.send connection packets).links other = network.links other := by
  simp [Network.send, hother]

@[simp]
theorem send_arrived :
    ((network.send connection packets).links other).arrived =
      (network.links other).arrived := by
  by_cases hother : other = connection
  · subst hother
    rw [send_self, Link.send_arrived]
  · rw [send_of_ne hother]

@[simp]
theorem send_broken :
    ((network.send connection packets).links other).broken =
      (network.links other).broken := by
  by_cases hother : other = connection
  · subst hother
    rw [send_self, Link.send_broken]
  · rw [send_of_ne hother]

@[simp]
theorem openWith_self :
    (network.openWith packets).links network.opened = ⟨[], packets, false⟩ := by
  simp [Network.openWith]

theorem openWith_of_ne (hother : other ≠ network.opened) :
    (network.openWith packets).links other = network.links other := by
  simp [Network.openWith, hother]

@[simp]
theorem breakOff_self : (network.breakOff connection).links connection =
    (network.links connection).breakOff := by
  simp [Network.breakOff]

theorem breakOff_of_ne (hother : other ≠ connection) :
    (network.breakOff connection).links other = network.links other := by
  simp [Network.breakOff, hother]

theorem breakOff_of_whole
    (hwhole : ((network.breakOff connection).links other).broken = false) :
    (network.breakOff connection).links other = network.links other := by
  by_cases hother : other = connection
  · subst hother
    rw [breakOff_self] at hwhole
    cases hwhole
  · exact breakOff_of_ne hother

@[simp]
theorem breakOff_arrived :
    ((network.breakOff connection).links other).arrived =
      (network.links other).arrived := by
  by_cases hother : other = connection
  · subst hother
    rw [breakOff_self]
    rfl
  · rw [breakOff_of_ne hother]

theorem close_of_open {closed : Nat → Bool} (hopen : closed other = false) :
    (network.close closed).links other = network.links other := by
  simp [Network.close, hopen]

theorem close_of_closed {closed : Nat → Bool} (hclosed : closed other = true) :
    (network.close closed).links other = (network.links other).breakOff := by
  simp [Network.close, hclosed]

theorem close_of_whole {closed : Nat → Bool}
    (hwhole : ((network.close closed).links other).broken = false) :
    (network.close closed).links other = network.links other := by
  cases hclosed : closed other with
  | true =>
      rw [close_of_closed hclosed] at hwhole
      cases hwhole
  | false => exact close_of_open hclosed

theorem close_none (network : Network) :
    network.close (fun _ => false) = network := rfl

/-- A delivery does nothing, or takes one packet off a connection that is open. -/
theorem deliver_cases (network : Network) (connection : Nat) :
    network.deliver connection = network ∨
      ∃ packet rest, connection < network.opened ∧
        (network.links connection).pending = packet :: rest ∧
        (network.deliver connection).broker =
          network.broker.receive connection packet ∧
        (∀ other, other ≠ connection →
          (network.deliver connection).links other = network.links other) ∧
        (network.deliver connection).links connection =
          { network.links connection with
            arrived := (network.links connection).arrived ++ [packet]
            pending := rest } := by
  rw [Network.deliver]
  by_cases hopened : connection < network.opened
  · rw [if_pos hopened]
    cases hpending : (network.links connection).pending with
    | nil => exact .inl rfl
    | cons packet rest =>
        refine .inr ⟨packet, rest, hopened, rfl, rfl, ?_, ?_⟩
        · exact fun other hother => Function.update_of_ne hother _ _
        · exact Function.update_self _ _ _
  · rw [if_neg hopened]
    exact .inl rfl

@[simp]
theorem deliver_opened :
    (network.deliver connection).opened = network.opened := by
  rw [Network.deliver]
  split
  · split <;> rfl
  · rfl

/-- Delivery loses no packet. -/
@[simp]
theorem deliver_sent :
    ((network.deliver connection).links other).sent =
      (network.links other).sent := by
  rcases deliver_cases network connection with hsame |
    ⟨packet, rest, -, hpending, -, hothers, hself⟩
  · rw [hsame]
  · by_cases hother : other = connection
    · subst hother
      rw [hself, Link.sent, Link.sent, hpending, List.append_assoc]
      rfl
    · rw [hothers other hother]

@[simp]
theorem deliver_broken :
    ((network.deliver connection).links other).broken =
      (network.links other).broken := by
  rcases deliver_cases network connection with hsame |
    ⟨packet, rest, -, -, -, hothers, hself⟩
  · rw [hsame]
  · by_cases hother : other = connection
    · subst hother
      rw [hself]
    · rw [hothers other hother]

theorem mem_deliver_pending {packet : Packet}
    (hpacket : packet ∈ ((network.deliver connection).links other).pending) :
    packet ∈ (network.links other).pending := by
  rcases deliver_cases network connection with hsame |
    ⟨first, rest, -, hpending, -, hothers, hself⟩
  · rwa [hsame] at hpacket
  · by_cases hother : other = connection
    · subst hother
      rw [hself] at hpacket
      exact hpending ▸ List.mem_cons_of_mem first hpacket
    · rwa [hothers other hother] at hpacket

theorem serves_iff {broker : Broker} : broker.serves connection = true ↔
    ∃ session ∈ broker.sessions, session.connection = connection := by
  simp [Broker.serves]

/-- Giving up nobody changes nothing. -/
theorem giveUp_of_none {broker : Broker} {lost : Session → Bool}
    (hnone : ∀ session ∈ broker.sessions, lost session = false) :
    broker.giveUp lost = broker := by
  have hlost : broker.sessions.filter lost = [] :=
    List.filter_eq_nil_iff.mpr fun session hsession => by
      rw [hnone session hsession]
      exact Bool.false_ne_true
  have hleft : (broker.sessions.filter fun session => !lost session) =
      broker.sessions :=
    List.filter_eq_self.mpr fun session hsession => by
      rw [hnone session hsession]
      rfl
  rw [Broker.giveUp, hlost, hleft]
  rfl

/-- A session is known from before, or is the one that just connected. -/
theorem mem_receive {broker : Broker} {packet : Packet} {session : Session}
    (hsession : session ∈ (broker.receive connection packet).sessions) :
    session ∈ broker.sessions ∨
      ∃ client will, packet = .connect client will ∧
        session = ⟨connection, client, will⟩ := by
  rw [Broker.receive] at hsession
  split at hsession
  · exact .inl (List.mem_filter.mp hsession).1
  cases packet with
  | connect client will =>
      rcases List.mem_append.mp hsession with hold | hnew
      · exact .inl (List.mem_filter.mp hold).1
      · exact .inr ⟨client, will, rfl, List.mem_singleton.mp hnew⟩
  | publish message => exact .inl hsession
  | disconnect => exact .inl (List.mem_filter.mp hsession).1

/-- Without a violation, what is published is published on a session. -/
theorem serves_of_publish {broker : Broker} {message : Message}
    (hlawful : ¬broker.violated connection (.publish message) = true) :
    broker.serves connection = true := by
  cases hserves : broker.serves connection with
  | true => rfl
  | false => simp [Broker.violated, hserves] at hlawful

end Links

end Mqtt

end Foundation
