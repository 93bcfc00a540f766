/-
What holds of a broker across deliveries in any order: that a topic on which
clients report themselves has somebody to answer for it, that the retained
messages follow a client without rivals, and that messages with a payload are
never lost.
-/
import TeslamateWatchdog.Foundation.Broker

namespace Foundation

namespace Mqtt

/-- Sessions are of connections that were opened and are not broken, and nothing
is under way on those that are. -/
structure Known (network : Network) : Prop where
  opened : ∀ session ∈ network.broker.sessions,
    session.connection < network.opened
  whole : ∀ session ∈ network.broker.sessions,
    (network.links session.connection).broken = false
  dead : ∀ connection, (network.links connection).broken = true →
    (network.links connection).pending = []

/-- All packets under way are of a kind. -/
def Carries (kind : Packet → Prop) (network : Network) : Prop :=
  ∀ connection, ∀ packet ∈ (network.links connection).pending, kind packet

section Carried

variable {network : Network} {kind : Packet → Prop} {packets : List Packet}

theorem Known.ne_opened (hknown : Known network) {session : Session}
    (hsession : session ∈ network.broker.sessions) :
    session.connection ≠ network.opened :=
  Nat.ne_of_lt (hknown.opened session hsession)

theorem Known.openWith (hknown : Known network) (packets : List Packet) :
    Known (network.openWith packets) where
  opened session hsession := Nat.lt_succ_of_lt (hknown.opened session hsession)
  whole session hsession := by
    rw [openWith_of_ne (hknown.ne_opened hsession)]
    exact hknown.whole session hsession
  dead other hbroken := by
    by_cases hother : other = network.opened
    · subst hother
      rw [openWith_self] at hbroken
      cases hbroken
    · rw [openWith_of_ne hother] at hbroken ⊢
      exact hknown.dead other hbroken

theorem Known.send (hknown : Known network) (connection : Nat)
    (packets : List Packet) : Known (network.send connection packets) where
  opened := hknown.opened
  whole session hsession := by
    rw [send_broken]
    exact hknown.whole session hsession
  dead other hbroken := by
    rw [send_broken] at hbroken
    by_cases hother : other = connection
    · subst hother
      rw [send_self, Link.send_of_broken hbroken]
      exact hknown.dead other hbroken
    · rw [send_of_ne hother]
      exact hknown.dead other hbroken

theorem Known.deliver (hknown : Known network) (connection : Nat) :
    Known (network.deliver connection) where
  opened session hsession := by
    rw [deliver_opened]
    rcases deliver_cases network connection with hsame |
      ⟨packet, rest, hopened, -, hbroker, -, -⟩
    · rw [hsame] at hsession
      exact hknown.opened session hsession
    · rw [hbroker] at hsession
      rcases mem_receive hsession with hold | ⟨client, will, -, rfl⟩
      · exact hknown.opened session hold
      · exact hopened
  whole session hsession := by
    rw [deliver_broken]
    rcases deliver_cases network connection with hsame |
      ⟨packet, rest, -, hpending, hbroker, -, -⟩
    · rw [hsame] at hsession
      exact hknown.whole session hsession
    · rw [hbroker] at hsession
      rcases mem_receive hsession with hold | ⟨client, will, -, rfl⟩
      · exact hknown.whole session hold
      · by_contra hbroken
        rw [hknown.dead connection (eq_true_of_ne_false hbroken)] at hpending
        cases hpending
  dead other hbroken := by
    rw [deliver_broken] at hbroken
    apply List.eq_nil_iff_forall_not_mem.mpr
    intro packet hpacket
    have hpending := mem_deliver_pending hpacket
    rw [hknown.dead other hbroken] at hpending
    cases hpending

theorem Known.breakOff (hknown : Known network) (connection : Nat) :
    Known (network.breakOff connection) where
  opened session hsession :=
    hknown.opened session (List.mem_filter.mp hsession).1
  whole session hsession := by
    obtain ⟨hold, hkept⟩ := List.mem_filter.mp hsession
    rw [breakOff_of_ne (by simpa using hkept)]
    exact hknown.whole session hold
  dead other hbroken := by
    by_cases hother : other = connection
    · subst hother
      rw [breakOff_self]
      rfl
    · rw [breakOff_of_ne hother] at hbroken ⊢
      exact hknown.dead other hbroken

/-- Only connections are closed that have no session. -/
def Idle (network : Network) (closed : Nat → Bool) : Prop :=
  ∀ connection, closed connection = true →
    network.broker.serves connection = false

theorem Idle.kept {closed : Nat → Bool} (hidle : Idle network closed)
    {session : Session} (hsession : session ∈ network.broker.sessions) :
    closed session.connection = false := by
  by_contra hclosed
  have hserves := hidle session.connection (eq_true_of_ne_false hclosed)
  rw [serves_iff.mpr ⟨session, hsession, rfl⟩] at hserves
  cases hserves

theorem Known.close (hknown : Known network) {closed : Nat → Bool}
    (hidle : Idle network closed) : Known (network.close closed) where
  opened := hknown.opened
  whole session hsession := by
    rw [close_of_open (hidle.kept hsession)]
    exact hknown.whole session hsession
  dead other hbroken := by
    cases hclosed : closed other with
    | true =>
        rw [close_of_closed hclosed]
        rfl
    | false =>
        rw [close_of_open hclosed] at hbroken ⊢
        exact hknown.dead other hbroken

theorem known_restart : Known network.restart where
  opened session hsession := by cases hsession
  whole session hsession := by cases hsession
  dead other hbroken := rfl

theorem Carries.head (hcarries : Carries kind network) {connection : Nat}
    {packet : Packet} {rest : List Packet}
    (hpending : (network.links connection).pending = packet :: rest) :
    kind packet :=
  hcarries connection packet (hpending ▸ List.mem_cons_self)

theorem Carries.openWith (hcarries : Carries kind network)
    (hpackets : ∀ packet ∈ packets, kind packet) :
    Carries kind (network.openWith packets) := by
  intro other packet hpacket
  by_cases hother : other = network.opened
  · subst hother
    rw [openWith_self] at hpacket
    exact hpackets packet hpacket
  · rw [openWith_of_ne hother] at hpacket
    exact hcarries other packet hpacket

theorem Carries.send (hcarries : Carries kind network)
    (hpackets : ∀ packet ∈ packets, kind packet) (connection : Nat) :
    Carries kind (network.send connection packets) := by
  intro other packet hpacket
  by_cases hother : other = connection
  · subst hother
    rw [send_self] at hpacket
    exact (Link.mem_send_pending hpacket).elim (hcarries other packet)
      (hpackets packet)
  · rw [send_of_ne hother] at hpacket
    exact hcarries other packet hpacket

theorem Carries.deliver (hcarries : Carries kind network) (connection : Nat) :
    Carries kind (network.deliver connection) :=
  fun other packet hpacket =>
    hcarries other packet (mem_deliver_pending hpacket)

theorem Carries.breakOff (hcarries : Carries kind network) (connection : Nat) :
    Carries kind (network.breakOff connection) := by
  intro other packet hpacket
  by_cases hother : other = connection
  · subst hother
    rw [breakOff_self] at hpacket
    cases hpacket
  · rw [breakOff_of_ne hother] at hpacket
    exact hcarries other packet hpacket

theorem Carries.close (hcarries : Carries kind network)
    (closed : Nat → Bool) : Carries kind (network.close closed) := by
  intro other packet hpacket
  cases hclosed : closed other with
  | true =>
      rw [close_of_closed hclosed] at hpacket
      cases hpacket
  | false =>
      rw [close_of_open hclosed] at hpacket
      exact hcarries other packet hpacket

theorem carries_restart : Carries kind network.restart := by
  intro other packet hpacket
  cases hpacket

end Carried

section Spoken

variable {topic : String} {packets : List Packet} {packet : Packet}
  {network : Network} {connection other : Nat}

/-- What was said last is still said last after a packet about something else. -/
theorem spoken_concat_of_none (hpacket : packet.leaves topic = none) :
    spoken topic (packets ++ [packet]) = spoken topic packets :=
  latest_concat_of_none hpacket packets

theorem spoken_concat_of_some {left : Option String}
    (hpacket : packet.leaves topic = some left) :
    spoken topic (packets ++ [packet]) = some left :=
  latest_concat_of_some hpacket packets

/-- A connection that brings nothing about the topic has said about it what it
had said before. -/
theorem spoken_deliver {rest : List Packet}
    (hpending : (network.links connection).pending = packet :: rest)
    (hpacket : other = connection → packet.leaves topic = none) :
    spoken topic ((network.deliver connection).links other).arrived =
      spoken topic (network.links other).arrived := by
  rcases deliver_cases network connection with hsame |
    ⟨first, others, -, hfirst, -, hothers, hself⟩
  · rw [hsame]
  · by_cases hother : other = connection
    · subst hother
      rw [hpending] at hfirst
      obtain ⟨rfl, rfl⟩ := List.cons.inj hfirst
      rw [hself]
      exact spoken_concat_of_none (hpacket rfl)
    · rw [hothers other hother]

end Spoken

section Attended

variable {topic online : String}

/-- The will takes the topic off `online`. -/
def Recants (topic online : String) (will : Option Message) : Prop :=
  ∃ left, will.bind (Message.leaves topic) = some left ∧ left ≠ some online

/-- So does the will of a client that connects. -/
def Packet.Recants (topic online : String) : Packet → Prop
  | .connect _ will => Mqtt.Recants topic online will
  | _ => True

/-- A client that says goodbye has not left the topic `online`. -/
def Courteous (topic online : String) (packets : List Packet) : Prop :=
  ∀ front back, packets = front ++ .disconnect :: back →
    spoken topic front ≠ some (some online)

/-- A topic that is `online` was left so by a session that is still open, and
every session recants when it is given up. -/
structure Attended (topic online : String) (network : Network) : Prop where
  known : Known network
  wills : ∀ session ∈ network.broker.sessions,
    Recants topic online session.will
  connects : Carries (Packet.Recants topic online) network
  courteous : ∀ connection,
    Courteous topic online (network.links connection).sent
  held : network.broker.retained topic = some online →
    ∃ session ∈ network.broker.sessions,
      spoken topic (network.links session.connection).arrived =
        some (some online)

theorem Courteous.left {front back : List Packet}
    (hcourteous : Courteous topic online (front ++ back)) :
    Courteous topic online front := by
  rintro before after rfl
  exact hcourteous before (after ++ back) (by simp)

theorem courteous_of_staying {packets : List Packet}
    (hstaying : .disconnect ∉ packets) : Courteous topic online packets := by
  rintro front back rfl
  exact absurd (List.mem_append_right front List.mem_cons_self) hstaying

/-- A goodbye at the end is one after everything else was said. -/
theorem courteous_goodbye {packets : List Packet}
    (hstaying : .disconnect ∉ packets)
    (hspoken : spoken topic packets ≠ some (some online)) :
    Courteous topic online (packets ++ [.disconnect]) := by
  intro front back hsplit
  rcases List.eq_nil_or_concat back with rfl | ⟨middle, last, rfl⟩
  · obtain ⟨rfl, -⟩ := List.append_inj' hsplit rfl
    exact hspoken
  · have hlonger : packets ++ [Packet.disconnect] =
        (front ++ .disconnect :: middle) ++ [last] := by
      rw [hsplit]
      simp
    obtain ⟨rfl, -⟩ := List.append_inj' hlonger rfl
    exact absurd (List.mem_append_right front List.mem_cons_self) hstaying

/-- Nothing was given up if the topic is still `online`. -/
theorem giveUp_of_online {broker : Broker} {lost : Session → Bool}
    (hwills : ∀ session ∈ broker.sessions, Recants topic online session.will)
    (honline : (broker.giveUp lost).retained topic = some online) :
    broker.giveUp lost = broker := by
  apply giveUp_of_none
  intro session hsession
  by_contra hlost
  have hmem : session ∈ broker.sessions.filter lost :=
    List.mem_filter.mpr ⟨hsession, eq_true_of_ne_false hlost⟩
  cases hlatest : latest (Session.leaves topic)
      (broker.sessions.filter lost) with
  | none =>
      obtain ⟨left, hleft, -⟩ := hwills session hsession
      have hsilent := latest_eq_none_iff.mp hlatest session hmem
      rw [Session.leaves, hleft] at hsilent
      cases hsilent
  | some left =>
      obtain ⟨front, last, rest, hsplit, hlast, -⟩ :=
        latest_eq_some_iff.mp hlatest
      have hin : last ∈ broker.sessions.filter lost := by
        rw [hsplit]
        exact List.mem_append_right front List.mem_cons_self
      obtain ⟨other, hother, hne⟩ := hwills last (List.mem_filter.mp hin).1
      rw [Session.leaves, hother] at hlast
      rw [Broker.giveUp] at honline
      dsimp only at honline
      rw [hlatest, Option.getD_some] at honline
      exact hne ((Option.some.inj hlast).trans honline)

variable {network : Network}

theorem Attended.openWith (hattended : Attended topic online network)
    {packets : List Packet}
    (hconnects : ∀ packet ∈ packets, packet.Recants topic online)
    (hstaying : .disconnect ∉ packets) :
    Attended topic online (network.openWith packets) where
  known := hattended.known.openWith packets
  wills := hattended.wills
  connects := hattended.connects.openWith hconnects
  courteous other := by
    by_cases hother : other = network.opened
    · subst hother
      rw [openWith_self]
      exact courteous_of_staying hstaying
    · rw [openWith_of_ne hother]
      exact hattended.courteous other
  held honline := by
    obtain ⟨session, hsession, hspoken⟩ := hattended.held honline
    refine ⟨session, hsession, ?_⟩
    rwa [openWith_of_ne (hattended.known.ne_opened hsession)]

theorem Attended.send (hattended : Attended topic online network)
    {connection : Nat} {packets : List Packet}
    (hconnects : ∀ packet ∈ packets, packet.Recants topic online)
    (hcourteous : Courteous topic online
      ((network.links connection).send packets).sent) :
    Attended topic online (network.send connection packets) where
  known := hattended.known.send connection packets
  wills := hattended.wills
  connects := hattended.connects.send hconnects connection
  courteous other := by
    by_cases hother : other = connection
    · subst hother
      rwa [send_self]
    · rw [send_of_ne hother]
      exact hattended.courteous other
  held honline := by
    obtain ⟨session, hsession, hspoken⟩ := hattended.held honline
    exact ⟨session, hsession, by rwa [send_arrived]⟩

/-- The packet that arrives leaves the topic to a session that answers for it. -/
theorem Attended.held_receive (hattended : Attended topic online network)
    {connection : Nat} {packet : Packet} {rest : List Packet}
    (hpending : (network.links connection).pending = packet :: rest)
    (harrived : ((network.deliver connection).links connection).arrived =
      (network.links connection).arrived ++ [packet])
    (honline : (network.broker.receive connection packet).retained topic =
      some online) :
    ∃ session ∈ (network.broker.receive connection packet).sessions,
      spoken topic
          ((network.deliver connection).links session.connection).arrived =
        some (some online) := by
  rw [Broker.receive] at honline ⊢
  by_cases hviolated : network.broker.violated connection packet = true
  · -- the will of a session would have taken the topic off `online`
    rw [if_pos hviolated] at honline ⊢
    have hsame := giveUp_of_online hattended.wills honline
    rw [hsame] at honline ⊢
    obtain ⟨session, hsession, hspoken⟩ := hattended.held honline
    refine ⟨session, hsession, ?_⟩
    by_cases hother : session.connection = connection
    · have hlost : session ∉ (network.broker.giveUp fun session =>
          session.connection == connection).sessions := by
        simp [Broker.giveUp, hother]
      rw [hsame] at hlost
      exact absurd hsession hlost
    · rwa [spoken_deliver hpending fun heq => absurd heq hother]
  rw [if_neg hviolated] at honline ⊢
  cases packet with
  | connect client will =>
      have hsame := giveUp_of_online hattended.wills honline
      dsimp only [Broker.accept] at honline ⊢
      rw [hsame] at honline ⊢
      obtain ⟨session, hsession, hspoken⟩ := hattended.held honline
      refine ⟨session, List.mem_append_left _ hsession, ?_⟩
      rwa [spoken_deliver hpending fun _ => rfl]
  | publish message =>
      dsimp only [Broker.accept] at honline ⊢
      cases hleaves : message.leaves topic with
      | none =>
          rw [hleaves, Option.getD_none] at honline
          obtain ⟨session, hsession, hspoken⟩ := hattended.held honline
          refine ⟨session, hsession, ?_⟩
          rwa [spoken_deliver hpending fun _ => hleaves]
      | some left =>
          rw [hleaves, Option.getD_some] at honline
          obtain ⟨session, hsession, rfl⟩ :=
            serves_iff.mp (serves_of_publish hviolated)
          have hpacket : (Packet.publish message).leaves topic = some left :=
            hleaves
          refine ⟨session, hsession, ?_⟩
          rw [harrived, spoken_concat_of_some hpacket, honline]
  | disconnect =>
      obtain ⟨session, hsession, hspoken⟩ := hattended.held honline
      have hother : session.connection ≠ connection := by
        rintro rfl
        have hsent := hattended.courteous session.connection
        rw [Link.sent, hpending] at hsent
        exact hsent _ rest rfl hspoken
      refine ⟨session,
        List.mem_filter.mpr ⟨hsession, by simpa using hother⟩, ?_⟩
      rwa [spoken_deliver hpending fun _ => rfl]

theorem Attended.deliver (hattended : Attended topic online network)
    (connection : Nat) :
    Attended topic online (network.deliver connection) where
  known := hattended.known.deliver connection
  connects := hattended.connects.deliver connection
  courteous other := by
    rw [deliver_sent]
    exact hattended.courteous other
  wills session hsession := by
    rcases deliver_cases network connection with hsame |
      ⟨packet, rest, -, hpending, hbroker, -, -⟩
    · rw [hsame] at hsession
      exact hattended.wills session hsession
    · rw [hbroker] at hsession
      rcases mem_receive hsession with hold | ⟨client, will, rfl, rfl⟩
      · exact hattended.wills session hold
      · exact hattended.connects.head hpending
  held honline := by
    rcases deliver_cases network connection with hsame |
      ⟨packet, rest, -, hpending, hbroker, -, hself⟩
    · rw [hsame] at honline ⊢
      exact hattended.held honline
    · rw [hbroker] at honline ⊢
      exact hattended.held_receive hpending (by rw [hself]) honline

theorem Attended.breakOff (hattended : Attended topic online network)
    (connection : Nat) :
    Attended topic online (network.breakOff connection) where
  known := hattended.known.breakOff connection
  wills session hsession :=
    hattended.wills session (List.mem_filter.mp hsession).1
  connects := hattended.connects.breakOff connection
  courteous other := by
    by_cases hother : other = connection
    · subst hother
      rw [breakOff_self, Link.breakOff_sent]
      exact (hattended.courteous other).left
    · rw [breakOff_of_ne hother]
      exact hattended.courteous other
  held honline := by
    have hsame : (network.breakOff connection).broker = network.broker :=
      giveUp_of_online hattended.wills honline
    rw [hsame] at honline ⊢
    obtain ⟨session, hsession, hspoken⟩ := hattended.held honline
    exact ⟨session, hsession, by rwa [breakOff_arrived]⟩

theorem Attended.close (hattended : Attended topic online network)
    {closed : Nat → Bool} (hidle : Idle network closed) :
    Attended topic online (network.close closed) where
  known := hattended.known.close hidle
  wills := hattended.wills
  connects := hattended.connects.close closed
  courteous other := by
    cases hclosed : closed other with
    | true =>
        rw [close_of_closed hclosed, Link.breakOff_sent]
        exact (hattended.courteous other).left
    | false =>
        rw [close_of_open hclosed]
        exact hattended.courteous other
  held honline := by
    obtain ⟨session, hsession, hspoken⟩ := hattended.held honline
    refine ⟨session, hsession, ?_⟩
    rwa [close_of_open (hidle.kept hsession)]

theorem Attended.restart (hattended : Attended topic online network) :
    Attended topic online network.restart where
  known := known_restart
  wills session hsession := by cases hsession
  connects := carries_restart
  courteous connection := by
    have hsent : (network.restart.links connection).sent =
        (network.links connection).arrived := Link.breakOff_sent
    rw [hsent]
    exact (hattended.courteous connection).left
  held honline := by cases honline

end Attended

section Sole

/-- Only this client connects. -/
def Packet.IsOf (client : String) : Packet → Prop
  | .connect other _ => other = client
  | _ => True

/-- A connection is opened by its first packet, and by no other. -/
def OpensFirst (packets : List Packet) : Prop :=
  ∀ packet ∈ packets.tail, packet.opens = false

/-- All sessions, and all that are still to be opened, are of one client, and
what is retained follows the session that is open. -/
structure Sole (client : String) (network : Network) : Prop where
  known : Known network
  owner : ∀ session ∈ network.broker.sessions, session.client = client
  single : network.broker.sessions.length ≤ 1
  connects : Carries (Packet.IsOf client) network
  opening : ∀ connection, OpensFirst (network.links connection).sent
  follows : ∀ session ∈ network.broker.sessions, ∀ topic left,
    spoken topic (network.links session.connection).arrived = some left →
    network.broker.retained topic = left

theorem OpensFirst.left {front back : List Packet}
    (hopens : OpensFirst (front ++ back)) : OpensFirst front := by
  intro packet hpacket
  cases front with
  | nil => cases hpacket
  | cons first rest =>
      exact hopens packet (List.mem_append_left back hpacket)

/-- Packets that open nothing can follow. -/
theorem OpensFirst.send {link : Link} {packets : List Packet}
    (hopens : OpensFirst link.sent)
    (hpackets : ∀ packet ∈ packets, packet.opens = false) :
    OpensFirst (link.send packets).sent := by
  cases hbroken : link.broken with
  | true => rwa [Link.send_of_broken hbroken]
  | false =>
      rw [Link.send_sent hbroken]
      intro packet hpacket
      cases hsent : link.sent with
      | nil =>
          rw [hsent, List.nil_append] at hpacket
          exact hpackets packet (List.mem_of_mem_tail hpacket)
      | cons first rest =>
          rw [hsent, List.cons_append, List.tail_cons] at hpacket
          refine (List.mem_append.mp hpacket).elim (fun hold => ?_)
            (hpackets packet)
          exact hopens packet (by rwa [hsent])

variable {client : String} {network : Network}

theorem Sole.eq_of_mem (hsole : Sole client network) {session other : Session}
    (hsession : session ∈ network.broker.sessions)
    (hother : other ∈ network.broker.sessions) : session = other := by
  obtain ⟨only, honly⟩ := List.length_eq_one_iff.mp
    (Nat.le_antisymm hsole.single (List.length_pos_of_mem hsession))
  rw [honly, List.mem_singleton] at hsession hother
  rw [hsession, hother]

theorem Sole.openWith (hsole : Sole client network) {packets : List Packet}
    (hconnects : ∀ packet ∈ packets, packet.IsOf client)
    (hopening : OpensFirst packets) :
    Sole client (network.openWith packets) where
  known := hsole.known.openWith packets
  owner := hsole.owner
  single := hsole.single
  connects := hsole.connects.openWith hconnects
  opening other := by
    by_cases hother : other = network.opened
    · subst hother
      rw [openWith_self]
      exact hopening
    · rw [openWith_of_ne hother]
      exact hsole.opening other
  follows session hsession topic left hspoken := by
    rw [openWith_of_ne (hsole.known.ne_opened hsession)] at hspoken
    exact hsole.follows session hsession topic left hspoken

theorem Sole.send (hsole : Sole client network) {connection : Nat}
    {packets : List Packet}
    (hconnects : ∀ packet ∈ packets, packet.IsOf client)
    (hopening : OpensFirst ((network.links connection).send packets).sent) :
    Sole client (network.send connection packets) where
  known := hsole.known.send connection packets
  owner := hsole.owner
  single := hsole.single
  connects := hsole.connects.send hconnects connection
  opening other := by
    by_cases hother : other = connection
    · subst hother
      rwa [send_self]
    · rw [send_of_ne hother]
      exact hsole.opening other
  follows session hsession topic left hspoken := by
    rw [send_arrived] at hspoken
    exact hsole.follows session hsession topic left hspoken

/-- Giving up the session leaves none; giving up another changes nothing. -/
theorem Sole.giveUp (hsole : Sole client network) (lost : Session → Bool) :
    network.broker.giveUp lost = network.broker ∨
      (network.broker.giveUp lost).sessions = [] := by
  by_cases hany : ∃ session ∈ network.broker.sessions, lost session = true
  · right
    obtain ⟨session, hsession, hlost⟩ := hany
    apply List.filter_eq_nil_iff.mpr
    intro other hother
    rw [hsole.eq_of_mem hother hsession, hlost]
    exact Bool.false_ne_true
  · left
    apply giveUp_of_none
    intro session hsession
    by_contra hlost
    exact hany ⟨session, hsession, eq_true_of_ne_false hlost⟩

/-- The newcomer takes the place of whatever session there was. -/
theorem Sole.sessions_connect (hsole : Sole client network) (connection : Nat)
    (will : Option Message) :
    (network.broker.accept connection (.connect client will)).sessions =
      [⟨connection, client, will⟩] := by
  have hnone : (network.broker.sessions.filter fun session =>
      !(session.client == client)) = [] :=
    List.filter_eq_nil_iff.mpr fun session hsession => by
      simp [hsole.owner session hsession]
  dsimp only [Broker.accept, Broker.giveUp]
  rw [hnone, List.nil_append]

/-- What a session says is retained as it arrives. -/
theorem Sole.follows_accept (hsole : Sole client network) {connection : Nat}
    {packet : Packet} {rest : List Packet}
    (hlawful : ¬network.broker.violated connection packet = true)
    (hpending : (network.links connection).pending = packet :: rest)
    (harrived : ((network.deliver connection).links connection).arrived =
      (network.links connection).arrived ++ [packet]) :
    ∀ session ∈ (network.broker.accept connection packet).sessions,
      ∀ topic left, spoken topic ((network.deliver connection).links
          session.connection).arrived = some left →
        (network.broker.accept connection packet).retained topic = left := by
  intro session hsession topic left hspoken
  cases packet with
  | connect other will =>
      -- nothing came before it on its connection, and no session is left
      have hother : other = client := hsole.connects.head hpending
      have hfirst : (network.links connection).arrived = [] := by
        cases hbefore : (network.links connection).arrived with
        | nil => rfl
        | cons first others =>
            have hopens := hsole.opening connection (.connect other will) (by
              rw [Link.sent, hbefore, hpending]
              exact List.mem_append_right others List.mem_cons_self)
            cases hopens
      rw [hother, hsole.sessions_connect, List.mem_singleton] at hsession
      subst hsession
      dsimp only at hspoken
      rw [harrived, hfirst] at hspoken
      cases hspoken
  | publish message =>
      dsimp only [Broker.accept] at hsession ⊢
      obtain ⟨other, hother, rfl⟩ := serves_iff.mp (serves_of_publish hlawful)
      obtain rfl := hsole.eq_of_mem hsession hother
      rw [harrived] at hspoken
      cases hleaves : message.leaves topic with
      | none =>
          have hpacket : (Packet.publish message).leaves topic = none := hleaves
          rw [spoken_concat_of_none hpacket] at hspoken
          exact hsole.follows session hsession topic left hspoken
      | some kept =>
          have hpacket : (Packet.publish message).leaves topic = some kept :=
            hleaves
          rw [spoken_concat_of_some hpacket] at hspoken
          exact Option.some.inj hspoken
  | disconnect =>
      obtain ⟨hmem, -⟩ := List.mem_filter.mp hsession
      rw [spoken_deliver hpending fun _ => rfl] at hspoken
      exact hsole.follows session hmem topic left hspoken

/-- So it is after a violation, which leaves the session alone or ends it. -/
theorem Sole.follows_receive (hsole : Sole client network) {connection : Nat}
    {packet : Packet} {rest : List Packet}
    (hpending : (network.links connection).pending = packet :: rest)
    (harrived : ((network.deliver connection).links connection).arrived =
      (network.links connection).arrived ++ [packet]) :
    ∀ session ∈ (network.broker.receive connection packet).sessions,
      ∀ topic left, spoken topic ((network.deliver connection).links
          session.connection).arrived = some left →
        (network.broker.receive connection packet).retained topic = left := by
  rw [Broker.receive]
  by_cases hviolated : network.broker.violated connection packet = true
  · rw [if_pos hviolated]
    intro session hsession topic left hspoken
    obtain ⟨hmem, hkept⟩ := List.mem_filter.mp hsession
    have hother : session.connection ≠ connection := by simpa using hkept
    rw [spoken_deliver hpending fun heq => absurd heq hother] at hspoken
    rcases hsole.giveUp fun session => session.connection == connection
      with hsame | hnone
    · rw [hsame]
      exact hsole.follows session hmem topic left hspoken
    · rw [hnone] at hsession
      cases hsession
  · rw [if_neg hviolated]
    exact hsole.follows_accept hviolated hpending harrived

theorem Sole.deliver (hsole : Sole client network) (connection : Nat) :
    Sole client (network.deliver connection) := by
  rcases deliver_cases network connection with hsame |
    ⟨packet, rest, -, hpending, hbroker, -, hself⟩
  · rw [hsame]
    exact hsole
  refine ⟨hsole.known.deliver connection, ?_, ?_,
    hsole.connects.deliver connection, ?_, ?_⟩
  · intro session hsession
    rw [hbroker] at hsession
    rcases mem_receive hsession with hold | ⟨other, will, rfl, rfl⟩
    · exact hsole.owner session hold
    · exact hsole.connects.head hpending
  · rw [hbroker, Broker.receive]
    split
    · exact Nat.le_trans (List.length_filter_le _ _) hsole.single
    cases packet with
    | connect other will =>
        have hother : other = client := hsole.connects.head hpending
        rw [hother, hsole.sessions_connect]
        exact Nat.le_refl 1
    | publish message => exact hsole.single
    | disconnect =>
        exact Nat.le_trans (List.length_filter_le _ _) hsole.single
  · intro other
    rw [deliver_sent]
    exact hsole.opening other
  · rw [hbroker]
    exact hsole.follows_receive hpending (by rw [hself])

theorem Sole.breakOff (hsole : Sole client network) (connection : Nat) :
    Sole client (network.breakOff connection) where
  known := hsole.known.breakOff connection
  owner session hsession :=
    hsole.owner session (List.mem_filter.mp hsession).1
  single := Nat.le_trans (List.length_filter_le _ _) hsole.single
  connects := hsole.connects.breakOff connection
  opening other := by
    by_cases hother : other = connection
    · subst hother
      rw [breakOff_self, Link.breakOff_sent]
      exact (hsole.opening other).left
    · rw [breakOff_of_ne hother]
      exact hsole.opening other
  follows session hsession topic left hspoken := by
    rw [breakOff_arrived] at hspoken
    rcases hsole.giveUp fun session => session.connection == connection
      with hsame | hnone
    · have hbroker : (network.breakOff connection).broker = network.broker :=
        hsame
      rw [hbroker] at hsession ⊢
      exact hsole.follows session hsession topic left hspoken
    · have hsessions : (network.breakOff connection).broker.sessions = [] :=
        hnone
      rw [hsessions] at hsession
      cases hsession

theorem Sole.close (hsole : Sole client network) {closed : Nat → Bool}
    (hidle : Idle network closed) : Sole client (network.close closed) where
  known := hsole.known.close hidle
  owner := hsole.owner
  single := hsole.single
  connects := hsole.connects.close closed
  opening other := by
    cases hclosed : closed other with
    | true =>
        rw [close_of_closed hclosed, Link.breakOff_sent]
        exact (hsole.opening other).left
    | false =>
        rw [close_of_open hclosed]
        exact hsole.opening other
  follows session hsession topic left hspoken := by
    rw [close_of_open (hidle.kept hsession)] at hspoken
    exact hsole.follows session hsession topic left hspoken

theorem Sole.restart (hsole : Sole client network) :
    Sole client network.restart where
  known := known_restart
  owner session hsession := by cases hsession
  single := Nat.zero_le 1
  connects := carries_restart
  opening connection := by
    have hsent : (network.restart.links connection).sent =
        (network.links connection).arrived := Link.breakOff_sent
    rw [hsent]
    exact (hsole.opening connection).left
  follows session hsession := by cases hsession

/-- A client can take the place of another that has nothing left at the broker
and nothing under way. -/
theorem Sole.succeed (hsole : Sole client network)
    (hsessions : network.broker.sessions = [])
    (hpending : ∀ connection, (network.links connection).pending = [])
    (other : String) : Sole other network where
  known := hsole.known
  owner session hsession := by
    rw [hsessions] at hsession
    cases hsession
  single := hsole.single
  connects connection packet hpacket := by
    rw [hpending] at hpacket
    cases hpacket
  opening := hsole.opening
  follows := hsole.follows

end Sole

section Lasting

/-- A retained message that does not delete. -/
def Message.Lasting (message : Message) : Prop :=
  message.retain = true → message.payload ≠ ""

def Packet.Lasting : Packet → Prop
  | .connect _ will => ∀ message ∈ will, message.Lasting
  | .publish message => message.Lasting
  | .disconnect => True

/-- No message deletes what is retained. -/
structure Lasting (network : Network) : Prop where
  wills : ∀ session ∈ network.broker.sessions, ∀ message ∈ session.will,
    message.Lasting
  packets : Carries Packet.Lasting network

variable {network : Network} {topic : String}

theorem Message.Lasting.leaves_ne {message : Message}
    (hlasting : message.Lasting) (topic : String) :
    message.leaves topic ≠ some none := by
  rw [Message.leaves]
  split
  · rename_i hretain
    rw [Message.kept, if_neg (hlasting hretain.1)]
    simp
  · simp

theorem Lasting.openWith (hlasting : Lasting network) {packets : List Packet}
    (hpackets : ∀ packet ∈ packets, packet.Lasting) :
    Lasting (network.openWith packets) where
  wills := hlasting.wills
  packets := hlasting.packets.openWith hpackets

theorem Lasting.send (hlasting : Lasting network) {packets : List Packet}
    (hpackets : ∀ packet ∈ packets, packet.Lasting) (connection : Nat) :
    Lasting (network.send connection packets) where
  wills := hlasting.wills
  packets := hlasting.packets.send hpackets connection

theorem Lasting.deliver (hlasting : Lasting network) (connection : Nat) :
    Lasting (network.deliver connection) where
  packets := hlasting.packets.deliver connection
  wills session hsession := by
    rcases deliver_cases network connection with hsame |
      ⟨packet, rest, -, hpending, hbroker, -, -⟩
    · rw [hsame] at hsession
      exact hlasting.wills session hsession
    · rw [hbroker] at hsession
      rcases mem_receive hsession with hold | ⟨client, will, rfl, rfl⟩
      · exact hlasting.wills session hold
      · exact hlasting.packets.head hpending

theorem Lasting.breakOff (hlasting : Lasting network) (connection : Nat) :
    Lasting (network.breakOff connection) where
  wills session hsession :=
    hlasting.wills session (List.mem_filter.mp hsession).1
  packets := hlasting.packets.breakOff connection

theorem Lasting.close (hlasting : Lasting network) (closed : Nat → Bool) :
    Lasting (network.close closed) where
  wills := hlasting.wills
  packets := hlasting.packets.close closed

theorem lasting_restart : Lasting network.restart where
  wills session hsession := by cases hsession
  packets := carries_restart

theorem Lasting.retained_giveUp (hlasting : Lasting network)
    (lost : Session → Bool) (hretained : network.broker.retained topic ≠ none) :
    (network.broker.giveUp lost).retained topic ≠ none := by
  rw [Broker.giveUp]
  dsimp only
  cases hlatest : latest (Session.leaves topic)
      (network.broker.sessions.filter lost) with
  | none => exact hretained
  | some left =>
      obtain ⟨front, last, rest, hsplit, hlast, -⟩ :=
        latest_eq_some_iff.mp hlatest
      have hin : last ∈ network.broker.sessions.filter lost := by
        rw [hsplit]
        exact List.mem_append_right front List.mem_cons_self
      obtain ⟨will, hwill, hleft⟩ := Option.bind_eq_some_iff.mp hlast
      have hne := (hlasting.wills last (List.mem_filter.mp hin).1 will
        hwill).leaves_ne topic
      rw [hleft] at hne
      exact fun heq => hne (congrArg some heq)

theorem Lasting.retained_deliver (hlasting : Lasting network)
    (connection : Nat) (hretained : network.broker.retained topic ≠ none) :
    (network.deliver connection).broker.retained topic ≠ none := by
  rcases deliver_cases network connection with hsame |
    ⟨packet, rest, -, hpending, hbroker, -, -⟩
  · rwa [hsame]
  rw [hbroker, Broker.receive]
  split
  · exact hlasting.retained_giveUp _ hretained
  cases packet with
  | connect client will => exact hlasting.retained_giveUp _ hretained
  | publish message =>
      have hpacket : message.Lasting := hlasting.packets.head hpending
      have hne := hpacket.leaves_ne topic
      dsimp only [Broker.accept]
      cases hleaves : message.leaves topic with
      | none => exact hretained
      | some left =>
          rw [hleaves] at hne
          exact fun heq => hne (congrArg some heq)
  | disconnect => exact hretained

end Lasting

end Mqtt

end Foundation
