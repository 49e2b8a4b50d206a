import Dsvpn.Tunnel

namespace Dsvpn

open ProtocolHeader
open IpPacket

/-!
# Where the packets of the client's TUN device come from

Both directions use one key, and the client looks at nothing in a packet it
has decrypted.  So a frame that authenticates at the client may be a frame of
the client itself.  As long as none of these is delivered back, everything
the client writes to its TUN device was handed to `SendTo` by the server.
-/

variable {Endpoint : Type}

/--
The event lets `Receive` return the packet of `sent`: it resumes after a
successful read, over UDP from the server's endpoint, with the sealed payload
of `sent` in the buffer, over UDP behind its sealed header.
-/
def ClientTransport.decodes
    [DecidableEq Endpoint]
    (aead : Aead 16)
    (self : ClientTransport Endpoint)
    (event : ClientEvent Endpoint)
    (sent : Sent) : Bool :=
  let key := self.connection.protocol.key
  let buffer := self.connection.members.conn_recv_buffer
  match self, event with
  | .udp receiver, .udp .resume =>
      receiver.pc == .arrived none &&
        decide
          (receiver.connection.last_recv_ep =
              receiver.connection.remote_send_ep ∧
            HoldsSealedHeader aead key buffer sent ∧
            HoldsSealedPayload aead key buffer sent)
  | .tcp receiver, .tcp .resume =>
      match receiver.pc with
      | .readPayload op =>
          op.outcome == some none &&
            decide (HoldsSealedPayload aead key buffer sent)
      | _ => false
  | _, _ => false

/-- A frame that the client sent is about to be decoded by the client. -/
def Tunnel.reflects
    [DecidableEq Endpoint]
    (cipher : Aead 16)
    (self : Tunnel Endpoint)
    (event : TunnelEvent Endpoint) : Bool :=
  match event with
  | .clientReceive index event =>
      self.sends.any fun sent =>
        sent.request.path == .send &&
          (self.client index).decodes (cipher.restrict self.calls)
            event sent
  | _ => false

section

variable
    {aead : Aead 16}
    {key : List UInt8}
    {sends : List Sent}

/-- Over UDP, a step returns at most one value, and only when it resumes. -/
theorem UdpReceiver.step_returned
    [DecidableEq Endpoint]
    (honest : HonestSends aead key sends)
    {self next : UdpReceiver Endpoint}
    {event : UdpReceiveEvent Endpoint}
    (sameKey : self.connection.protocol.key = key)
    (performed : step aead self event = some next) :
    next.connection.protocol.key = key ∧
      (next.returned = self.returned ∨
        ∃ value error packet,
          next.returned = self.returned ++ [⟨value, error, packet⟩] ∧
            (value ≠ 0 →
              value ≠ -1 →
              event = .resume ∧
                self.pc = .arrived error ∧
                self.connection.last_recv_ep =
                  self.connection.remote_send_ep ∧
                ∃ sent ∈ sends,
                  HoldsSealedHeader aead key
                      self.connection.conn_recv_buffer sent ∧
                    HoldsSealedPayload aead key
                      self.connection.conn_recv_buffer sent ∧
                    packet = sent.request.packet)) := by
  unfold step at performed
  split at performed
  · cases performed
  · split at performed
    · obtain rfl := Option.some.inj performed
      exact ⟨sameKey, Or.inl rfl⟩
    · obtain rfl := Option.some.inj performed
      unfold arrive
      split
      · exact ⟨sameKey, Or.inl rfl⟩
      · rename_i received arrived
        refine ⟨?_, Or.inl rfl⟩
        rw [UDPConnection.asyncReceiveFrom_key arrived]
        exact sameKey
    · obtain rfl := Option.some.inj performed
      exact ⟨sameKey, Or.inl rfl⟩
    · rename_i error atResume
      obtain rfl := Option.some.inj performed
      unfold resume
      split
      · exact ⟨sameKey, Or.inl rfl⟩
      · rename_i connection value resumed
        unfold UDPConnection.resumeReceive at resumed
        split at resumed
        · -- a datagram from another endpoint
          obtain ⟨rfl, rfl⟩ := Prod.mk.inj (Option.some.inj resumed)
          exact ⟨sameKey, Or.inr ⟨-1, error, _, rfl,
            fun _ refused => (refused rfl).elim⟩⟩
        · rename_i fromServer
          simp only [Option.bind_eq_bind, Option.bind_eq_some_iff,
            Prod.exists, Option.some.injEq, Prod.mk.injEq] at resumed
          obtain ⟨result, _, decoded, rfl, rfl⟩ := resumed
          obtain ⟨resultKey, accepts⟩ :=
            IConnection.decryptFrame_accepts honest sameKey decoded
          refine ⟨resultKey, Or.inr ⟨_, error, _, rfl, ?_⟩⟩
          intro positive _
          obtain ⟨sent, member, _, header, payload, _, packet⟩ :=
            accepts positive
          exact ⟨rfl, atResume, not_not.mp fromServer,
            sent, member, header, payload, packet⟩
    · cases performed

theorem TcpReceiver.arrive_returned
    {self next : TcpReceiver}
    {pc : ReadOp → ReceivePc}
    {op : ReadOp}
    {piece : List UInt8}
    (arrived : self.arrive pc op piece = some next) :
    next.returned = self.returned := by
  unfold arrive at arrived
  split at arrived
  · split at arrived
    · obtain rfl := Option.some.inj arrived
      rfl
    · obtain rfl := Option.some.inj arrived
      rfl
  · cases arrived

/-- From the header read, `Receive` returns nothing but zero. -/
theorem TcpReceiver.resumeHeader_returned
    (aead : Aead 16)
    (self : TcpReceiver)
    (bytes_read : Nat)
    (error : Option ErrorCode) :
    (self.resumeHeader aead bytes_read error).returned =
        self.returned ∨
      ∃ packet,
        (self.resumeHeader aead bytes_read error).returned =
          self.returned ++ [⟨0, error, packet⟩] := by
  unfold resumeHeader
  split
  · exact Or.inr ⟨_, rfl⟩
  · split
    · exact Or.inr ⟨_, rfl⟩
    · simp only
      split
      · exact Or.inr ⟨_, rfl⟩
      · exact Or.inl rfl

/--
From the payload read, `Receive` returns zero, or the packet of the frame
whose sealed payload is in the buffer.
-/
theorem TcpReceiver.resumePayload_returned
    (honest : HonestSends aead key sends)
    {self : TcpReceiver}
    (authentic : self.Authentic key sends)
    {op : ReadOp}
    (atPayload : self.pc = .readPayload op)
    (bytes_read : Nat)
    (error : Option ErrorCode) :
    (self.resumePayload aead bytes_read error).returned =
        self.returned ∨
      ∃ value packet,
        (self.resumePayload aead bytes_read error).returned =
            self.returned ++ [⟨value, error, packet⟩] ∧
          (value ≠ 0 →
            ∃ sent ∈ sends,
              HoldsSealedPayload aead key
                  self.connection.conn_recv_buffer sent ∧
                packet = sent.request.packet) := by
  unfold resumePayload
  split
  · exact Or.inr ⟨0, _, rfl, fun positive => (positive rfl).elim⟩
  · split
    · exact Or.inl rfl
    · rename_i protocol header accepted opened
      refine Or.inr ⟨_, _, rfl, ?_⟩
      intro positive
      cases accepted with
      | false =>
          simp at positive
      | true =>
          obtain ⟨_, sent, member, _, holds⟩ :=
            authentic.opened op atPayload
          obtain ⟨sealed, length, packet⟩ :=
            honest.decryptPayload authentic.sameKey member holds opened
          refine ⟨sent, member, sealed, ?_⟩
          simpa [length] using packet

/-- Over TCP, a value other than zero is returned by the payload read only. -/
theorem TcpReceiver.step_returned
    (honest : HonestSends aead key sends)
    {self next : TcpReceiver}
    {event : ReceiveEvent}
    (authentic : self.Authentic key sends)
    (performed : step aead self event = some next) :
    next.returned = self.returned ∨
      ∃ value error packet,
        next.returned = self.returned ++ [⟨value, error, packet⟩] ∧
          (value ≠ 0 →
            event = .resume ∧
              ∃ op,
                self.pc = .readPayload op ∧
                  op.outcome = some error ∧
                  ∃ sent ∈ sends,
                    HoldsSealedPayload aead key
                        self.connection.conn_recv_buffer sent ∧
                      packet = sent.request.packet) := by
  unfold step at performed
  split at performed
  · cases performed
  · split at performed
    · obtain rfl := Option.some.inj performed
      unfold Receive
      split <;> exact Or.inl rfl
    · exact Or.inl (arrive_returned performed)
    · exact Or.inl (arrive_returned performed)
    · obtain rfl := Option.some.inj performed
      exact Or.inl rfl
    · obtain rfl := Option.some.inj performed
      exact Or.inl rfl
    · rename_i op atHeader
      obtain ⟨error, _, rfl⟩ := Option.map_eq_some_iff.mp performed
      rcases self.resumeHeader_returned aead op.got error with
          same | ⟨packet, returned⟩
      · exact Or.inl same
      · exact Or.inr ⟨0, error, packet, returned,
          fun positive => (positive rfl).elim⟩
    · rename_i op atPayload
      obtain ⟨error, completed, rfl⟩ :=
        Option.map_eq_some_iff.mp performed
      rcases resumePayload_returned honest authentic atPayload
          op.got error with same | ⟨value, packet, returned, accepts⟩
      · exact Or.inl same
      · exact Or.inr ⟨value, error, packet, returned,
          fun positive =>
            ⟨rfl, op, atPayload, completed, accepts positive⟩⟩
    · cases performed

end

/-- The server's TUN loop handed the packet to `SendTo`. -/
def Handed (sends : List Sent) (packet : List UInt8) : Prop :=
  ∃ sent ∈ sends,
    sent.request.path = .sendTo ∧ sent.request.packet = packet

namespace ClientTransport

/-- Everything written to the TUN device so far came from the server. -/
structure FromServer
    (key : List UInt8)
    (sends : List Sent)
    (transport : ClientTransport Endpoint) : Prop where
  sameKey : transport.connection.protocol.key = key
  authentic :
    ∀ receiver, transport = .tcp receiver →
      receiver.Authentic key sends
  written : ∀ packet ∈ transport.tunWritten, Handed sends packet

namespace FromServer

variable
    {aead : Aead 16}
    {key : List UInt8}
    {sends : List Sent}
    {self next : ClientTransport Endpoint}

/-- Later sends change nothing. -/
theorem mono
    (fromServer : self.FromServer key sends)
    (later : List Sent) :
    self.FromServer key (sends ++ later) where
  sameKey := fromServer.sameKey
  authentic := fun receiver isTcp =>
    (fromServer.authentic receiver isTcp).mono later
  written := fun packet member => by
    obtain ⟨sent, inSends, handed⟩ := fromServer.written packet member
    exact ⟨sent, List.mem_append_left later inSends, handed⟩

/-- The TUN loop works on other members of the connection object. -/
theorem setMembers
    (fromServer : self.FromServer key sends)
    {members : IConnection}
    (sameKey : members.protocol.key = key)
    (untouched :
      members.conn_recv_buffer =
        self.connection.members.conn_recv_buffer) :
    (self.setMembers members).FromServer key sends := by
  cases self with
  | udp receiver =>
      exact
        { sameKey := sameKey
          authentic := fun _ isTcp => nomatch isTcp
          written := fromServer.written }
  | tcp receiver =>
      have authentic := fromServer.authentic receiver rfl
      refine
        { sameKey := sameKey
          authentic := ?_
          written := fromServer.written }
      rintro _ ⟨⟩
      exact
        { sameKey := sameKey
          opened := fun op atPayload => by
            obtain ⟨offset, sent, member, isSent, holds⟩ :=
              authentic.opened op atPayload
            refine ⟨offset, sent, member, isSent, ?_⟩
            simp only [untouched]
            exact holds
          delivered := authentic.delivered }

/-- A step writes at most the packet of the frame that it decodes. -/
theorem step_tunWritten
    [DecidableEq Endpoint]
    (honest : HonestSends aead key sends)
    (fromServer : self.FromServer key sends)
    {event : ClientEvent Endpoint}
    (performed : self.step aead event = some next) :
    next.tunWritten = self.tunWritten ∨
      ∃ sent ∈ sends,
        self.decodes aead event sent = true ∧
          next.tunWritten =
            self.tunWritten ++ [sent.request.packet] := by
  have append
      {value : Int}
      {error : Option ErrorCode}
      {packet : List UInt8}
      (returned :
        next.returned = self.returned ++ [⟨value, error, packet⟩]) :
      next.tunWritten = self.tunWritten ∨
        error = none ∧ value ≠ 0 ∧ value ≠ -1 ∧
          next.tunWritten = self.tunWritten ++ [packet] := by
    rw [tunWritten, returned, List.filterMap_append]
    by_cases failed : error.isSome
    · simp [tunWritten, Client.tunWrite, failed]
    · by_cases isZero : value = 0
      · simp [tunWritten, Client.tunWrite, isZero]
      · by_cases refused : value = -1
        · simp [tunWritten, Client.tunWrite, refused]
        · refine Or.inr ⟨by simpa using failed, isZero, refused, ?_⟩
          simp [tunWritten, Client.tunWrite, failed, isZero, refused]
  have unchanged (same : next.returned = self.returned) :
      next.tunWritten = self.tunWritten := by
    rw [tunWritten, same]
    rfl
  cases self with
  | udp receiver =>
      cases event with
      | tcp event => cases performed
      | udp event =>
          obtain ⟨after, steps, rfl⟩ := Option.map_eq_some_iff.mp performed
          obtain ⟨_, same | ⟨value, error, packet, returned, accepts⟩⟩ :=
            UdpReceiver.step_returned honest fromServer.sameKey steps
          · exact Or.inl (unchanged same)
          · rcases append returned with
                same | ⟨rfl, positive, accepted, written⟩
            · exact Or.inl same
            · obtain ⟨rfl, atResume, source, sent, member, header,
                payload, rfl⟩ := accepts positive accepted
              refine Or.inr ⟨sent, member, ?_, written⟩
              have sameKey := fromServer.sameKey
              simp only [decodes, atResume, beq_self_eq_true,
                Bool.true_and, decide_eq_true_eq]
              rw [sameKey]
              exact ⟨source, header, payload⟩
  | tcp receiver =>
      cases event with
      | udp event => cases performed
      | tcp event =>
          obtain ⟨after, steps, rfl⟩ := Option.map_eq_some_iff.mp performed
          have authentic := fromServer.authentic receiver rfl
          rcases TcpReceiver.step_returned honest authentic steps with
              same | ⟨value, error, packet, returned, accepts⟩
          · exact Or.inl (unchanged same)
          · rcases append returned with
                same | ⟨rfl, positive, accepted, written⟩
            · exact Or.inl same
            · obtain ⟨rfl, op, atPayload, completed, sent, member,
                payload, rfl⟩ := accepts positive
              refine Or.inr ⟨sent, member, ?_, written⟩
              have sameKey := fromServer.sameKey
              simp only [decodes, atPayload, completed,
                beq_self_eq_true, Bool.true_and, decide_eq_true_eq]
              rw [sameKey]
              exact payload

/-- A step that decodes no frame of the client keeps the invariant. -/
theorem step
    [DecidableEq Endpoint]
    (honest : HonestSends aead key sends)
    (fromServer : self.FromServer key sends)
    {event : ClientEvent Endpoint}
    (notReflected :
      ∀ sent ∈ sends,
        sent.request.path = .send →
        self.decodes aead event sent = false)
    (performed : self.step aead event = some next) :
    next.FromServer key sends := by
  have written : ∀ packet ∈ next.tunWritten, Handed sends packet := by
    intro packet member
    rcases fromServer.step_tunWritten honest performed with
        same | ⟨sent, inSends, decoded, grown⟩
    · rw [same] at member
      exact fromServer.written packet member
    · rw [grown] at member
      rcases List.mem_append.mp member with earlier | new
      · exact fromServer.written packet earlier
      · refine ⟨sent, inSends, ?_, (List.mem_singleton.mp new).symm⟩
        cases path : sent.request.path with
        | sendTo => rfl
        | send =>
            rw [notReflected sent inSends path] at decoded
            cases decoded
  cases self with
  | udp receiver =>
      cases event with
      | tcp event => cases performed
      | udp event =>
          obtain ⟨after, steps, rfl⟩ := Option.map_eq_some_iff.mp performed
          exact
            { sameKey :=
                (UdpReceiver.step_returned honest
                  fromServer.sameKey steps).1
              authentic := fun _ isTcp => nomatch isTcp
              written := written }
  | tcp receiver =>
      cases event with
      | udp event => cases performed
      | tcp event =>
          obtain ⟨after, steps, rfl⟩ := Option.map_eq_some_iff.mp performed
          have authentic :=
            (fromServer.authentic receiver rfl).step honest steps
          refine
            { sameKey := authentic.sameKey
              authentic := ?_
              written := written }
          rintro _ ⟨⟩
          exact authentic

end FromServer

end ClientTransport

/-! ## The whole system -/

section Staging

variable
    {header : PacketBuffer}
    {packet : TunPacket}

/-- A packet that one of the two TUN loops lets through has its IP header. -/
theorem TunPacket.complete
    (held : header.slice Size packet.bytes.length = packet.bytes)
    (isIp : ip_v header = 4 ∨ ip_v header = 6) :
    Complete packet.bytes := by
  rw [ip_v_packet held packet.nonempty] at isIp
  rcases isIp with isFour | isSix
  · exact Or.inl ⟨isFour, packet.ipv4 isFour⟩
  · exact Or.inr ⟨isSix, packet.ipv6 isSix⟩

theorem Client.forwardsToServer_ip
    {settings : Client}
    (forwarded : settings.forwardsToServer header = true) :
    ip_v header = 4 ∨ ip_v header = 6 := by
  unfold forwardsToServer at forwarded
  split at forwarded
  · cases forwarded
  · omega

theorem Server.forwardsToClient_ip
    {addresses : Server}
    (forwarded : addresses.forwardsToClient header = true) :
    ip_v header = 4 ∨ ip_v header = 6 := by
  unfold forwardsToClient at forwarded
  split at forwarded
  · cases forwarded
  · omega

end Staging

theorem IpPacket.Complete.minimum
    {packet : List UInt8}
    (complete : Complete packet) :
    20 ≤ packet.length := by
  rcases complete with ⟨_, length⟩ | ⟨_, length⟩ <;> omega

namespace Tunnel

/--
Both sides use `key`, what they sealed is recorded, the server handed only
packets for the client to `SendTo`, and the client wrote only those.
-/
structure Directed
    (aead : Aead 16)
    (key : List UInt8)
    (addresses : Server)
    (tunnel : Tunnel Endpoint) : Prop where
  sameAddresses : tunnel.addresses = addresses
  serverKey : tunnel.server.connection.protocol.key = key
  sealedUnder : ∀ sent ∈ tunnel.sends, sent.SealedUnder aead key
  packetMinimum :
    ∀ sent ∈ tunnel.sends, 20 ≤ sent.request.packet.length
  addressed :
    ∀ sent ∈ tunnel.sends,
      sent.request.path = .sendTo →
      destination sent.request.packet =
        addresses.clientAddress sent.request.packet
  clients :
    ∀ index, (tunnel.client index).FromServer key tunnel.sends

namespace Directed

variable
    {aead : Aead 16}
    {key : List UInt8}
    {addresses : Server}
    {self next : Tunnel Endpoint}

theorem create
    (aead : Aead 16)
    (conn_key : List UInt8)
    (addresses : Server)
    (IPv6 : Bool)
    (protocol : ConnProtocol Endpoint) :
    Directed aead (AES256GCM.keyOf conn_key) addresses
      (create conn_key addresses IPv6 protocol) where
  sameAddresses := rfl
  serverKey := by cases protocol <;> rfl
  sealedUnder := nofun
  packetMinimum := nofun
  addressed := nofun
  clients := fun index => by
    cases protocol with
    | UDP server =>
        exact
          { sameKey := rfl
            authentic := fun _ isTcp => nomatch isTcp
            written := nofun }
    | TCP =>
        refine
          { sameKey := rfl
            authentic := ?_
            written := nofun }
        rintro _ ⟨⟩
        exact
          { sameKey := rfl
            opened := nofun
            delivered := nofun }

/-- With fresh nonces, the cipher is ideal for what was sent so far. -/
theorem honest
    (directed : Directed aead key addresses self)
    (fresh :
      (self.sends.map fun sent => sent.request.draw.nonce).Nodup) :
    HonestSends (aead.restrict self.calls) key self.sends where
  sealedUnder := directed.sealedUnder
  packetMinimum := directed.packetMinimum
  drawnOnce := fresh
  ideal := aead.restrict_ideal key self.calls

/-- One more send by either side, recorded. -/
theorem record
    (directed : Directed aead key addresses self)
    {sent : Sent}
    (sealed : sent.SealedUnder aead key)
    (minimum : 20 ≤ sent.request.packet.length)
    (addressed :
      sent.request.path = .sendTo →
      destination sent.request.packet =
        addresses.clientAddress sent.request.packet) :
    Directed aead key addresses
      { self with sends := self.sends ++ [sent] } where
  sameAddresses := directed.sameAddresses
  serverKey := directed.serverKey
  sealedUnder := by
    simpa [or_imp, forall_and] using ⟨directed.sealedUnder, sealed⟩
  packetMinimum := by
    simpa [or_imp, forall_and] using ⟨directed.packetMinimum, minimum⟩
  addressed := by
    simpa [or_imp, forall_and] using ⟨directed.addressed, addressed⟩
  clients := fun index => (directed.clients index).mono [sent]

/-- One connection of the client moves on. -/
theorem setClient
    (directed : Directed aead key addresses self)
    {index : Nat}
    {transport : ClientTransport Endpoint}
    (fromServer : transport.FromServer key self.sends) :
    Directed aead key addresses (self.setClient index transport) :=
  { directed with
    clients := fun other => by
      by_cases same : other = index
      · subst same
        simp only [Tunnel.setClient, Function.update_self]
        exact fromServer
      · simp only [Tunnel.setClient, Function.update_of_ne same]
        exact directed.clients other }

theorem setServer
    (directed : Directed aead key addresses self)
    {server : ServerTransport Endpoint}
    (sameKey :
      server.connection.protocol.key =
        self.server.connection.protocol.key) :
    Directed aead key addresses { self with server := server } :=
  { directed with
    serverKey := sameKey.trans directed.serverKey }

theorem clientTun
    (directed : Directed aead key addresses self)
    {calls : List Aead.Call}
    {index : Nat}
    {packet : TunPacket}
    {draw : SendDraw}
    (performed :
      self.clientTun (aead.restrict calls) index packet draw =
        some next) :
    Directed aead key addresses next := by
  have fromServer := directed.clients index
  simp only [Tunnel.clientTun, Option.bind_eq_bind,
    Option.bind_eq_some_iff] at performed
  obtain ⟨ready, staged, performed⟩ := performed
  obtain ⟨buffer, rfl, held⟩ := IConnection.readTun_staged staged
  split at performed
  · rename_i forwarded
    have complete :=
      TunPacket.complete held (Client.forwardsToServer_ip forwarded)
    simp only [Option.bind_eq_some_iff, Prod.exists,
      Option.some.injEq] at performed
    obtain ⟨after, frame, sends, rfl⟩ := performed
    obtain ⟨sameKey, untouched, effect⟩ := Connection.send_effect sends
    rw [fromServer.sameKey] at sameKey
    have sealed := effect.sealedUnder
    rw [fromServer.sameKey] at sealed
    refine
      (directed.setClient (fromServer.setMembers ?_ untouched)).record
        sealed complete.minimum nofun
    rw [← sameKey]
    cases after <;> rfl
  · obtain rfl := Option.some.inj performed
    refine directed.setClient (fromServer.setMembers ?_ rfl)
    rw [← fromServer.sameKey]
    cases self.client index <;> rfl

theorem serverTun
    (directed : Directed aead key addresses self)
    {calls : List Aead.Call}
    {packet : TunPacket}
    {draw : SendDraw}
    (performed :
      self.serverTun (aead.restrict calls) packet draw = some next) :
    Directed aead key addresses next := by
  simp only [Tunnel.serverTun, Option.bind_eq_bind,
    Option.bind_eq_some_iff] at performed
  obtain ⟨ready, staged, server, turns, performed⟩ := performed
  obtain ⟨buffer, rfl, held⟩ := IConnection.readTun_staged staged
  have moved :=
    directed.setServer (ServerTransport.tun_key turns)
  split at performed
  · rename_i forwarded
    have complete :=
      TunPacket.complete held (Server.forwardsToClient_ip forwarded)
    have addressed :=
      self.addresses.forwardsToClient_packet held complete
    simp only [forwarded] at addressed
    simp only [Option.bind_eq_some_iff, Prod.exists,
      Option.some.injEq] at performed
    obtain ⟨after, frame, sends, rfl⟩ := performed
    obtain ⟨_, _, effect⟩ := Connection.send_effect sends
    have sealed := effect.sealedUnder
    rw [directed.serverKey] at sealed
    refine moved.record sealed complete.minimum ?_
    intro _
    rw [← directed.sameAddresses]
    exact of_decide_eq_true addressed.symm
  · obtain rfl := Option.some.inj performed
    exact moved

/-- Every step that reflects no frame of the client keeps the invariant. -/
theorem step
    [DecidableEq Endpoint]
    (directed : Directed aead key addresses self)
    (fresh :
      (self.sends.map fun sent => sent.request.draw.nonce).Nodup)
    {event : TunnelEvent Endpoint}
    (notReflected : self.reflects aead event = false)
    (performed : self.step aead event = some next) :
    Directed aead key addresses next := by
  unfold Tunnel.step at performed
  cases event with
  | clientTun index packet draw =>
      exact directed.clientTun performed
  | clientReceive index event =>
      obtain ⟨transport, steps, rfl⟩ :=
        Option.map_eq_some_iff.mp performed
      refine directed.setClient
        ((directed.clients index).step (directed.honest fresh) ?_ steps)
      intro sent member isOwn
      by_contra decoded
      have reflected : self.reflects aead (.clientReceive index event) := by
        rw [reflects, List.any_eq_true]
        refine ⟨sent, member, ?_⟩
        simp only [isOwn, beq_self_eq_true, Bool.true_and]
        exact Bool.not_eq_false _ ▸ decoded
      rw [notReflected] at reflected
      cases reflected
  | serverTun packet draw =>
      exact directed.serverTun performed
  | serverReceive event =>
      simp only at performed
      split at performed
      · cases performed
      · obtain ⟨server, steps, rfl⟩ :=
          Option.map_eq_some_iff.mp performed
        exact directed.setServer (ServerTransport.step_key steps)

end Directed

/-- Sends are only ever added to the record. -/
theorem step_sends
    [DecidableEq Endpoint]
    {aead : Aead 16}
    {self next : Tunnel Endpoint}
    {event : TunnelEvent Endpoint}
    (performed : self.step aead event = some next) :
    self.sends <+: next.sends := by
  unfold step at performed
  cases event with
  | clientTun index packet draw =>
      simp only [clientTun, Option.bind_eq_bind,
        Option.bind_eq_some_iff] at performed
      obtain ⟨ready, _, performed⟩ := performed
      split at performed
      · simp only [Option.bind_eq_some_iff, Prod.exists,
          Option.some.injEq] at performed
        obtain ⟨after, frame, _, rfl⟩ := performed
        exact List.prefix_append _ _
      · obtain rfl := Option.some.inj performed
        exact List.prefix_rfl
  | clientReceive index event =>
      obtain ⟨transport, _, rfl⟩ := Option.map_eq_some_iff.mp performed
      exact List.prefix_rfl
  | serverTun packet draw =>
      simp only [serverTun, Option.bind_eq_bind,
        Option.bind_eq_some_iff] at performed
      obtain ⟨ready, _, server, _, performed⟩ := performed
      split at performed
      · simp only [Option.bind_eq_some_iff, Prod.exists,
          Option.some.injEq] at performed
        obtain ⟨after, frame, _, rfl⟩ := performed
        exact List.prefix_append _ _
      · obtain rfl := Option.some.inj performed
        exact List.prefix_rfl
  | serverReceive event =>
      simp only at performed
      split at performed
      · cases performed
      · obtain ⟨server, _, rfl⟩ := Option.map_eq_some_iff.mp performed
        exact List.prefix_rfl

/--
In every run of a client and a server, over either transport and whatever the
attacker delivers, in which no frame of the client is delivered back to it:
every packet that a connection of the client writes to the TUN device was
handed to `SendTo` by the server, and is addressed to the client.
-/
theorem written_from_server
    [DecidableEq Endpoint]
    (aead : Aead 16)
    (conn_key : List UInt8)
    (addresses : Server)
    (IPv6 : Bool)
    (protocol : ConnProtocol Endpoint)
    (events : List (TunnelEvent Endpoint))
    (final : Tunnel Endpoint)
    (reached :
      StepSystem.run (step aead)
          (create conn_key addresses IPv6 protocol) events =
        some final)
    (fresh :
      (final.sends.map fun sent => sent.request.draw.nonce).Nodup)
    (notReflected :
      StepSystem.Along (step aead)
        (fun self event => self.reflects aead event = false)
        (create conn_key addresses IPv6 protocol) events)
    (index : Nat)
    (packet : List UInt8)
    (written : packet ∈ (final.client index).tunWritten) :
    packet ∈ final.handedToSendTo ∧
      destination packet = addresses.clientAddress packet := by
  let Invariant (tunnel : Tunnel Endpoint) : Prop :=
    (tunnel.sends.map fun sent => sent.request.draw.nonce).Nodup →
      Directed aead (AES256GCM.keyOf conn_key) addresses tunnel
  have invariant : Invariant final := by
    refine StepSystem.run_invariant_along ?_
      (fun _ => Directed.create aead conn_key addresses IPv6 protocol)
      notReflected reached
    intro self event next directed allowed performed freshNext
    have sooner := (step_sends performed).map
      fun sent => sent.request.draw.nonce
    have freshSelf := freshNext.sublist sooner.sublist
    exact (directed freshSelf).step freshSelf allowed performed
  have directed := invariant fresh
  obtain ⟨sent, member, isSendTo, rfl⟩ :=
    (directed.clients index).written packet written
  refine ⟨?_, directed.addressed sent member isSendTo⟩
  apply List.mem_map_of_mem
  exact List.mem_filter.mpr ⟨member, by simp [isSendTo]⟩

/-- From the client's tunnel address to another host. -/
def outgoing : TunPacket where
  bytes :=
    [69, 0, 0, 20, 0, 0, 0, 0, 64, 17, 0, 0, 10, 0, 0, 2, 8, 8, 8, 8]
  nonempty := by decide
  ipv4 := by decide
  ipv6 := by decide

/-- From another host to the client's tunnel address. -/
def incoming : TunPacket where
  bytes :=
    [69, 0, 0, 20, 0, 0, 0, 0, 64, 17, 0, 0, 8, 8, 8, 8, 10, 0, 0, 2]
  nonempty := by decide
  ipv4 := by decide
  ipv6 := by decide

/-- The frame of a packet, under the draw of equal bytes. -/
def exampleFrame (packet : TunPacket) (byte : UInt8) : List UInt8 :=
  frameBytes Aead.checksumAead (AES256GCM.keyOf [49]) packet.bytes
    (SendDraw.constant byte)

/-- The client of a server at endpoint 1. -/
def exampleTunnel : Tunnel Nat :=
  create [49] Server.exampleServer true (.UDP 1)

/-- A datagram is received by the client, as if from the server. -/
def delivered (datagram : List UInt8) : List (TunnelEvent Nat) :=
  [.clientReceive 0 (.udp (.call 1552)),
    .clientReceive 0 (.udp (.arrive 1 datagram)),
    .clientReceive 0 (.udp .resume)]

/-- The client's frame comes back to it under the server's address. -/
def reflection : List (TunnelEvent Nat) :=
  .clientTun 0 outgoing (SendDraw.constant 1) ::
    delivered (exampleFrame outgoing 1)

/--
The client writes its own packet to the TUN device.  The server handed
nothing to `SendTo`, and the packet is addressed to another host.
-/
theorem own_packet_written :
    (StepSystem.run (step Aead.checksumAead) exampleTunnel
        reflection).map
        (fun final =>
          ((final.client 0).tunWritten, final.handedToSendTo)) =
      some ([outgoing.bytes], []) ∧
    destination outgoing.bytes = [8, 8, 8, 8] ∧
    ¬ ∀ (aead : Aead 16)
        (conn_key : List UInt8)
        (addresses : Server)
        (IPv6 : Bool)
        (protocol : ConnProtocol Nat)
        (events : List (TunnelEvent Nat))
        (final : Tunnel Nat)
        (index : Nat)
        (packet : List UInt8),
      StepSystem.run (step aead)
          (create conn_key addresses IPv6 protocol) events =
        some final →
      (final.sends.map fun sent => sent.request.draw.nonce).Nodup →
      packet ∈ (final.client index).tunWritten →
      packet ∈ final.handedToSendTo ∧
        destination packet = addresses.clientAddress packet := by
  have performed :
      (StepSystem.run (step Aead.checksumAead) exampleTunnel
          reflection).map
          (fun final =>
            ((final.client 0).tunWritten, final.handedToSendTo,
              decide
                (final.sends.map fun sent =>
                  sent.request.draw.nonce).Nodup)) =
        some ([outgoing.bytes], [], true) := by
    decide +kernel
  obtain ⟨final, reached, observed⟩ := Option.map_eq_some_iff.mp performed
  simp only [Prod.mk.injEq, decide_eq_true_eq] at observed
  obtain ⟨written, handed, fresh⟩ := observed
  refine ⟨?_, by decide, ?_⟩
  · rw [reached, Option.map_some, written, handed]
  · intro always
    have fromServer :=
      (always Aead.checksumAead [49] Server.exampleServer true (.UDP 1)
        reflection final 0 outgoing.bytes reached fresh
        (by rw [written]; exact List.mem_singleton_self _)).1
    rw [handed] at fromServer
    cases fromServer

/--
The server sends a packet, the client sends another; each frame reaches the
other side.
-/
def exchange : List (TunnelEvent Nat) :=
  [.serverTun incoming (SendDraw.constant 2),
    .clientTun 0 outgoing (SendDraw.constant 1)] ++
  delivered (exampleFrame incoming 2) ++
  [.serverReceive (.udp (.receiveFrom 1552)),
    .serverReceive (.udp (.arrive 7 (exampleFrame outgoing 1))),
    .serverReceive (.udp .resume)]

theorem written_from_server_exchange :
    ∃ final,
      StepSystem.run (step Aead.checksumAead) exampleTunnel exchange =
          some final ∧
        incoming.bytes ∈ (final.client 0).tunWritten ∧
        incoming.bytes ∈ final.handedToSendTo ∧
        destination incoming.bytes =
          Server.exampleServer.clientAddress incoming.bytes := by
  have performed :
      (StepSystem.run (step Aead.checksumAead) exampleTunnel
          exchange).map
          (fun final =>
            ((final.client 0).tunWritten,
              decide
                (final.sends.map fun sent =>
                  sent.request.draw.nonce).Nodup)) =
        some ([incoming.bytes], true) := by
    decide +kernel
  obtain ⟨final, reached, observed⟩ := Option.map_eq_some_iff.mp performed
  simp only [Prod.mk.injEq, decide_eq_true_eq] at observed
  obtain ⟨written, fresh⟩ := observed
  have member : incoming.bytes ∈ (final.client 0).tunWritten := by
    rw [written]
    exact List.mem_singleton_self _
  exact ⟨final, reached, member,
    written_from_server Aead.checksumAead [49] Server.exampleServer true
      (.UDP 1) exchange final reached fresh (by decide +kernel) 0
      incoming.bytes member⟩

end Tunnel

end Dsvpn
