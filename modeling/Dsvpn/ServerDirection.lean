import Dsvpn.Direction
import Dsvpn.ServerWrites

namespace Dsvpn

open ProtocolHeader
open IpPacket

/-!
# Where the packets of the server's TUN device come from

The server checks the IP header of what it has decrypted.  So whatever is
delivered to it, an IPv4 packet that it writes carries the client's source
address, and a packet that is not addressed to the client was sent by the
client.  Frames of the server itself pass the checks when they come back, but
only packets that are addressed to the client are among them.

Over TCP all accepted connections share one receive buffer.  The two length
fields of a frame can therefore be presented as the payload of another; these
eight bytes are the only thing beyond sent packets that is ever written.
-/

variable {Endpoint : Type}

theorem UdpReceiver.step_key
    [DecidableEq Endpoint]
    {aead : Aead 16}
    {self next : UdpReceiver Endpoint}
    {event : UdpReceiveEvent Endpoint}
    (performed : step aead self event = some next) :
    next.connection.protocol.key = self.connection.protocol.key := by
  unfold step at performed
  split at performed
  · cases performed
  · split at performed
    · obtain rfl := Option.some.inj performed
      rfl
    · obtain rfl := Option.some.inj performed
      unfold arrive
      split
      · rfl
      · rename_i received arrived
        rw [UDPConnection.asyncReceiveFrom_key arrived]
    · obtain rfl := Option.some.inj performed
      rfl
    · obtain rfl := Option.some.inj performed
      unfold resume
      split
      · rfl
      · rename_i connection value resumed
        unfold UDPConnection.resumeReceive at resumed
        split at resumed
        · obtain ⟨rfl, _⟩ := Prod.mk.inj (Option.some.inj resumed)
          rfl
        · simp only [Option.bind_eq_bind, Option.bind_eq_some_iff,
            Prod.exists, Option.some.injEq, Prod.mk.injEq] at resumed
          obtain ⟨result, _, decoded, rfl, _⟩ := resumed
          exact IConnection.decryptFrame_key decoded
    · cases performed

namespace TcpReceiver

theorem arrive_key
    {self next : TcpReceiver}
    {pc : ReadOp → ReceivePc}
    {op : ReadOp}
    {piece : List UInt8}
    (arrived : self.arrive pc op piece = some next) :
    next.connection.protocol.key = self.connection.protocol.key := by
  unfold arrive at arrived
  split at arrived
  · split at arrived
    · obtain rfl := Option.some.inj arrived
      rfl
    · rename_i received
      obtain rfl := Option.some.inj arrived
      simp only [IConnection.receivePiece, Option.bind_eq_bind,
        Option.bind_eq_some_iff, Option.some.injEq] at received
      obtain ⟨_, _, rfl⟩ := received
      rfl
  · cases arrived

theorem step_key
    {aead : Aead 16}
    {self next : TcpReceiver}
    {event : ReceiveEvent}
    (performed : step aead self event = some next) :
    next.connection.protocol.key = self.connection.protocol.key := by
  unfold step at performed
  split at performed
  · cases performed
  · split at performed
    · obtain rfl := Option.some.inj performed
      unfold Receive
      split <;> rfl
    · exact arrive_key performed
    · exact arrive_key performed
    · obtain rfl := Option.some.inj performed
      rfl
    · obtain rfl := Option.some.inj performed
      rfl
    · obtain ⟨error, _, rfl⟩ := Option.map_eq_some_iff.mp performed
      unfold resumeHeader
      split
      · rfl
      · split
        · rfl
        · simp only
          split <;> rfl
    · obtain ⟨error, _, rfl⟩ := Option.map_eq_some_iff.mp performed
      unfold resumePayload
      split
      · rfl
      · split
        · rfl
        · rename_i opened
          exact Protocol.DecryptPayload_key opened
    · cases performed

end TcpReceiver

theorem ClientTransport.step_key
    [DecidableEq Endpoint]
    {aead : Aead 16}
    {self next : ClientTransport Endpoint}
    {event : ClientEvent Endpoint}
    (performed : self.step aead event = some next) :
    next.connection.protocol.key = self.connection.protocol.key := by
  cases self with
  | udp receiver =>
      cases event with
      | udp event =>
          obtain ⟨after, steps, rfl⟩ := Option.map_eq_some_iff.mp performed
          exact UdpReceiver.step_key steps
      | tcp event => cases performed
  | tcp receiver =>
      cases event with
      | udp event => cases performed
      | tcp event =>
          obtain ⟨after, steps, rfl⟩ := Option.map_eq_some_iff.mp performed
          exact TcpReceiver.step_key steps

/-- The client's TUN loop lets an IPv4 packet through by its source. -/
theorem Client.forwardsToServer_packet
    (self : Client)
    {header : PacketBuffer}
    {packet : List UInt8}
    (held : header.slice Size packet.length = packet)
    (complete : Complete packet) :
    self.forwardsToServer header =
      if version packet = 4 then
        decide (source packet = self.client_tun_ip_integer)
      else
        self.IPv6 := by
  rcases complete with ⟨isFour, length⟩ | ⟨isSix, length⟩
  · have isVersion : ip_v header = 4 :=
      (ip_v_packet held (by omega)).trans isFour
    have sameSource : ip_src header = source packet := by
      rw [ip_src, slice_packet held (by omega), source, if_pos isFour]
    simp [forwardsToServer, isVersion, sameSource, isFour]
  · have isVersion : ip_v header = 6 :=
      (ip_v_packet held (by omega)).trans isSix
    cases enabled : self.IPv6 <;>
      simp [forwardsToServer, isVersion, isSix, enabled]

/-- The receive loop of the server lets the packet through. -/
def Server.Admits
    (addresses : Server)
    (packet : List UInt8) : Prop :=
  (version packet = 4 →
      source packet = addresses.client_tun_ip_integer) ∧
    (version packet = 6 →
      destination packet = addresses.client_tun_ip6_integer)

/-- What is written was let through, and is what was returned. -/
theorem Server.tunWrite_admits
    {addresses : Server}
    {header : PacketBuffer}
    {bytes_read : Nat}
    {packet : List UInt8}
    (written : addresses.tunWrite bytes_read header = some packet) :
    packet = header.slice Size bytes_read ∧
      (Complete packet → addresses.Admits packet) := by
  unfold tunWrite at written
  split at written
  · cases written
  · split at written
    · cases written
    · split at written
      · rename_i passes
        obtain rfl := Option.some.inj written
        rw [Int.toNat_natCast]
        refine ⟨rfl, fun complete => ?_⟩
        rw [addresses.forwardsToTun_packet
          (by rw [Buffer.length_slice]) complete] at passes
        constructor
        · intro isFour
          rw [if_pos isFour] at passes
          exact of_decide_eq_true passes
        · intro isSix
          rw [if_neg (by omega)] at passes
          exact of_decide_eq_true passes
      · cases written

namespace Tunnel

/--
Both sides use `key` and what they sealed is recorded: whole IP packets, those
of the client from its address, those of the server to it.
-/
structure Sourced
    (aead : Aead 16)
    (key : List UInt8)
    (addresses : Server)
    (protocol : ConnProtocol Endpoint)
    (tunnel : Tunnel Endpoint) : Prop where
  sameAddresses : tunnel.addresses = addresses
  sameClient :
    tunnel.settings.client_tun_ip_integer =
      addresses.client_tun_ip_integer
  serverKey : tunnel.server.connection.protocol.key = key
  overTcp :
    ∀ server, tunnel.server = .tcp server →
      protocol = .TCP ∧ server.addresses = addresses
  clientKey :
    ∀ index, (tunnel.client index).connection.protocol.key = key
  sealedUnder : ∀ sent ∈ tunnel.sends, sent.SealedUnder aead key
  complete : ∀ sent ∈ tunnel.sends, Complete sent.request.packet
  fromClient :
    ∀ sent ∈ tunnel.sends,
      sent.request.path = .send →
      version sent.request.packet = 4 →
      source sent.request.packet = addresses.client_tun_ip_integer
  toClient :
    ∀ sent ∈ tunnel.sends,
      sent.request.path = .sendTo →
      destination sent.request.packet =
        addresses.clientAddress sent.request.packet

/-- A sent packet that the receive loop of the server lets through. -/
def WritesSent
    (addresses : Server)
    (sends : List Sent)
    (packet : List UInt8) : Prop :=
  addresses.Admits packet ∧
    ∃ sent ∈ sends,
      sent.request.packet = packet ∧
        (destination packet ≠ addresses.clientAddress packet →
          sent.request.path = .send)

/-- The two sealed length fields of a sent frame. -/
def WritesLengths
    (sends : List Sent)
    (packet : List UInt8) : Prop :=
  ∃ sent ∈ sends,
    packet = lengthsOf sent.request.packet sent.request.draw

namespace Sourced

variable
    {aead : Aead 16}
    {key : List UInt8}
    {addresses : Server}
    {protocol : ConnProtocol Endpoint}
    {self next : Tunnel Endpoint}

theorem create
    (aead : Aead 16)
    (conn_key : List UInt8)
    (addresses : Server)
    (IPv6 : Bool)
    (protocol : ConnProtocol Endpoint) :
    Sourced aead (AES256GCM.keyOf conn_key) addresses protocol
      (create conn_key addresses IPv6 protocol) where
  sameAddresses := rfl
  sameClient := rfl
  serverKey := by cases protocol <;> rfl
  overTcp := by
    cases protocol with
    | UDP server => intro _ isTcp; cases isTcp
    | TCP =>
        rintro _ ⟨⟩
        exact ⟨rfl, rfl⟩
  clientKey := fun _ => by cases protocol <;> rfl
  sealedUnder := by simp [Tunnel.create]
  complete := by simp [Tunnel.create]
  fromClient := by simp [Tunnel.create]
  toClient := by simp [Tunnel.create]

/-- With fresh nonces, the cipher is ideal for what was sent so far. -/
theorem honest
    (sourced : Sourced aead key addresses protocol self)
    (fresh :
      (self.sends.map fun sent => sent.request.draw.nonce).Nodup) :
    HonestSends (aead.restrict self.calls) key self.sends where
  sealedUnder := sourced.sealedUnder
  packetMinimum := fun sent member =>
    (sourced.complete sent member).minimum
  drawnOnce := fresh
  ideal := aead.restrict_ideal key self.calls

/-- One more send by either side, recorded. -/
theorem record
    (sourced : Sourced aead key addresses protocol self)
    {sent : Sent}
    (sealed : sent.SealedUnder aead key)
    (complete : Complete sent.request.packet)
    (fromClient :
      sent.request.path = .send →
      version sent.request.packet = 4 →
      source sent.request.packet = addresses.client_tun_ip_integer)
    (toClient :
      sent.request.path = .sendTo →
      destination sent.request.packet =
        addresses.clientAddress sent.request.packet) :
    Sourced aead key addresses protocol
      { self with sends := self.sends ++ [sent] } where
  sameAddresses := sourced.sameAddresses
  sameClient := sourced.sameClient
  serverKey := sourced.serverKey
  overTcp := sourced.overTcp
  clientKey := sourced.clientKey
  sealedUnder := by
    simpa [or_imp, forall_and] using ⟨sourced.sealedUnder, sealed⟩
  complete := by
    simpa [or_imp, forall_and] using ⟨sourced.complete, complete⟩
  fromClient := by
    simpa [or_imp, forall_and] using ⟨sourced.fromClient, fromClient⟩
  toClient := by
    simpa [or_imp, forall_and] using ⟨sourced.toClient, toClient⟩

theorem setClient
    (sourced : Sourced aead key addresses protocol self)
    {index : Nat}
    {transport : ClientTransport Endpoint}
    (sameKey : transport.connection.protocol.key = key) :
    Sourced aead key addresses protocol
      (self.setClient index transport) :=
  { sourced with
    clientKey := fun other => by
      by_cases same : other = index
      · subst same
        simp only [Tunnel.setClient, Function.update_self]
        exact sameKey
      · simp only [Tunnel.setClient, Function.update_of_ne same]
        exact sourced.clientKey other }

theorem setServer
    (sourced : Sourced aead key addresses protocol self)
    {server : ServerTransport Endpoint}
    (sameKey :
      server.connection.protocol.key =
        self.server.connection.protocol.key)
    (overTcp :
      ∀ tcp, server = .tcp tcp →
        protocol = .TCP ∧ tcp.addresses = addresses) :
    Sourced aead key addresses protocol { self with server := server } :=
  { sourced with
    serverKey := sameKey.trans sourced.serverKey
    overTcp := overTcp }

theorem clientTun
    (sourced : Sourced aead key addresses protocol self)
    {calls : List Aead.Call}
    {index : Nat}
    {packet : TunPacket}
    {draw : SendDraw}
    (performed :
      self.clientTun (aead.restrict calls) index packet draw =
        some next) :
    Sourced aead key addresses protocol next := by
  have sameKey := sourced.clientKey index
  simp only [Tunnel.clientTun, Option.bind_eq_bind,
    Option.bind_eq_some_iff] at performed
  obtain ⟨ready, staged, performed⟩ := performed
  obtain ⟨buffer, rfl, held⟩ := IConnection.readTun_staged staged
  split at performed
  · rename_i forwarded
    have complete :=
      TunPacket.complete held (Client.forwardsToServer_ip forwarded)
    have passes :=
      self.settings.forwardsToServer_packet held complete
    simp only [forwarded] at passes
    simp only [Option.bind_eq_some_iff, Prod.exists,
      Option.some.injEq] at performed
    obtain ⟨after, frame, sends, rfl⟩ := performed
    obtain ⟨afterKey, _, effect⟩ := Connection.send_effect sends
    rw [sameKey] at afterKey
    have sealed := effect.sealedUnder
    rw [sameKey] at sealed
    refine (sourced.setClient ?_).record sealed complete ?_ ?_
    · rw [← afterKey]
      cases self.client index <;> cases after <;> rfl
    · intro _ isFour
      rw [if_pos isFour] at passes
      rw [← sourced.sameClient]
      exact of_decide_eq_true passes.symm
    · intro onSendTo
      cases onSendTo
  · obtain rfl := Option.some.inj performed
    refine sourced.setClient ?_
    rw [← sameKey]
    cases self.client index <;> rfl

/-- The TUN loop of the server keeps its addresses. -/
theorem tun_overTcp
    (sourced : Sourced aead key addresses protocol self)
    {cipher : Aead 16}
    {packet : List UInt8}
    {draw : SendDraw}
    {server : ServerTransport Endpoint}
    (turns :
      self.server.tun cipher self.addresses packet draw = some server) :
    ∀ tcp, server = .tcp tcp →
      protocol = .TCP ∧ tcp.addresses = addresses := by
  rintro tcp rfl
  cases isServer : self.server with
  | udp udp =>
      rw [isServer] at turns
      simp only [ServerTransport.tun, Option.bind_eq_bind,
        Option.bind_eq_some_iff] at turns
      obtain ⟨ready, _, turns⟩ := turns
      split at turns
      · obtain ⟨_, _, wrong⟩ := Option.map_eq_some_iff.mp turns
        cases wrong
      · cases turns
  | tcp before =>
      rw [isServer] at turns
      obtain ⟨after, steps, same⟩ := Option.map_eq_some_iff.mp turns
      obtain rfl := ServerTransport.tcp.inj same
      obtain ⟨isTcp, sameAddresses⟩ := sourced.overTcp before isServer
      exact ⟨isTcp,
        (TcpServer.step_addresses steps).trans sameAddresses⟩

theorem serverTun
    (sourced : Sourced aead key addresses protocol self)
    {calls : List Aead.Call}
    {packet : TunPacket}
    {draw : SendDraw}
    (performed :
      self.serverTun (aead.restrict calls) packet draw = some next) :
    Sourced aead key addresses protocol next := by
  simp only [Tunnel.serverTun, Option.bind_eq_bind,
    Option.bind_eq_some_iff] at performed
  obtain ⟨ready, staged, server, turns, performed⟩ := performed
  obtain ⟨buffer, rfl, held⟩ := IConnection.readTun_staged staged
  have moved :=
    sourced.setServer (ServerTransport.tun_key turns)
      (sourced.tun_overTcp turns)
  split at performed
  · rename_i forwarded
    have complete :=
      TunPacket.complete held (Server.forwardsToClient_ip forwarded)
    have addressed :=
      self.addresses.forwardsToClient_packet held complete
    simp only [forwarded] at addressed
    simp only [Option.bind_eq_some_iff, Prod.exists,
      Option.some.injEq] at performed
    obtain ⟨after, frame, sends, rfl⟩ := performed
    obtain ⟨_, _, effect⟩ := Connection.send_effect sends
    have sealed := effect.sealedUnder
    rw [sourced.serverKey] at sealed
    refine moved.record sealed complete ?_ ?_
    · intro onSend
      cases onSend
    · intro _
      rw [← sourced.sameAddresses]
      exact of_decide_eq_true addressed.symm
  · obtain rfl := Option.some.inj performed
    exact moved

theorem serverReceive
    (sourced : Sourced aead key addresses protocol self)
    {cipher : Aead 16}
    {event : ServerEvent Endpoint}
    {server : ServerTransport Endpoint}
    (performed : self.server.step cipher event = some server) :
    Sourced aead key addresses protocol { self with server := server } := by
  refine sourced.setServer (ServerTransport.step_key performed) ?_
  rintro tcp rfl
  cases isServer : self.server with
  | udp udp =>
      rw [isServer] at performed
      cases event with
      | udp event =>
          obtain ⟨_, _, wrong⟩ := Option.map_eq_some_iff.mp performed
          cases wrong
      | tcp event => cases performed
  | tcp before =>
      rw [isServer] at performed
      cases event with
      | udp event => cases performed
      | tcp event =>
          obtain ⟨after, steps, same⟩ :=
            Option.map_eq_some_iff.mp performed
          obtain rfl := ServerTransport.tcp.inj same
          obtain ⟨isTcp, sameAddresses⟩ :=
            sourced.overTcp before isServer
          exact ⟨isTcp,
            (TcpServer.step_addresses steps).trans sameAddresses⟩

theorem step
    [DecidableEq Endpoint]
    (sourced : Sourced aead key addresses protocol self)
    {event : TunnelEvent Endpoint}
    (performed : self.step aead event = some next) :
    Sourced aead key addresses protocol next := by
  unfold Tunnel.step at performed
  cases event with
  | clientTun index packet draw => exact sourced.clientTun performed
  | clientReceive index event =>
      obtain ⟨transport, steps, rfl⟩ :=
        Option.map_eq_some_iff.mp performed
      exact sourced.setClient
        ((ClientTransport.step_key steps).trans
          (sourced.clientKey index))
  | serverTun packet draw => exact sourced.serverTun performed
  | serverReceive event =>
      simp only at performed
      split at performed
      · cases performed
      · obtain ⟨server, steps, rfl⟩ :=
          Option.map_eq_some_iff.mp performed
        exact sourced.serverReceive steps

/-- A sent packet that was let through came from the client or went to it. -/
theorem writesSent
    (sourced : Sourced aead key addresses protocol self)
    {sent : Sent}
    (member : sent ∈ self.sends)
    (admitted : addresses.Admits sent.request.packet) :
    WritesSent addresses self.sends sent.request.packet := by
  refine ⟨admitted, sent, member, rfl, fun elsewhere => ?_⟩
  cases path : sent.request.path with
  | send => rfl
  | sendTo => exact (elsewhere (sourced.toClient sent member path)).elim

theorem udp_writes
    {sends : List Sent}
    (honest : HonestSends aead key sends)
    {server : UdpServer Endpoint}
    (sameKey : server.connection.protocol.key = key)
    {event : UdpServerEvent Endpoint}
    {packet : List UInt8}
    (written : server.tunWrite aead addresses event = some packet) :
    ∃ sent ∈ sends, sent.request.packet = packet ∧
      (Complete packet → addresses.Admits packet) := by
  unfold UdpServer.tunWrite at written
  split at written
  · split at written
    · cases written
    · rename_i connection bytes_read resumed
      simp only [UDPConnection.resumeReceiveFrom, Option.bind_eq_bind,
        Option.bind_eq_some_iff, Prod.exists, Option.some.injEq,
        Prod.mk.injEq] at resumed
      obtain ⟨decoded, value, decodes, rfl, rfl⟩ := resumed
      have something : value ≠ 0 := by
        rintro rfl
        simp [Server.tunWrite] at written
      obtain ⟨_, accepts⟩ :=
        IConnection.decryptFrame_accepts honest sameKey decodes
      obtain ⟨sent, member, _, _, _, rfl, held⟩ := accepts something
      obtain ⟨rfl, admitted⟩ := Server.tunWrite_admits written
      rw [Int.toNat_natCast] at held
      exact ⟨sent, member, held.symm, admitted⟩
  · cases written

theorem tcp_writes
    {sends : List Sent}
    (honest : HonestSends aead key sends)
    {server after : TcpServer}
    (sameKey : server.key = key)
    {event : TcpServerEvent}
    (performed : server.step aead event = some after)
    {packet : List UInt8}
    (written :
      packet ∈ after.tunWritten.drop server.tunWritten.length) :
    ∃ sent ∈ sends,
      (sent.request.packet = packet ∧
        (Complete packet → server.addresses.Admits packet)) ∨
        packet = lengthsOf sent.request.packet sent.request.draw := by
  cases TcpServer.step_writes performed with
  | silent _ nothing => simp [nothing.drop_eq_nil] at written
  | stops _ _ _ nothing => simp [nothing.drop_eq_nil] at written
  | opens error returned header _ authentic held _ grown =>
      rw [grown, List.drop_left, Option.mem_toList] at written
      split at written
      · cases written
      · obtain ⟨rfl, admitted⟩ := Server.tunWrite_admits written
        rw [held] at admitted ⊢
        obtain ⟨_, nonce, ciphertext, tag, opens⟩ := authentic
        rw [sameKey] at opens
        obtain ⟨sent, member, _, _, _, _, isPacket | isLengths⟩ :=
          honest.decrypts opens
        · exact ⟨sent, member, Or.inl ⟨isPacket.symm, admitted⟩⟩
        · exact ⟨sent, member, Or.inr isLengths⟩

/-- A step writes a sent packet, or over TCP the lengths of a sent frame. -/
theorem writes
    [DecidableEq Endpoint]
    (sourced : Sourced aead key addresses protocol self)
    (fresh :
      (self.sends.map fun sent => sent.request.draw.nonce).Nodup)
    {event : TunnelEvent Endpoint}
    {packet : List UInt8}
    (written : packet ∈ self.serverWrites aead event) :
    WritesSent addresses self.sends packet ∨
      (protocol = .TCP ∧ WritesLengths self.sends packet) := by
  have honest := sourced.honest fresh
  have serverKey := sourced.serverKey
  cases event with
  | serverReceive event =>
      simp only [serverWrites] at written
      cases isServer : self.server with
      | udp udp =>
          rw [isServer] at serverKey written
          rw [sourced.sameAddresses] at written
          cases event with
          | tcp event => simp [ServerTransport.tunWrites] at written
          | udp event =>
              obtain ⟨sent, member, rfl, admitted⟩ :=
                udp_writes honest serverKey (Option.mem_toList.mp written)
              exact Or.inl (sourced.writesSent member
                (admitted (sourced.complete sent member)))
      | tcp tcp =>
          rw [isServer] at serverKey written
          obtain ⟨isTcp, sameAddresses⟩ := sourced.overTcp tcp isServer
          cases event with
          | udp event => simp [ServerTransport.tunWrites] at written
          | tcp event =>
              simp only [ServerTransport.tunWrites] at written
              split at written
              · simp at written
              · rename_i after performed
                obtain ⟨sent, member, ⟨rfl, admitted⟩ | lengths⟩ :=
                  tcp_writes honest serverKey performed written
                · rw [sameAddresses] at admitted
                  exact Or.inl (sourced.writesSent member
                    (admitted (sourced.complete sent member)))
                · exact Or.inr ⟨isTcp, sent, member, lengths⟩
  | _ => simp [serverWrites] at written

end Sourced

/--
In every run of a client and a server, over either transport and whatever the
attacker delivers to either side: each packet that the server writes to its
TUN device is a packet that one of the two has sent and that the checks let
through, and the client has sent it unless it is addressed to the client; over
TCP it can also be the eight length bytes of a sent frame.
-/
theorem server_writes_sent
    [DecidableEq Endpoint]
    (aead : Aead 16)
    (conn_key : List UInt8)
    (addresses : Server)
    (IPv6 : Bool)
    (protocol : ConnProtocol Endpoint)
    (events : List (TunnelEvent Endpoint))
    (final : Tunnel Endpoint)
    (reached :
      StepSystem.run (step aead)
          (create conn_key addresses IPv6 protocol) events =
        some final)
    (fresh :
      (final.sends.map fun sent => sent.request.draw.nonce).Nodup)
    (packet : List UInt8)
    (written :
      packet ∈
        StepSystem.outputs (step aead) (serverWrites aead)
          (create conn_key addresses IPv6 protocol) events) :
    WritesSent addresses final.sends packet ∨
      (protocol = .TCP ∧ packet.length = 8 ∧
        WritesLengths final.sends packet) := by
  let Fresh (tunnel : Tunnel Endpoint) : Prop :=
    (tunnel.sends.map fun sent => sent.request.draw.nonce).Nodup
  let Good (tunnel : Tunnel Endpoint) (packet : List UInt8) : Prop :=
    Fresh tunnel →
      WritesSent addresses tunnel.sends packet ∨
        (protocol = .TCP ∧ WritesLengths tunnel.sends packet)
  have sooner
      {self next : Tunnel Endpoint}
      {event : TunnelEvent Endpoint}
      (performed : self.step aead event = some next)
      (fresh : Fresh next) : Fresh self :=
    fresh.sublist ((step_sends performed).map _).sublist
  have later
      {self next : Tunnel Endpoint}
      {event : TunnelEvent Endpoint}
      (performed : self.step aead event = some next)
      {packet : List UInt8} :
      WritesSent addresses self.sends packet ∨
          (protocol = .TCP ∧ WritesLengths self.sends packet) →
        WritesSent addresses next.sends packet ∨
          (protocol = .TCP ∧ WritesLengths next.sends packet) := by
    have kept := (step_sends performed).subset
    rintro (⟨admitted, sent, member, same⟩ | ⟨isTcp, sent, member, same⟩)
    · exact Or.inl ⟨admitted, sent, kept member, same⟩
    · exact Or.inr ⟨isTcp, sent, kept member, same⟩
  have good : Good final packet := by
    refine StepSystem.outputs_good
      (fun sourced performed => sourced.step performed)
      ?_ ?_
      (Sourced.create aead conn_key addresses IPv6 protocol)
      reached packet written
    · intro self event next sourced performed output now freshNext
      exact later performed
        (sourced.writes (sooner performed freshNext) now)
    · intro self event next output performed earlier freshNext
      exact later performed (earlier (sooner performed freshNext))
  rcases good fresh with sentPacket | ⟨isTcp, sent, member, rfl⟩
  · exact Or.inl sentPacket
  · exact Or.inr ⟨isTcp, length_lengthsOf _ _, sent, member, rfl⟩

theorem server_writes_sent_exchange :
    ∃ final,
      StepSystem.run (step Aead.checksumAead) exampleTunnel exchange =
          some final ∧
        StepSystem.outputs (step Aead.checksumAead)
            (serverWrites Aead.checksumAead) exampleTunnel exchange =
          [outgoing.bytes] ∧
        (WritesSent Server.exampleServer final.sends outgoing.bytes ∨
          ((.UDP 1 : ConnProtocol Nat) = .TCP ∧
            outgoing.bytes.length = 8 ∧
            WritesLengths final.sends outgoing.bytes)) := by
  have performed :
      (StepSystem.run (step Aead.checksumAead) exampleTunnel exchange).map
          (fun final =>
            decide
              (final.sends.map fun sent =>
                sent.request.draw.nonce).Nodup) =
        some true := by
    decide +kernel
  have written :
      StepSystem.outputs (step Aead.checksumAead)
          (serverWrites Aead.checksumAead) exampleTunnel exchange =
        [outgoing.bytes] := by
    decide +kernel
  obtain ⟨final, reached, fresh⟩ := Option.map_eq_some_iff.mp performed
  refine ⟨final, reached, written, ?_⟩
  exact server_writes_sent Aead.checksumAead [49] Server.exampleServer
    true (.UDP 1) exchange final reached (of_decide_eq_true fresh)
    outgoing.bytes (by
      rw [show create [49] Server.exampleServer true (.UDP 1) =
        exampleTunnel from rfl, written]
      exact List.mem_singleton_self _)

/-- A packet whose length is also the first byte of an IPv4 header. -/
def telling : TunPacket where
  bytes := outgoing.bytes ++ List.replicate 44 0
  nonempty := by decide
  ipv4 := by decide
  ipv6 := by decide

/--
The frame is replayed on the selected connection up to its header.  Then
another connection puts the tag of the lengths in the place of the payload's
tag, and the sealed lengths follow as the payload.
-/
def splicedLengths : List (TunnelEvent Nat) :=
  let frame := exampleFrame telling 1
  .clientTun 0 telling (SendDraw.constant 1) ::
    ([.incoming, .resumeAccept, .arriveTry 0 (frame.take Size),
        .resumeTry 0, .arriveTry 0 (frame.drop Size), .resumeTry 0,
        .resume, .arrive (frame.take Size), .resume,
        .incoming, .resumeAccept,
        .arriveTry 1
          (frame.take 12 ++ List.replicate 16 0 ++
            (frame.drop 12).take 16 ++ word32 8),
        .arrive
          ((frame.drop 44).take 8 ++ List.replicate 4 0 ++
            [10, 0, 0, 2] ++ List.replicate 298 0),
        .resume] : List TcpServerEvent).map fun event =>
      .serverReceive (.tcp event)

example :
    StepSystem.outputs (step Aead.checksumAead)
        (serverWrites Aead.checksumAead)
        (create [49] Server.exampleServer true .TCP) splicedLengths =
      [[64, 0, 0, 0, 250, 0, 0, 0]] := by
  decide +kernel

end Tunnel

end Dsvpn
