import Dsvpn.DecodeBounds
import Dsvpn.UdpSession

namespace Dsvpn

open ProtocolHeader
open IpPacket

/-!
# What the session's steps do

The checks of the loops as checks on packets, and what each step does to the
connections of the two ends, as long as the MTU is within the arrays: the
receive coroutines stay ready, and nothing leaves its array.
-/

variable {Endpoint : Type}

section Filters

variable {header : PacketBuffer}

/-- The client's TUN loop sends the packet. -/
def Client.admits
    (self : Client)
    (packet : List UInt8) : Bool :=
  if version packet = 4 then
    decide (source packet = self.client_tun_ip_integer)
  else
    decide (version packet = 6) && self.IPv6

/-- The server's TUN loop sends the packet. -/
def Server.admitsToClient
    (self : Server)
    (packet : List UInt8) : Bool :=
  (decide (version packet = 4) || decide (version packet = 6)) &&
    decide (destination packet = self.clientAddress packet)

instance
    (addresses : Server)
    (packet : List UInt8) :
    Decidable (addresses.Admits packet) :=
  inferInstanceAs (Decidable ((_ → _) ∧ (_ → _)))

theorem Client.forwardsToServer_tun
    (self : Client)
    {packet : TunPacket}
    (held : header.slice Size packet.bytes.length = packet.bytes) :
    self.forwardsToServer header = self.admits packet.bytes := by
  by_cases isIp : ip_v header = 4 ∨ ip_v header = 6
  · have complete := TunPacket.complete held isIp
    rw [self.forwardsToServer_packet held complete, admits]
    rcases complete with ⟨isFour, _⟩ | ⟨isSix, _⟩
    · simp [isFour]
    · simp [isSix]
  · have refused : self.forwardsToServer header = false :=
      Bool.eq_false_iff.mpr fun forwards =>
        isIp (Client.forwardsToServer_ip forwards)
    rw [ip_v_packet held packet.nonempty, not_or] at isIp
    simp [refused, admits, isIp.1, isIp.2]

theorem Server.forwardsToClient_tun
    (self : Server)
    {packet : TunPacket}
    (held : header.slice Size packet.bytes.length = packet.bytes) :
    self.forwardsToClient header = self.admitsToClient packet.bytes := by
  by_cases isIp : ip_v header = 4 ∨ ip_v header = 6
  · have complete := TunPacket.complete held isIp
    rw [self.forwardsToClient_packet held complete, admitsToClient]
    rcases complete with ⟨isFour, _⟩ | ⟨isSix, _⟩
    · simp [isFour]
    · simp [isSix]
  · have refused : self.forwardsToClient header = false :=
      Bool.eq_false_iff.mpr fun forwards =>
        isIp (Server.forwardsToClient_ip forwards)
    rw [ip_v_packet held packet.nonempty, not_or] at isIp
    simp [refused, admitsToClient, isIp.1, isIp.2]

/-- What either TUN loop sends is a whole IP packet. -/
theorem Client.complete_of_admits
    {self : Client}
    {packet : TunPacket}
    (admitted : self.admits packet.bytes = true) :
    Complete packet.bytes := by
  unfold admits at admitted
  split at admitted
  · rename_i isFour
    exact Or.inl ⟨isFour, packet.ipv4 isFour⟩
  · simp only [Bool.and_eq_true, decide_eq_true_eq] at admitted
    exact Or.inr ⟨admitted.1, packet.ipv6 admitted.1⟩

theorem Server.complete_of_admitsToClient
    {self : Server}
    {packet : TunPacket}
    (admitted : self.admitsToClient packet.bytes = true) :
    Complete packet.bytes := by
  simp only [admitsToClient, Bool.and_eq_true, Bool.or_eq_true,
    decide_eq_true_eq] at admitted
  rcases admitted.1 with isFour | isSix
  · exact Or.inl ⟨isFour, packet.ipv4 isFour⟩
  · exact Or.inr ⟨isSix, packet.ipv6 isSix⟩

/-- The receive loop writes a whole packet that it admits. -/
theorem Server.tunWrite_complete
    (self : Server)
    {packet : List UInt8}
    (held : header.slice Size packet.length = packet)
    (complete : Complete packet) :
    (self.tunWrite packet.length header).toList =
      [packet].filter fun packet => decide (self.Admits packet) := by
  have minimum := complete.minimum
  have decision :
      self.forwardsToTun header = decide (self.Admits packet) := by
    rw [self.forwardsToTun_packet held complete]
    rcases complete with ⟨isFour, _⟩ | ⟨isSix, _⟩
    · simp [Admits, isFour]
    · simp [Admits, isSix]
  unfold tunWrite
  rw [if_neg (by omega), if_neg (by omega), Int.toNat_natCast, held,
    decision]
  by_cases admitted : self.Admits packet
  · simp [admitted]
  · simp [admitted]

end Filters

namespace UdpSession

/-- Some datagram has arrived at the server, from anywhere. -/
def knowsPeer (self : UdpSession Endpoint) : Bool :=
  self.server.coroutine.connection.last_recv_ep.isSome

/-- A receive coroutine of the client, between any two steps. -/
structure ClientReady
    (key : List UInt8)
    (mtu : Nat)
    (endpoint : Endpoint)
    (receiver : UdpReceiver Endpoint) : Prop where
  sameKey : receiver.connection.protocol.key = key
  remote : receiver.connection.remote_send_ep = some endpoint
  noFault : receiver.fault = none
  size : ∀ size, receiver.pc = .waiting size → size = mtu + Size

structure ServerReady
    (key : List UInt8)
    (mtu : Nat)
    (server : UdpServer Endpoint) : Prop where
  sameKey : server.connection.protocol.key = key
  noFault : server.fault = none
  size : ∀ size, server.pc = .waiting size → size = mtu + Size

structure Ready
    (settings : Client)
    (addresses : Server)
    (key : List UInt8)
    (mtu : Nat)
    (endpoint : Endpoint)
    (session : UdpSession Endpoint) : Prop where
  sameSettings : session.settings = settings
  sameAddresses : session.addresses = addresses
  sameMtu : session.mtu = mtu
  client :
    ∀ index,
      ClientReady key mtu endpoint (session.client index).coroutine
  server : ServerReady key mtu session.server.coroutine

/-- Nothing that concerns receiving changes. -/
structure ClientReceivesOn
    (before after : UdpReceiver Endpoint) : Prop where
  key : after.connection.protocol.key = before.connection.protocol.key
  buffer :
    after.connection.conn_recv_buffer = before.connection.conn_recv_buffer
  last : after.connection.last_recv_ep = before.connection.last_recv_ep
  remote :
    after.connection.remote_send_ep = before.connection.remote_send_ep
  pc : after.pc = before.pc
  fault : after.fault = before.fault

structure ServerReceivesOn
    (before after : UdpServer Endpoint) : Prop where
  key : after.connection.protocol.key = before.connection.protocol.key
  buffer :
    after.connection.conn_recv_buffer = before.connection.conn_recv_buffer
  pc : after.pc = before.pc
  fault : after.fault = before.fault

section Turns

variable
    {aead : Aead 16}
    {self : UdpSession Endpoint}
    {packet : TunPacket}
    {draw : SendDraw}
    {error : Option SendError}

/-- A packet up to the MTU is staged, and can be sealed. -/
theorem exists_ready
    (aead : Aead 16)
    (connection : UDPConnection Endpoint)
    (packet : TunPacket)
    (draw : SendDraw)
    (fits : packet.bytes.length ≤ MAX_BUFFSIZE) :
    ∃ buffer result,
      connection.readTun packet.bytes =
          some { connection with tun_recv_buffer := buffer } ∧
        buffer.slice Size packet.bytes.length = packet.bytes ∧
        IConnection.encryptFrame aead
            { connection.toIConnection with tun_recv_buffer := buffer }
            packet.bytes.length draw =
          some (result,
            frameBytes aead connection.protocol.key packet.bytes draw) ∧
        result.protocol.key = connection.protocol.key ∧
        result.conn_recv_buffer = connection.conn_recv_buffer := by
  obtain ⟨buffer, result, staged, encrypted, key, untouched⟩ :=
    connection.toIConnection.readTun_encryptFrame aead packet.bytes draw
      fits
  obtain ⟨same, isSame, held⟩ := IConnection.readTun_staged staged
  obtain rfl : buffer = same :=
    congrArg IConnection.tun_recv_buffer isSame
  refine ⟨buffer, result, ?_, held, encrypted, key, untouched⟩
  simp only [UDPConnection.readTun, staged, Option.bind_eq_bind,
    Option.bind_some]

theorem clientTun_cases
    (aead : Aead 16)
    (self : UdpSession Endpoint)
    (index : Nat)
    (packet : TunPacket)
    (draw : SendDraw)
    (error : Option SendError)
    (fits : packet.bytes.length ≤ MAX_BUFFSIZE) :
    ∃ client,
      ClientReceivesOn (self.client index).coroutine client.coroutine ∧
        client.arrived = (self.client index).arrived ∧
        self.clientTun aead index packet.bytes draw error =
          { self.setClient index client with
            toServer :=
              self.toServer ++
                if self.settings.admits packet.bytes && error.isNone then
                  [frameBytes aead
                    (self.client
                      index).coroutine.connection.protocol.key
                    packet.bytes draw]
                else
                  [] } := by
  obtain ⟨buffer, result, staged, held, encrypted, key, untouched⟩ :=
    exists_ready aead (self.client index).coroutine.connection packet draw
      fits
  unfold clientTun
  simp only [staged, UDPConnection.Send, encrypted,
    Client.forwardsToServer_tun self.settings held, Option.bind_eq_bind,
    Option.bind_some]
  cases self.settings.admits packet.bytes with
  | false =>
      refine ⟨_, ?_, ?_, by simp [setClient]; rfl⟩
      · exact ⟨rfl, rfl, rfl, rfl, rfl, rfl⟩
      · rfl
  | true =>
      cases error with
      | none =>
          refine ⟨_, ?_, ?_, by simp [setClient]; rfl⟩
          · exact ⟨key, untouched, rfl, rfl, rfl, rfl⟩
          · rfl
      | some error =>
          refine ⟨_, ?_, ?_, by simp [setClient]; rfl⟩
          · exact ⟨key, untouched, rfl, rfl, rfl, rfl⟩
          · rfl

theorem serverTun_cases
    (aead : Aead 16)
    (self : UdpSession Endpoint)
    (packet : TunPacket)
    (draw : SendDraw)
    (error : Option SendError)
    (fits : packet.bytes.length ≤ MAX_BUFFSIZE) :
    ∃ server,
      ServerReceivesOn self.server.coroutine server.coroutine ∧
        server.arrived = self.server.arrived ∧
        self.serverTun aead packet.bytes draw error =
          { self with
            server := server
            toClient :=
              self.toClient ++
                if self.addresses.admitsToClient packet.bytes &&
                    (error.isNone && self.knowsPeer) then
                  [frameBytes aead
                    self.server.coroutine.connection.protocol.key
                    packet.bytes draw]
                else
                  [] } := by
  obtain ⟨buffer, result, staged, held, encrypted, key, untouched⟩ :=
    exists_ready aead self.server.coroutine.connection packet draw fits
  unfold serverTun
  simp only [staged, UDPConnection.SendTo, encrypted,
    Server.forwardsToClient_tun self.addresses held, Option.bind_eq_bind,
    Option.bind_some, UdpServer.sendTo, knowsPeer]
  cases self.addresses.admitsToClient packet.bytes with
  | false =>
      refine ⟨_, ?_, ?_, by simp; rfl⟩
      · exact ⟨rfl, rfl, rfl, rfl⟩
      · rfl
  | true =>
      refine ⟨_, ?_, ?_, by simp; rfl⟩
      · exact ⟨key, untouched, rfl, rfl⟩
      · rfl

end Turns

section Receiving

variable
    {aead : Aead 16}
    {source endpoint : Endpoint}
    {datagram : List UInt8}
    {key : List UInt8}
    {mtu : Nat}

/-- A cut datagram fits the receive buffer. -/
theorem asyncReceiveFrom_eq
    (connection : UDPConnection Endpoint)
    (maximum : mtu ≤ MAX_BUFFSIZE) :
    connection.asyncReceiveFrom (mtu + Size) (some (source, datagram)) =
      some
        { connection with
          conn_recv_buffer :=
            connection.conn_recv_buffer.overwrite 0
              (datagram.take (mtu + Size))
          last_recv_ep := some source } := by
  have inside : 0 + (datagram.take (mtu + Size)).length ≤ 2000 := by
    rw [List.length_take]
    simp only [Size, MAX_BUFFSIZE] at *
    omega
  simp only [UDPConnection.asyncReceiveFrom,
    Buffer.store?_eq_some _ inside, Option.bind_eq_bind,
    Option.bind_some]

/-- The connection after a datagram has been read. -/
def received
    (mtu : Nat)
    (connection : UDPConnection Endpoint)
    (source : Endpoint)
    (datagram : List UInt8) : UDPConnection Endpoint :=
  { connection with
    conn_recv_buffer :=
      connection.conn_recv_buffer.overwrite 0 (datagram.take (mtu + Size))
    last_recv_ep := some source }

namespace ClientReady

variable {receiver next : UdpReceiver Endpoint}

theorem receivesOn
    (ready : ClientReady key mtu endpoint receiver)
    (on : ClientReceivesOn receiver next) :
    ClientReady key mtu endpoint next where
  sameKey := on.key.trans ready.sameKey
  remote := on.remote.trans ready.remote
  noFault := on.fault.trans ready.noFault
  size := fun size waits => ready.size size (on.pc.symm.trans waits)

theorem call
    [DecidableEq Endpoint]
    (ready : ClientReady key mtu endpoint receiver)
    (performed : receiver.step aead (.call (mtu + Size)) = some next) :
    next = { receiver with pc := .waiting (mtu + Size) } := by
  unfold UdpReceiver.step at performed
  rw [if_neg (by simp [ready.noFault])] at performed
  cases now : receiver.pc with
  | idle =>
      rw [now] at performed
      exact (Option.some.inj performed).symm
  | waiting size => rw [now] at performed; cases performed
  | arrived error => rw [now] at performed; cases performed

theorem fail
    [DecidableEq Endpoint]
    {error : ErrorCode}
    (ready : ClientReady key mtu endpoint receiver)
    (performed : receiver.step aead (.fail error) = some next) :
    next = { receiver with pc := .arrived (some error) } := by
  unfold UdpReceiver.step at performed
  rw [if_neg (by simp [ready.noFault])] at performed
  cases now : receiver.pc with
  | idle => rw [now] at performed; cases performed
  | waiting size =>
      rw [now] at performed
      exact (Option.some.inj performed).symm
  | arrived error => rw [now] at performed; cases performed

theorem arrive
    [DecidableEq Endpoint]
    (maximum : mtu ≤ MAX_BUFFSIZE)
    (ready : ClientReady key mtu endpoint receiver)
    (performed : receiver.step aead (.arrive source datagram) = some next) :
    next =
      { receiver with
        connection := received mtu receiver.connection source datagram
        pc := .arrived none } := by
  unfold UdpReceiver.step at performed
  rw [if_neg (by simp [ready.noFault])] at performed
  cases now : receiver.pc with
  | idle => rw [now] at performed; cases performed
  | arrived error => rw [now] at performed; cases performed
  | waiting size =>
      obtain rfl := ready.size size now
      rw [now] at performed
      obtain rfl := Option.some.inj performed
      unfold UdpReceiver.arrive
      rw [asyncReceiveFrom_eq _ maximum]
      rfl

/-- `Receive` always returns. -/
theorem resume
    [DecidableEq Endpoint]
    {error : Option ErrorCode}
    (ready : ClientReady key mtu endpoint receiver)
    (aead : Aead 16)
    (atResume : receiver.pc = .arrived error) :
    ∃ connection value,
      receiver.connection.resumeReceive aead = some (connection, value) ∧
        connection.protocol.key = key ∧
        connection.remote_send_ep = some endpoint ∧
        receiver.step aead .resume =
          some
            { receiver with
              connection := connection
              pc := .idle
              returned :=
                receiver.returned ++
                  [⟨value, error,
                    connection.conn_recv_buffer.slice Size
                      value.toNat⟩] } := by
  have resumed :
      ∃ connection value,
        receiver.connection.resumeReceive aead =
            some (connection, value) ∧
          connection.protocol.key = key ∧
          connection.remote_send_ep = some endpoint := by
    unfold UDPConnection.resumeReceive
    split
    · exact ⟨_, _, rfl, ready.sameKey, ready.remote⟩
    · obtain ⟨⟨members, value⟩, decoded⟩ :=
        Option.isSome_iff_exists.mp
          (UDPConnection.decryptFrame_isSome aead
            receiver.connection.toIConnection)
      refine ⟨{ receiver.connection with toIConnection := members },
        value, ?_, ?_, ready.remote⟩
      · rw [decoded]
        rfl
      · exact (IConnection.decryptFrame_key decoded).trans ready.sameKey
  obtain ⟨connection, value, resumed, sameKey, remote⟩ := resumed
  refine ⟨connection, value, resumed, sameKey, remote, ?_⟩
  unfold UdpReceiver.step
  rw [if_neg (by simp [ready.noFault]), atResume]
  simp only [UdpReceiver.resume, resumed]

end ClientReady

namespace ServerReady

variable {server next : UdpServer Endpoint}

theorem receivesOn
    (ready : ServerReady key mtu server)
    (on : ServerReceivesOn server next) :
    ServerReady key mtu next where
  sameKey := on.key.trans ready.sameKey
  noFault := on.fault.trans ready.noFault
  size := fun size waits => ready.size size (on.pc.symm.trans waits)

theorem receiveFrom
    (ready : ServerReady key mtu server)
    (performed :
      server.step aead (.receiveFrom (mtu + Size)) = some next) :
    next = { server with pc := .waiting (mtu + Size) } := by
  unfold UdpServer.step at performed
  rw [if_neg (by simp [ready.noFault])] at performed
  cases now : server.pc with
  | idle =>
      rw [now] at performed
      exact (Option.some.inj performed).symm
  | waiting size => rw [now] at performed; cases performed
  | arrived error => rw [now] at performed; cases performed

theorem receiveError
    (ready : ServerReady key mtu server)
    (performed : server.step aead .receiveError = some next) :
    next = { server with pc := .arrived none } := by
  unfold UdpServer.step at performed
  rw [if_neg (by simp [ready.noFault])] at performed
  cases now : server.pc with
  | idle => rw [now] at performed; cases performed
  | waiting size =>
      rw [now] at performed
      exact (Option.some.inj performed).symm
  | arrived error => rw [now] at performed; cases performed

theorem arrive
    (maximum : mtu ≤ MAX_BUFFSIZE)
    (ready : ServerReady key mtu server)
    (performed : server.step aead (.arrive source datagram) = some next) :
    next =
      { server with
        connection := received mtu server.connection source datagram
        pc := .arrived (some source)
        lastArrival := some ⟨source, false⟩ } := by
  unfold UdpServer.step at performed
  rw [if_neg (by simp [ready.noFault])] at performed
  cases now : server.pc with
  | idle => rw [now] at performed; cases performed
  | arrived error => rw [now] at performed; cases performed
  | waiting size =>
      obtain rfl := ready.size size now
      rw [now] at performed
      obtain rfl := Option.some.inj performed
      unfold UdpServer.arrive
      rw [asyncReceiveFrom_eq _ maximum]
      rfl

/-- `ReceiveFrom` always returns. -/
theorem resume
    (ready : ServerReady key mtu server)
    {source : Option Endpoint}
    (atResume : server.pc = .arrived source)
    (performed : server.step aead .resume = some next) :
    ServerReady key mtu next ∧ next.pc = .idle := by
  obtain ⟨⟨members, value⟩, decoded⟩ :=
    Option.isSome_iff_exists.mp
      (UDPConnection.decryptFrame_isSome aead
        server.connection.toIConnection)
  have sameKey :=
    (IConnection.decryptFrame_key decoded).trans ready.sameKey
  unfold UdpServer.step at performed
  rw [if_neg (by simp [ready.noFault]), atResume] at performed
  obtain rfl := Option.some.inj performed
  unfold UdpServer.resume
  simp only [UDPConnection.resumeReceiveFrom, decoded,
    Option.bind_eq_bind, Option.bind_some]
  have idle (lastArrival authenticated) :
      ServerReady key mtu
        { server with
          connection :=
            { server.connection with toIConnection := members }
          pc := .idle
          lastArrival := lastArrival
          authenticated := authenticated } :=
    ⟨sameKey, ready.noFault, fun _ waits => by cases waits⟩
  cases source with
  | none => exact ⟨idle _ _, rfl⟩
  | some source =>
      simp only
      split
      · exact ⟨idle _ _, rfl⟩
      · exact ⟨idle _ _, rfl⟩

end ServerReady

end Receiving

section Run

variable
    {aead : Aead 16}
    {settings : Client}
    {addresses : Server}
    {endpoint : Endpoint}
    {key : List UInt8}
    {mtu : Nat}
    {self next : UdpSession Endpoint}
    {event : UdpSessionEvent Endpoint}

namespace Ready

theorem create
    (conn_key : List UInt8)
    (addresses : Server)
    (IPv6 : Bool)
    (mtu : Nat)
    (endpoint : Endpoint) :
    Ready ⟨addresses.client_tun_ip_integer, IPv6⟩ addresses
      (AES256GCM.keyOf conn_key) mtu endpoint
      (create conn_key addresses IPv6 mtu endpoint) where
  sameSettings := rfl
  sameAddresses := rfl
  sameMtu := rfl
  client := fun _ => ⟨rfl, rfl, rfl, fun _ waits => by cases waits⟩
  server := ⟨rfl, rfl, fun _ waits => by cases waits⟩

theorem setClient
    (ready : Ready settings addresses key mtu endpoint self)
    {index : Nat}
    {client : SessionEnd (UdpReceiver Endpoint)}
    (clientReady : ClientReady key mtu endpoint client.coroutine) :
    Ready settings addresses key mtu endpoint
      (self.setClient index client) where
  sameSettings := ready.sameSettings
  sameAddresses := ready.sameAddresses
  sameMtu := ready.sameMtu
  client := by
    intro other
    simp only [UdpSession.setClient, Function.update_apply]
    split
    · exact clientReady
    · exact ready.client other
  server := ready.server

/-- What is on the network and what was written does not matter. -/
theorem congr
    (ready : Ready settings addresses key mtu endpoint self)
    (sameSettings : next.settings = self.settings)
    (sameAddresses : next.addresses = self.addresses)
    (sameMtu : next.mtu = self.mtu)
    (sameClient : next.client = self.client)
    (server : ServerReady key mtu next.server.coroutine) :
    Ready settings addresses key mtu endpoint next where
  sameSettings := sameSettings.trans ready.sameSettings
  sameAddresses := sameAddresses.trans ready.sameAddresses
  sameMtu := sameMtu.trans ready.sameMtu
  client := sameClient ▸ ready.client
  server := server

theorem clientStep
    [DecidableEq Endpoint]
    (maximum : mtu ≤ MAX_BUFFSIZE)
    (ready : Ready settings addresses key mtu endpoint self)
    {index : Nat}
    {arrived : Option Nat}
    {event : UdpReceiveEvent Endpoint}
    (sized : ∀ size, event = .call size → size = mtu + Size)
    (notResume : event ≠ .resume)
    (performed : self.clientStep aead index arrived event = some next) :
    Ready settings addresses key mtu endpoint next := by
  obtain ⟨coroutine, stepped, rfl⟩ := Option.map_eq_some_iff.mp performed
  have now := ready.client index
  refine ready.setClient ?_
  cases event with
  | call size =>
      obtain rfl := sized size rfl
      obtain rfl := now.call stepped
      exact
        { now with
          size := fun size waits => (UdpReceivePc.waiting.inj waits).symm }
  | arrive source datagram =>
      obtain rfl := now.arrive maximum stepped
      exact { now with size := fun _ waits => by cases waits }
  | fail error =>
      obtain rfl := now.fail stepped
      exact { now with size := fun _ waits => by cases waits }
  | resume => exact (notResume rfl).elim

theorem clientReceivesOn
    (ready : Ready settings addresses key mtu endpoint self)
    {index : Nat}
    {client : SessionEnd (UdpReceiver Endpoint)}
    (on : ClientReceivesOn (self.client index).coroutine client.coroutine) :
    Ready settings addresses key mtu endpoint
      (self.setClient index client) :=
  ready.setClient ((ready.client index).receivesOn on)

/-- One more return, one more turn of the receive loop. -/
theorem written_append
    (returned : List Returned)
    (last : Returned) :
    ((returned ++ [last]).drop returned.length).filterMap
        Client.tunWrite =
      (Client.tunWrite last).toList := by
  rw [List.drop_left, List.filterMap_cons, List.filterMap_nil]
  cases Client.tunWrite last <;> rfl

/-- What the receive loop of a connection does when `Receive` returns. -/
theorem resumeClient_cases
    [DecidableEq Endpoint]
    (ready : Ready settings addresses key mtu endpoint self)
    {index : Nat}
    {failed : Bool}
    (performed : self.resumeClient aead index failed = some next) :
    ∃ error connection value client,
      (self.client index).coroutine.pc = .arrived error ∧
        (self.client index).coroutine.connection.resumeReceive aead =
          some (connection, value) ∧
        ClientReady key mtu endpoint client.coroutine ∧
        client.coroutine.pc = .idle ∧
        client.arrived = none ∧
        next =
          { self.setClient index client with
            clientWritten :=
              self.clientWritten ++
                if failed then
                  []
                else
                  (Client.tunWrite ⟨value, error,
                    connection.conn_recv_buffer.slice Size
                      value.toNat⟩).toList } := by
  have now := ready.client index
  unfold UdpSession.resumeClient at performed
  simp only at performed
  cases atResume : (self.client index).coroutine.pc with
  | idle => rw [atResume] at performed; cases performed
  | waiting size => rw [atResume] at performed; cases performed
  | arrived error =>
      obtain ⟨connection, value, received, sameKey, remote, resumes⟩ :=
        now.resume aead atResume
      let last : Returned :=
        ⟨value, error,
          connection.conn_recv_buffer.slice Size value.toNat⟩
      rw [atResume, resumes] at performed
      simp only [Option.bind_eq_bind, Option.bind_some, written_append]
        at performed
      obtain rfl := Option.some.inj performed
      refine ⟨error, connection, value,
        { self.client index with
          coroutine :=
            { (self.client index).coroutine with
              connection := connection
              pc := .idle
              returned :=
                (self.client index).coroutine.returned ++ [last] }
          receiveEnded :=
            error.isSome ||
              (!(Client.tunWrite last).toList.isEmpty && failed)
          arrived := none }, rfl, received, ?_, rfl, rfl, rfl⟩
      exact ⟨sameKey, remote, now.noFault, fun _ waits => by cases waits⟩

/-- What the receive loop does when `ReceiveFrom` returns. -/
theorem resumeServer_cases
    (ready : Ready settings addresses key mtu endpoint self)
    {failed : Bool}
    (performed : self.resumeServer aead failed = some next) :
    ∃ source server,
      self.server.coroutine.pc = .arrived source ∧
        ServerReady key mtu server.coroutine ∧
        server.coroutine.pc = .idle ∧
        server.arrived = none ∧
        next =
          { self with
            server := server
            serverWritten :=
              self.serverWritten ++
                if failed then
                  []
                else
                  (self.server.coroutine.tunWrite aead self.addresses
                    .resume).toList } := by
  unfold UdpSession.resumeServer at performed
  simp only at performed
  cases atResume : self.server.coroutine.pc with
  | idle => rw [atResume] at performed; cases performed
  | waiting size => rw [atResume] at performed; cases performed
  | arrived source =>
      rw [atResume] at performed
      simp only [Option.bind_eq_bind, Option.bind_eq_some_iff] at performed
      obtain ⟨coroutine, stepped, performed⟩ := performed
      obtain rfl := Option.some.inj performed
      obtain ⟨coroutineReady, idle⟩ :=
        ready.server.resume atResume stepped
      exact ⟨source, _, rfl, coroutineReady, idle, rfl, rfl⟩

theorem step
    [DecidableEq Endpoint]
    (maximum : mtu ≤ MAX_BUFFSIZE)
    (ready : Ready settings addresses key mtu endpoint self)
    (performed : UdpSession.step aead self event = some next) :
    Ready settings addresses key mtu endpoint next := by
  have sameMtu := ready.sameMtu
  cases event with
  | clientTun index packet draw error =>
      simp only [UdpSession.step] at performed
      split at performed
      · cases performed
      · rename_i allowed
        obtain rfl := Option.some.inj performed
        obtain ⟨client, on, _, turns⟩ :=
          self.clientTun_cases aead index packet draw error (by omega)
        rw [turns]
        exact (ready.clientReceivesOn on).congr rfl rfl rfl rfl
          ready.server
  | clientTunError index =>
      obtain rfl := Option.some.inj performed
      exact ready.setClient (ready.client index)
  | clientReceive index =>
      simp only [UdpSession.step] at performed
      split at performed
      · cases performed
      · refine ready.clientStep maximum ?_ ?_ performed
        · intro size isCall
          rw [← sameMtu]
          exact (UdpReceiveEvent.call.inj isCall).symm
        · intro isResume
          cases isResume
  | deliverToClient index datagram =>
      simp only [UdpSession.step, Option.bind_eq_bind,
        Option.bind_eq_some_iff] at performed
      obtain ⟨bytes, _, source, _, performed⟩ := performed
      refine ready.clientStep maximum ?_ ?_ performed
      · intro _ isCall
        cases isCall
      · intro isResume
        cases isResume
  | strayToClient index source datagram =>
      refine ready.clientStep maximum ?_ ?_ performed
      · intro _ isCall
        cases isCall
      · intro isResume
        cases isResume
  | clientError index error =>
      refine ready.clientStep maximum ?_ ?_ performed
      · intro _ isCall
        cases isCall
      · intro isResume
        cases isResume
  | resumeClient index failed =>
      obtain ⟨_, _, _, client, _, _, clientReady, _, _, rfl⟩ :=
        ready.resumeClient_cases performed
      exact (ready.setClient clientReady).congr rfl rfl rfl rfl
        ready.server
  | serverTun packet draw error =>
      simp only [UdpSession.step] at performed
      split at performed
      · cases performed
      · rename_i allowed
        obtain rfl := Option.some.inj performed
        obtain ⟨server, on, _, turns⟩ :=
          self.serverTun_cases aead packet draw error (by omega)
        rw [turns]
        exact ready.congr rfl rfl rfl rfl (ready.server.receivesOn on)
  | serverTunError =>
      obtain rfl := Option.some.inj performed
      exact ready.congr rfl rfl rfl rfl ready.server
  | serverReceive =>
      simp only [UdpSession.step] at performed
      split at performed
      · cases performed
      · obtain ⟨coroutine, stepped, rfl⟩ :=
          Option.map_eq_some_iff.mp performed
        rw [sameMtu] at stepped
        obtain rfl := ready.server.receiveFrom stepped
        exact ready.congr rfl rfl rfl rfl
          { ready.server with
            size := fun size waits =>
              (ReceiveFromPc.waiting.inj waits).symm }
  | deliverToServer source datagram =>
      simp only [UdpSession.step, Option.bind_eq_bind,
        Option.bind_eq_some_iff] at performed
      obtain ⟨bytes, _, performed⟩ := performed
      obtain ⟨coroutine, stepped, rfl⟩ :=
        Option.map_eq_some_iff.mp performed
      obtain rfl := ready.server.arrive maximum stepped
      exact ready.congr rfl rfl rfl rfl
        { ready.server with size := fun _ waits => by cases waits }
  | strayToServer source datagram =>
      obtain ⟨coroutine, stepped, rfl⟩ :=
        Option.map_eq_some_iff.mp performed
      obtain rfl := ready.server.arrive maximum stepped
      exact ready.congr rfl rfl rfl rfl
        { ready.server with size := fun _ waits => by cases waits }
  | serverError =>
      obtain ⟨coroutine, stepped, rfl⟩ :=
        Option.map_eq_some_iff.mp performed
      obtain rfl := ready.server.receiveError stepped
      exact ready.congr rfl rfl rfl rfl
        { ready.server with size := fun _ waits => by cases waits }
  | resumeServer failed =>
      obtain ⟨_, server, _, serverReady, _, _, rfl⟩ :=
        ready.resumeServer_cases performed
      exact ready.congr rfl rfl rfl rfl serverReady

end Ready

end Run

end UdpSession

end Dsvpn
