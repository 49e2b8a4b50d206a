import Dsvpn.Client
import Dsvpn.Handlers
import Dsvpn.UdpServer

namespace Dsvpn

open ProtocolHeader
open IpPacket

/-!
# A client, a server and the network between them

Client and server seal their frames under one key.  The network belongs to an
attacker: what arrives at either side, when, from which source and in which
pieces is up to the events of a run.  `Reconnect` makes a new connection
object while the coroutines of the old one may go on, so the client has any
number of them.

The steps run the code with the cipher restricted to the encryption calls
made so far, which is what an ideal cipher lets the attacker do: replay,
reorder, cut and splice, but not forge.
-/

variable {Endpoint : Type}

/--
A packet as the TUN device hands it over: an IPv4 or IPv6 packet has its
whole fixed header.
-/
structure TunPacket where
  bytes : List UInt8
  nonempty : 0 < bytes.length
  ipv4 : version bytes = 4 → 20 ≤ bytes.length
  ipv6 : version bytes = 6 → 40 ≤ bytes.length

inductive ServerTransport (Endpoint : Type) where
  | udp (server : UdpServer Endpoint)
  | tcp (server : TcpServer)

inductive ServerEvent (Endpoint : Type) where
  | udp (event : UdpServerEvent Endpoint)
  | tcp (event : TcpServerEvent)

/-- The TUN loop calls `SendTo`; it has an event of its own. -/
def ServerEvent.isSendTo : ServerEvent Endpoint → Bool
  | .udp (.sendTo _ _) => true
  | .tcp (.sendTo _ _) => true
  | _ => false

namespace ServerTransport

def connection : ServerTransport Endpoint → Connection Endpoint
  | .udp server => .udp server.connection
  | .tcp server => .tcp server.connection

def step
    (aead : Aead 16) :
    ServerTransport Endpoint → ServerEvent Endpoint →
      Option (ServerTransport Endpoint)
  | .udp server, .udp event => (server.step aead event).map .udp
  | .tcp server, .tcp event => (server.step aead event).map .tcp
  | _, _ => none

/--
One turn of the TUN loop.  Over TCP, `TcpServer.sendTo` makes the loop's
checks itself.
-/
def tun
    (aead : Aead 16)
    (addresses : Server)
    (packet : List UInt8)
    (draw : SendDraw) :
    ServerTransport Endpoint → Option (ServerTransport Endpoint)
  | .udp server => do
      let ready ← server.connection.readTun packet
      if addresses.forwardsToClient ready.tun_recv_buffer then
        (server.step aead (.sendTo packet draw)).map .udp
      else
        some (.udp { server with connection := ready })
  | .tcp server =>
      (server.step aead (.sendTo packet draw)).map .tcp

end ServerTransport

/--
`sends` records every call of `Send` and `SendTo` and the encryption calls it
made.
-/
structure Tunnel (Endpoint : Type) where
  settings : Client
  addresses : Server
  client : Nat → ClientTransport Endpoint
  server : ServerTransport Endpoint
  sends : List Sent

inductive TunnelEvent (Endpoint : Type) where
  | clientTun (index : Nat) (packet : TunPacket) (draw : SendDraw)
  | clientReceive (index : Nat) (event : ClientEvent Endpoint)
  | serverTun (packet : TunPacket) (draw : SendDraw)
  | serverReceive (event : ServerEvent Endpoint)

/-- The configured transport; UDP needs the server's endpoint. -/
inductive ConnProtocol (Endpoint : Type) where
  | UDP (server : Endpoint)
  | TCP

namespace Tunnel

/-- A new connection of the client, after `Connect`. -/
def connect
    (conn_key : List UInt8) :
    ConnProtocol Endpoint → ClientTransport Endpoint
  | .UDP server =>
      .udp
        (UdpReceiver.create
          { UDPConnection.create conn_key with
            remote_send_ep := some server })
  | .TCP =>
      .tcp
        (TcpReceiver.create
          { TCPConnection.create conn_key with conn_socket := some 0 })

/-- Client and server with one `conn_key` and the same tunnel addresses. -/
def create
    (conn_key : List UInt8)
    (addresses : Server)
    (IPv6 : Bool)
    (protocol : ConnProtocol Endpoint) : Tunnel Endpoint where
  settings := ⟨addresses.client_tun_ip_integer, IPv6⟩
  addresses := addresses
  client := fun _ => connect conn_key protocol
  server :=
    match protocol with
    | .UDP _ => .udp (UdpServer.create conn_key)
    | .TCP => .tcp (TcpServer.create conn_key addresses)
  sends := []

/-- The encryption calls made so far, by either side. -/
def calls (self : Tunnel Endpoint) : List Aead.Call :=
  self.sends.flatMap Sent.calls

/-- The packets the server's TUN loop has handed to `SendTo`. -/
def handedToSendTo (self : Tunnel Endpoint) : List (List UInt8) :=
  (self.sends.filter fun sent => sent.request.path = .sendTo).map
    fun sent => sent.request.packet

def setClient
    (self : Tunnel Endpoint)
    (index : Nat)
    (transport : ClientTransport Endpoint) : Tunnel Endpoint :=
  { self with client := Function.update self.client index transport }

/-- One turn of the client's TUN loop, on one of its connections. -/
def clientTun
    (aead : Aead 16)
    (self : Tunnel Endpoint)
    (index : Nat)
    (packet : TunPacket)
    (draw : SendDraw) : Option (Tunnel Endpoint) := do
  let transport := self.client index
  let before := transport.connection
  let ready ← before.members.readTun packet.bytes
  if self.settings.forwardsToServer ready.tun_recv_buffer then
    let request : SendRequest :=
      ⟨index + 1, .send, packet.bytes, draw⟩
    let (after, frame) ← before.send aead request
    some
      { self.setClient index (transport.setMembers after.members) with
        sends :=
          self.sends ++
            [{ request := request
               frame := frame
               calls :=
                after.protocol.calls.drop
                  before.protocol.calls.length }] }
  else
    some (self.setClient index (transport.setMembers ready))

/-- One turn of the server's TUN loop. -/
def serverTun
    (aead : Aead 16)
    (self : Tunnel Endpoint)
    (packet : TunPacket)
    (draw : SendDraw) : Option (Tunnel Endpoint) := do
  let before := self.server.connection
  let ready ← before.members.readTun packet.bytes
  let server ←
    self.server.tun aead self.addresses packet.bytes draw
  if self.addresses.forwardsToClient ready.tun_recv_buffer then
    let request : SendRequest := ⟨0, .sendTo, packet.bytes, draw⟩
    let (after, frame) ← before.send aead request
    some
      { self with
        server := server
        sends :=
          self.sends ++
            [{ request := request
               frame := frame
               calls :=
                after.protocol.calls.drop
                  before.protocol.calls.length }] }
  else
    some { self with server := server }

def step
    [DecidableEq Endpoint]
    (cipher : Aead 16)
    (self : Tunnel Endpoint)
    (event : TunnelEvent Endpoint) : Option (Tunnel Endpoint) :=
  let aead := cipher.restrict self.calls
  match event with
  | .clientTun index packet draw =>
      self.clientTun aead index packet draw
  | .clientReceive index event =>
      ((self.client index).step aead event).map (self.setClient index)
  | .serverTun packet draw =>
      self.serverTun aead packet draw
  | .serverReceive event =>
      if event.isSendTo then
        none
      else
        (self.server.step aead event).map fun server =>
          { self with server := server }

end Tunnel

theorem IConnection.decryptFrame_key
    {aead : Aead 16}
    {self result : IConnection}
    {value : Int}
    (decoded : self.decryptFrame aead = some (result, value)) :
    result.protocol.key = self.protocol.key := by
  unfold IConnection.decryptFrame at decoded
  simp only at decoded
  split at decoded
  · simp only [Option.some.injEq, Prod.mk.injEq] at decoded
    obtain ⟨rfl, _⟩ := decoded
    rfl
  · simp only [Option.bind_eq_bind, Option.bind_eq_some_iff,
      Prod.exists, Option.some.injEq, Prod.mk.injEq] at decoded
    obtain ⟨protocol, final, accepted, opened, rfl, _⟩ := decoded
    exact Protocol.DecryptPayload_key opened

/-- Staging a packet changes the TUN buffer only, which then holds it. -/
theorem IConnection.readTun_staged
    {self ready : IConnection}
    {packet : List UInt8}
    (staged : self.readTun packet = some ready) :
    ∃ buffer,
      ready = { self with tun_recv_buffer := buffer } ∧
        buffer.slice Size packet.length = packet := by
  simp only [IConnection.readTun, Option.bind_eq_bind,
    Option.bind_eq_some_iff, Buffer.store?_eq_some_iff,
    Option.some.injEq] at staged
  obtain ⟨buffer, ⟨inside, rfl⟩, rfl⟩ := staged
  exact ⟨_, rfl, Buffer.slice_overwrite_same _ _ _ inside⟩

namespace UdpServer

theorem step_key
    {aead : Aead 16}
    {self next : UdpServer Endpoint}
    {event : UdpServerEvent Endpoint}
    (performed : step aead self event = some next) :
    next.connection.protocol.key = self.connection.protocol.key := by
  rcases step_cases performed with
      ⟨size, _, rfl⟩ | ⟨size, source, datagram, _, rfl⟩ |
      ⟨_, rfl⟩ | ⟨source, _, _, rfl⟩ | ⟨packet, draw, _, rfl⟩
  · rfl
  · unfold arrive
    split
    · rfl
    · rename_i received arrived
      rw [UDPConnection.asyncReceiveFrom_key arrived]
  · rfl
  · unfold resume
    split
    · rfl
    · rename_i connection value resumed
      simp only [UDPConnection.resumeReceiveFrom, Option.bind_eq_bind,
        Option.bind_eq_some_iff, Prod.exists, Option.some.injEq,
        Prod.mk.injEq] at resumed
      obtain ⟨decoded, _, decodes, rfl, _⟩ := resumed
      have same := IConnection.decryptFrame_key decodes
      simp only
      split
      · exact same
      · split <;> exact same
  · unfold sendTo
    split
    · rfl
    · rename_i ready staged
      split
      · rfl
      · rename_i connection datagram sends
        have performed :
            (Connection.udp self.connection).send aead
                ⟨0, .sendTo, packet, draw⟩ =
              some (.udp connection, some datagram.bytes) := by
          simp only [Connection.send, staged, Option.bind_eq_bind,
            Option.bind_some, sends]
        exact (Connection.send_effect performed).1

end UdpServer

namespace TcpServer

/-- The key of the connection object. -/
def key (self : TcpServer) : List UInt8 :=
  self.connection.protocol.key

section

variable
    {aead : Aead 16}
    {self next : TcpServer}

/-- The handlers do not touch the key. -/
theorem key_kept (key : List UInt8) :
    KeptByReturning (fun next : TcpServer => next.key = key) where
  setPointers := fun _ _ members same =>
    (congrArg (fun members => members.protocol.key) members).trans same
  finish := fun _ _ same => same
  wake := fun same => same
  abort := fun _ same => same
  shut := fun _ same => same
  record := fun _ _ same => same
  nullDereference := fun same => same
  setReceiveLoop := fun _ _ same => same
  recordReturned := fun _ same => same
  endReceiveLoop := fun same => same

theorem sendTo_key
    (packet : List UInt8)
    (draw : SendDraw) :
    (self.sendTo aead packet draw).key = self.key := by
  obtain ⟨_, _, _, changed, same, _⟩ :=
    sendTo_changes aead self packet draw
  rw [changed]
  exact same

theorem step_key
    {event : TcpServerEvent}
    (performed : step aead self event = some next) :
    next.key = self.key := by
  obtain ⟨_, transition⟩ := step_transition performed
  cases transition with
  | resumeTryHeader reading _ =>
      exact (key_kept self.key).resumeTryHeader (by simp [reading]) _
        rfl (fun _ => rfl) fun _ _ => rfl
  | resumeTryPayload reading _ =>
      exact (key_kept self.key).resumeTryPayload (by simp [reading]) _ _
        (fun same => same) rfl
        fun _ _ opens => Protocol.DecryptPayload_key opens
  | wake => exact (key_kept self.key).receiveFrom rfl
  | resumeHeader =>
      exact (key_kept self.key).resumeHeader _ _ _ rfl fun _ _ => rfl
  | resumePayload =>
      exact (key_kept self.key).resumePayload _ _ _ rfl
        fun _ opens _ => Protocol.DecryptPayload_key opens
  | tunWritten failed =>
      cases failed with
      | false => exact (key_kept self.key).receiveFrom rfl
      | true => rfl
  | sendTo packet draw => exact sendTo_key packet draw
  | resumeSendTo => exact (key_kept self.key).resumeSendTo _ _ rfl
  | close => exact (key_kept self.key).close rfl
  | _ => rfl

end

end TcpServer

namespace ServerTransport

theorem step_key
    {aead : Aead 16}
    {self next : ServerTransport Endpoint}
    {event : ServerEvent Endpoint}
    (performed : self.step aead event = some next) :
    next.connection.protocol.key = self.connection.protocol.key := by
  cases self with
  | udp server =>
      cases event with
      | udp event =>
          obtain ⟨after, steps, rfl⟩ := Option.map_eq_some_iff.mp performed
          exact UdpServer.step_key steps
      | tcp event => cases performed
  | tcp server =>
      cases event with
      | udp event => cases performed
      | tcp event =>
          obtain ⟨after, steps, rfl⟩ := Option.map_eq_some_iff.mp performed
          exact TcpServer.step_key steps

theorem tun_key
    {aead : Aead 16}
    {addresses : Server}
    {packet : List UInt8}
    {draw : SendDraw}
    {self next : ServerTransport Endpoint}
    (performed : self.tun aead addresses packet draw = some next) :
    next.connection.protocol.key = self.connection.protocol.key := by
  cases self with
  | udp server =>
      simp only [tun, UDPConnection.readTun, Option.bind_eq_bind,
        Option.bind_eq_some_iff, Option.some.injEq] at performed
      obtain ⟨_, ⟨members, stages, rfl⟩, performed⟩ := performed
      obtain ⟨buffer, rfl, _⟩ := IConnection.readTun_staged stages
      split at performed
      · obtain ⟨after, steps, rfl⟩ := Option.map_eq_some_iff.mp performed
        exact UdpServer.step_key steps
      · obtain rfl := Option.some.inj performed
        rfl
  | tcp server =>
      obtain ⟨after, steps, rfl⟩ := Option.map_eq_some_iff.mp performed
      exact TcpServer.step_key steps

end ServerTransport

end Dsvpn
