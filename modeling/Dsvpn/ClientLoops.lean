import Dsvpn.DataPath
import Dsvpn.TcpClient

namespace Dsvpn

open ProtocolHeader

/-!
# The client's two loops on one connection

The TUN loop reads, filters and sends; the receive loop receives and writes.
Both work on one connection object and take turns wherever one of them waits:
for the device, for the network, or in the middle of a write.  What a
pending write takes, it takes from the buffer at that moment.
-/

variable {Endpoint : Type}

/-- Where the bytes of a write go. -/
inductive Peer (Endpoint : Type) where
  | endpoint (destination : Option Endpoint)
  | socket (socket : SocketId)
  deriving Repr, DecidableEq

/-- `sent` of the `size` bytes of the frame have left the TUN buffer. -/
inductive TunLoopPc (Endpoint : Type) where
  | reading
  | read (bytes_read : Nat)
  | sending (peer : Peer Endpoint) (size sent : Nat)
  deriving Repr, DecidableEq

inductive ClientReceiveLoopPc where
  | receiving
  | writing (bytes_read : Nat)
  | written
  | ended
  deriving Repr, DecidableEq

namespace ClientTransport

/-- `Receive` is not in progress. -/
def idle : ClientTransport Endpoint → Bool
  | .udp receiver => receiver.pc = .idle
  | .tcp receiver => receiver.pc = .idle

def fault : ClientTransport Endpoint → Option Fault
  | .udp receiver => receiver.fault
  | .tcp receiver => receiver.fault

def setFault
    (fault : Fault) :
    ClientTransport Endpoint → ClientTransport Endpoint
  | .udp receiver => .udp (receiver.setFault fault)
  | .tcp receiver => .tcp (receiver.setFault fault)

/-- The call of `Receive`, up to its first suspension. -/
def Receive
    (size : Nat) :
    ClientTransport Endpoint → ClientTransport Endpoint
  | .udp receiver => .udp { receiver with pc := .waiting size }
  | .tcp receiver => .tcp receiver.Receive

/-- `Send` up to its write: the peer and the length of the frame. -/
def Send
    (aead : Aead 16)
    (self : ClientTransport Endpoint)
    (size : Nat)
    (draw : SendDraw) :
    Except Fault (ClientTransport Endpoint × Peer Endpoint × Nat) :=
  match self with
  | .udp receiver =>
      match receiver.connection.Send aead size draw with
      | none =>
          .error .outOfBounds
      | some (connection, datagram) =>
          .ok
            (.udp { receiver with connection := connection },
              .endpoint datagram.destination, datagram.bytes.length)
  | .tcp receiver =>
      match receiver.connection.Send aead size draw with
      | .error fault =>
          .error fault
      | .ok (connection, socket, frame) =>
          .ok
            (.tcp { receiver with connection := connection },
              .socket socket, frame.length)

/-- A datagram leaves as a whole, a stream in pieces. -/
def Takes
    (self : ClientTransport Endpoint)
    (size sent length : Nat) : Bool :=
  match self with
  | .udp _ => sent = 0 && 0 < size && length = size
  | .tcp _ => 0 < length && sent + length ≤ size

/-- After `Connect` over UDP. -/
def connectUdp
    (conn_key : List UInt8)
    (server : Endpoint) : ClientTransport Endpoint :=
  .udp
    (UdpReceiver.create
      { UDPConnection.create conn_key with
        remote_send_ep := some server })

/-- After `Connect` over TCP. -/
def connectTcp (conn_key : List UInt8) : ClientTransport Endpoint :=
  .tcp (TcpReceiver.create ((TCPConnection.create conn_key).Connect 0))

end ClientTransport

/-- `fault` is a fault of the TUN loop; `Receive` has its own. -/
structure ClientLoops (Endpoint : Type) where
  settings : Client
  platform : Platform
  mtu : Nat
  transport : ClientTransport Endpoint
  tunLoop : TunLoopPc Endpoint
  sent : List (Peer Endpoint × List UInt8)
  receiveLoop : ClientReceiveLoopPc
  tunWritten : List (List UInt8)
  fault : Option Fault

/--
What can happen next; neither the device nor the network fails a write.  The
random draw of a frame comes with the event that builds it.
-/
inductive ClientLoopsEvent (Endpoint : Type) where
  | tunRead (bytes : List UInt8)
  | resumeRead (draw : SendDraw)
  | transmit (length : Nat)
  | resumeSend
  | receive (event : ClientEvent Endpoint)
  | tunWrite
  | resumeWrite

/-- The turns of the TUN loop. -/
def ClientLoopsEvent.isTunLoop : ClientLoopsEvent Endpoint → Bool
  | .tunRead _ => true
  | .resumeRead _ => true
  | .transmit _ => true
  | .resumeSend => true
  | .receive _ => false
  | .tunWrite => false
  | .resumeWrite => false

namespace ClientLoops

/-- The pending `Read` completes; it takes no more than it has room for. -/
def tunRead
    (self : ClientLoops Endpoint)
    (bytes : List UInt8) : ClientLoops Endpoint :=
  let read :=
    bytes.take ((self.mtu + TUN_PACKET_HL self.platform) % 2 ^ 32)
  match
      self.transport.connection.members.tun_recv_buffer.store?
        (Size - TUN_PACKET_HL self.platform) read with
  | none =>
      { self with fault := some .outOfBounds }
  | some buffer =>
      { self with
        transport :=
          self.transport.setMembers
            { self.transport.connection.members with
              tun_recv_buffer := buffer }
        tunLoop := .read read.length }

/-- The loop filters the packet, and either sends it or reads again. -/
def resumeRead
    (aead : Aead 16)
    (self : ClientLoops Endpoint)
    (bytes_read : Nat)
    (draw : SendDraw) : ClientLoops Endpoint :=
  if self.settings.forwardsToServer
      self.transport.connection.members.tun_recv_buffer then
    match
        self.transport.Send aead
          ((bytes_read + 2 ^ 64 - TUN_PACKET_HL self.platform) % 2 ^ 64)
          draw with
    | .error fault =>
        { self with fault := some fault }
    | .ok (transport, peer, size) =>
        { self with
          transport := transport
          tunLoop := .sending peer size 0 }
  else
    { self with tunLoop := .reading }

/-- The network takes the next bytes of the pending write. -/
def transmit
    (self : ClientLoops Endpoint)
    (peer : Peer Endpoint)
    (size sent length : Nat) : ClientLoops Endpoint :=
  match
      self.transport.connection.members.tun_recv_buffer.load?
        sent length with
  | none =>
      { self with fault := some .outOfBounds }
  | some bytes =>
      { self with
        tunLoop := .sending peer size (sent + length)
        sent := self.sent ++ [(peer, bytes)] }

def stepTunLoop
    (aead : Aead 16)
    (self : ClientLoops Endpoint)
    (event : ClientLoopsEvent Endpoint) :
    Option (ClientLoops Endpoint) :=
  match self.tunLoop, event with
  | .reading, .tunRead bytes =>
      some (self.tunRead bytes)
  | .read bytes_read, .resumeRead draw =>
      some (self.resumeRead aead bytes_read draw)
  | .sending peer size sent, .transmit length =>
      if self.transport.Takes size sent length then
        some (self.transmit peer size sent length)
      else
        none
  | .sending _ size sent, .resumeSend =>
      if sent = size then
        some { self with tunLoop := .reading }
      else
        none
  | _, _ =>
      none

/-- The loop calls `Receive`. -/
def receive (self : ClientLoops Endpoint) : ClientLoops Endpoint :=
  { self with
    transport := self.transport.Receive ((self.mtu + Size) % 2 ^ 32)
    receiveLoop := .receiving }

/-- The loop up to its write to the device. -/
def writeTun
    (self : ClientLoops Endpoint)
    (bytes_read : Nat) : ClientLoops Endpoint :=
  let members := self.transport.connection.members
  match self.platform with
  | .linux =>
      { self with receiveLoop := .writing bytes_read }
  | .apple =>
      { self with
        transport :=
          self.transport.setMembers
            { members with
              conn_recv_buffer :=
                members.conn_recv_buffer.overwrite
                  (Size - TUN_PACKET_HL .apple)
                  (Client.deviceWord members.conn_recv_buffer) }
        receiveLoop := .writing bytes_read }

/-- `Receive` has gone on, up to its next suspension or its return. -/
def received
    (self : ClientLoops Endpoint)
    (transport : ClientTransport Endpoint) : ClientLoops Endpoint :=
  let after := { self with transport := transport }
  match transport.idle, transport.returned.getLast? with
  | true, some result =>
      if result.error.isSome then
        { after with receiveLoop := .ended }
      else
        match Client.tunWrite result with
        | none => after.receive
        | some _ => after.writeTun result.value.toNat
  | _, _ => after

/-- The device takes the packet of the pending write. -/
def tunWrite
    (self : ClientLoops Endpoint)
    (bytes_read : Nat) : ClientLoops Endpoint :=
  match
      self.transport.connection.members.conn_recv_buffer.load?
        (Size - TUN_PACKET_HL self.platform)
        (bytes_read + TUN_PACKET_HL self.platform) with
  | none =>
      { self with
        transport := self.transport.setFault .outOfBounds }
  | some bytes =>
      { self with
        receiveLoop := .written
        tunWritten := self.tunWritten ++ [bytes] }

def stepReceiveLoop
    [DecidableEq Endpoint]
    (aead : Aead 16)
    (self : ClientLoops Endpoint)
    (event : ClientLoopsEvent Endpoint) :
    Option (ClientLoops Endpoint) :=
  match self.receiveLoop, event with
  | .receiving, .receive event =>
      (self.transport.step aead event).map self.received
  | .writing bytes_read, .tunWrite =>
      some (self.tunWrite bytes_read)
  | .written, .resumeWrite =>
      some self.receive
  | _, _ =>
      none

def step
    [DecidableEq Endpoint]
    (aead : Aead 16)
    (self : ClientLoops Endpoint)
    (event : ClientLoopsEvent Endpoint) :
    Option (ClientLoops Endpoint) :=
  if self.fault.isSome || self.transport.fault.isSome then
    none
  else if event.isTunLoop then
    self.stepTunLoop aead event
  else
    self.stepReceiveLoop aead event

/-- `Reconnect` has connected, and each loop has run to its first wait. -/
def start
    (settings : Client)
    (platform : Platform)
    (mtu : Nat)
    (transport : ClientTransport Endpoint) : ClientLoops Endpoint :=
  receive
    { settings := settings
      platform := platform
      mtu := mtu
      transport := transport
      tunLoop := .reading
      sent := []
      receiveLoop := .receiving
      tunWritten := []
      fault := none }

end ClientLoops

end Dsvpn
