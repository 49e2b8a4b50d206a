import Dsvpn.FrameAuthenticity
import Dsvpn.ServerFilter

namespace Dsvpn

open ProtocolHeader

/-!
# The client's loops

The TUN loop of `Client::Reconnect` looks at a packet before it hands it to
`Send`.  The receive loop writes what `Receive` returns to the TUN device; it
looks at the returned length only.
-/

variable {Endpoint : Type}

/-- The client's settings, as `Client::Run` and its context have them. -/
structure Client where
  client_tun_ip_integer : List UInt8
  IPv6 : Bool
  deriving Repr, DecidableEq

namespace Client

/-- The checks of the TUN loop on a packet in `tun_recv_buffer`. -/
def forwardsToServer
    (self : Client)
    (tun_recv_buffer : PacketBuffer) : Bool :=
  if ip_v tun_recv_buffer ≠ 4 ∧ ip_v tun_recv_buffer ≠ 6 then
    false
  else if
      ip_v tun_recv_buffer = 4 ∧
        ip_src tun_recv_buffer ≠ self.client_tun_ip_integer then
    false
  else if ip_v tun_recv_buffer = 6 ∧ self.IPv6 = false then
    false
  else
    true

/--
One turn of the receive loop after `Receive` has returned: the packet it
writes to the TUN device, if any.  An error ends the loop.
-/
def tunWrite (returned : Returned) : Option (List UInt8) :=
  if returned.error.isSome then
    none
  else if returned.value = 0 then
    none
  else if returned.value = -1 then
    none
  else
    some returned.packet

end Client

/-- `arrived` holds the error code of the completed `async_receive_from`. -/
inductive UdpReceivePc where
  | idle
  | waiting (size : Nat)
  | arrived (error : Option ErrorCode)
  deriving Repr, DecidableEq

structure UdpReceiver (Endpoint : Type) where
  connection : UDPConnection Endpoint
  pc : UdpReceivePc
  returned : List Returned
  fault : Option Fault

inductive UdpReceiveEvent (Endpoint : Type) where
  | call (size : Nat)
  | arrive (source : Endpoint) (datagram : List UInt8)
  | fail (error : ErrorCode)
  | resume

namespace UdpReceiver

def create (connection : UDPConnection Endpoint) : UdpReceiver Endpoint where
  connection := connection
  pc := .idle
  returned := []
  fault := none

def setFault
    (self : UdpReceiver Endpoint)
    (fault : Fault) : UdpReceiver Endpoint :=
  { self with fault := some fault }

/-- The pending `async_receive_from` completes with a datagram. -/
def arrive
    (self : UdpReceiver Endpoint)
    (size : Nat)
    (source : Endpoint)
    (datagram : List UInt8) : UdpReceiver Endpoint :=
  match self.connection.asyncReceiveFrom size (some (source, datagram)) with
  | none =>
      self.setFault .outOfBounds
  | some connection =>
      { self with
        connection := connection
        pc := .arrived none }

/-- `Receive` resumes and returns, also after an error. -/
def resume
    [DecidableEq Endpoint]
    (aead : Aead 16)
    (self : UdpReceiver Endpoint)
    (error : Option ErrorCode) : UdpReceiver Endpoint :=
  match self.connection.resumeReceive aead with
  | none =>
      self.setFault .outOfBounds
  | some (connection, value) =>
      { self with
        connection := connection
        pc := .idle
        returned :=
          self.returned ++
            [⟨value, error,
              connection.conn_recv_buffer.slice Size value.toNat⟩] }

def step
    [DecidableEq Endpoint]
    (aead : Aead 16)
    (self : UdpReceiver Endpoint)
    (event : UdpReceiveEvent Endpoint) : Option (UdpReceiver Endpoint) :=
  if self.fault.isSome then
    none
  else
    match self.pc, event with
    | .idle, .call size =>
        some { self with pc := .waiting size }
    | .waiting size, .arrive source datagram =>
        some (self.arrive size source datagram)
    | .waiting _, .fail error =>
        some { self with pc := .arrived (some error) }
    | .arrived error, .resume =>
        some (self.resume aead error)
    | _, _ =>
        none

end UdpReceiver

inductive ClientTransport (Endpoint : Type) where
  | udp (receiver : UdpReceiver Endpoint)
  | tcp (receiver : TcpReceiver)

inductive ClientEvent (Endpoint : Type) where
  | udp (event : UdpReceiveEvent Endpoint)
  | tcp (event : ReceiveEvent)

namespace ClientTransport

def connection : ClientTransport Endpoint → Connection Endpoint
  | .udp receiver => .udp receiver.connection
  | .tcp receiver => .tcp receiver.connection

/-- The same coroutine with other members of its connection object. -/
def setMembers
    (members : IConnection) :
    ClientTransport Endpoint → ClientTransport Endpoint
  | .udp receiver =>
      .udp
        { receiver with
          connection :=
            { receiver.connection with toIConnection := members } }
  | .tcp receiver =>
      .tcp
        { receiver with
          connection :=
            { receiver.connection with toIConnection := members } }

/-- Everything `Receive` has returned to the receive loop. -/
def returned : ClientTransport Endpoint → List Returned
  | .udp receiver => receiver.returned
  | .tcp receiver => receiver.returned

/-- The packets the receive loop has written to the TUN device. -/
def tunWritten (self : ClientTransport Endpoint) : List (List UInt8) :=
  self.returned.filterMap Client.tunWrite

def step
    [DecidableEq Endpoint]
    (aead : Aead 16) :
    ClientTransport Endpoint → ClientEvent Endpoint →
      Option (ClientTransport Endpoint)
  | .udp receiver, .udp event => (receiver.step aead event).map .udp
  | .tcp receiver, .tcp event =>
      (TcpReceiver.step aead receiver event).map .tcp
  | _, _ => none

end ClientTransport

end Dsvpn
