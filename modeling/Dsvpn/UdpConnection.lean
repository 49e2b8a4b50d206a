import Dsvpn.IConnection

namespace Dsvpn

open ProtocolHeader

/-!
# The UDP transport

`UDPConnection` as it works on its buffers and endpoints.  The two receive
operations suspend once, in `async_receive_from`; the parts before and after
that point are separate definitions, because other coroutines run in between.
-/

namespace IConnection

/--
The body of `Receive` and `ReceiveFrom` behind the transport's read: decrypt
the header in place, then the payload.
-/
def decryptFrame
    (aead : Aead 16)
    (self : IConnection) : Option (IConnection × Int) :=
  let (header, payload_len) :=
    self.protocol.DecryptHeader aead self.conn_recv_buffer
  if payload_len = 0 then
    some ({ self with conn_recv_buffer := header }, 0)
  else do
    let (protocol, header, accepted) ←
      self.protocol.DecryptPayload aead header
    some
      ({ self with
          protocol := protocol
          conn_recv_buffer := header },
        if accepted then (PAYLOAD_LENGTH header : Int) else 0)

end IConnection

/-- A datagram handed to the socket, with its destination. -/
structure Datagram (Endpoint : Type) where
  destination : Option Endpoint
  bytes : List UInt8

/--
A default-constructed endpoint is `none`; sending to it fails.
-/
structure UDPConnection (Endpoint : Type) extends IConnection where
  last_recv_ep : Option Endpoint
  remote_send_ep : Option Endpoint

namespace UDPConnection

variable {Endpoint : Type}

def create (conn_key : List UInt8) : UDPConnection Endpoint where
  toIConnection := IConnection.create conn_key
  last_recv_ep := none
  remote_send_ep := none

def readTun
    (self : UDPConnection Endpoint)
    (packet : List UInt8) : Option (UDPConnection Endpoint) := do
  let connection ← self.toIConnection.readTun packet
  some { self with toIConnection := connection }

def Send
    (aead : Aead 16)
    (self : UDPConnection Endpoint)
    (size : Nat)
    (draw : SendDraw) :
    Option (UDPConnection Endpoint × Datagram Endpoint) := do
  let (connection, frame) ←
    self.toIConnection.encryptFrame aead size draw
  some ({ self with toIConnection := connection },
    ⟨self.remote_send_ep, frame⟩)

def SendTo
    (aead : Aead 16)
    (self : UDPConnection Endpoint)
    (size : Nat)
    (draw : SendDraw) :
    Option (UDPConnection Endpoint × Datagram Endpoint) := do
  let (connection, frame) ←
    self.toIConnection.encryptFrame aead size draw
  some ({ self with toIConnection := connection },
    ⟨self.last_recv_ep, frame⟩)

/--
`async_receive_from` into the first `size` bytes of `conn_recv_buffer`.  A
longer datagram is cut; a failed operation changes nothing.
-/
def asyncReceiveFrom
    (self : UDPConnection Endpoint)
    (size : Nat)
    (arrival : Option (Endpoint × List UInt8)) :
    Option (UDPConnection Endpoint) :=
  match arrival with
  | none =>
      some self
  | some (source, datagram) => do
      let buffer ←
        self.conn_recv_buffer.store? 0 (datagram.take size)
      some
        { self with
          conn_recv_buffer := buffer
          last_recv_ep := some source }

/-- `ReceiveFrom` from its resumption on. -/
def resumeReceiveFrom
    (aead : Aead 16)
    (self : UDPConnection Endpoint) :
    Option (UDPConnection Endpoint × Int) := do
  let (connection, result) ← self.toIConnection.decryptFrame aead
  some ({ self with toIConnection := connection }, result)

def ReceiveFrom
    (aead : Aead 16)
    (self : UDPConnection Endpoint)
    (size : Nat)
    (arrival : Option (Endpoint × List UInt8)) :
    Option (UDPConnection Endpoint × Int) := do
  let received ← self.asyncReceiveFrom size arrival
  received.resumeReceiveFrom aead

/-- `Receive` from its resumption on. -/
def resumeReceive
    [DecidableEq Endpoint]
    (aead : Aead 16)
    (self : UDPConnection Endpoint) :
    Option (UDPConnection Endpoint × Int) :=
  if self.last_recv_ep ≠ self.remote_send_ep then
    some (self, -1)
  else do
    let (connection, result) ← self.toIConnection.decryptFrame aead
    some ({ self with toIConnection := connection }, result)

def Receive
    [DecidableEq Endpoint]
    (aead : Aead 16)
    (self : UDPConnection Endpoint)
    (size : Nat)
    (arrival : Option (Endpoint × List UInt8)) :
    Option (UDPConnection Endpoint × Int) := do
  let received ← self.asyncReceiveFrom size arrival
  received.resumeReceive aead

end UDPConnection

end Dsvpn
