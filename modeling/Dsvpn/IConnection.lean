import Dsvpn.Protocol

namespace Dsvpn

open ProtocolHeader

/-!
# The members every connection shares

`IConnection` owns the two packet buffers and the protocol object.  The send
operations of both transports build their frame in the same way, in place in
`tun_recv_buffer`; `encryptFrame` is that common part.
-/

/--
What goes wrong at run time: an access outside an array, a use of a null
socket pointer, or an exception that leaves a coroutine.
-/
inductive Fault where
  | outOfBounds
  | nullDereference
  | uncaughtException
  deriving Repr, DecidableEq

structure IConnection where
  protocol : Protocol
  tun_recv_buffer : PacketBuffer
  conn_recv_buffer : PacketBuffer

namespace IConnection

def create (conn_key : List UInt8) : IConnection where
  protocol := Protocol.create conn_key
  tun_recv_buffer := ⟨fun _ => 0⟩
  conn_recv_buffer := ⟨fun _ => 0⟩

/-- A packet is read from the TUN device to `GetTunBuffer()`. -/
def readTun
    (self : IConnection)
    (packet : List UInt8) : Option IConnection := do
  let buffer ← self.tun_recv_buffer.store? Size packet
  some { self with tun_recv_buffer := buffer }

/--
The body of `Send` and `SendTo` up to the transport's write: set the two
lengths, encrypt the payload, encrypt the lengths, and hand the header and
what follows it to the transport.
-/
def encryptFrame
    (aead : Aead 16)
    (self : IConnection)
    (size : Nat)
    (draw : SendDraw) : Option (IConnection × List UInt8) := do
  let header := self.tun_recv_buffer.overwrite 44 (word32 size)
  let header := header.overwrite 48 (word32 0)
  let (protocol, header) ← self.protocol.EncryptPayload aead header draw
  let (protocol, header, payload_len) :=
    protocol.EncryptHeader aead header
  let frame ← header.load? 0 ((payload_len + Size) % 2 ^ 32)
  some
    ({ self with
        protocol := protocol
        tun_recv_buffer := header },
      frame)

end IConnection

end Dsvpn
