import Dsvpn.AsyncRead
import Dsvpn.IConnection

namespace Dsvpn

/-!
# The TCP transport: members and send operations

A socket is named by a number; a null `shared_ptr` is `none`.
-/

abbrev SocketId := Nat

structure TCPConnection extends IConnection where
  tcp_acceptor_open : Bool
  conn_socket : Option SocketId
  replace_socket : Option SocketId
  stopped : Bool
  selected : Bool
  async_tasks_running : Nat

namespace TCPConnection

def create (conn_key : List UInt8) : TCPConnection where
  toIConnection := IConnection.create conn_key
  tcp_acceptor_open := false
  conn_socket := none
  replace_socket := none
  stopped := false
  selected := false
  async_tasks_running := 0

/-- A packet is read from the TUN device to `GetTunBuffer()`. -/
def readTun
    (self : TCPConnection)
    (packet : List UInt8) : Option TCPConnection := do
  let connection ← self.toIConnection.readTun packet
  some { self with toIConnection := connection }

/--
`Send` up to the start of `async_write`: the socket and the bytes to write.
The frame is built at `GetTunBuffer()`, whatever buffer was passed.
-/
def Send
    (aead : Aead 16)
    (self : TCPConnection)
    (size : Nat)
    (draw : SendDraw) :
    Except Fault (TCPConnection × SocketId × List UInt8) :=
  match self.toIConnection.encryptFrame aead size draw with
  | none =>
      .error .outOfBounds
  | some (connection, frame) =>
      match self.conn_socket with
      | none =>
          .error .nullDereference
      | some socket =>
          .ok ({ self with toIConnection := connection }, socket, frame)

/--
`SendTo` up to the start of `async_write`.  Without a selected connection the
packet is dropped.
-/
def SendTo
    (aead : Aead 16)
    (self : TCPConnection)
    (size : Nat)
    (draw : SendDraw) :
    Except Fault (TCPConnection × Option (SocketId × List UInt8)) :=
  if self.selected then
    match self.Send aead size draw with
    | .error fault =>
        .error fault
    | .ok (connection, socket, frame) =>
        .ok (connection, some (socket, frame))
  else
    .ok (self, none)

end TCPConnection

end Dsvpn
