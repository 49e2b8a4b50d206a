import Dsvpn.Orderly
import Dsvpn.ServerStream

namespace Dsvpn

open ProtocolHeader

/-!
# What the handlers are made of

Every handler of the server is a sequence of a few updates of the state.  A
property that each of them keeps is kept by the handlers, so an argument about
a handler only looks at the updates that matter to it.
-/

namespace TcpServer

/-- `DecryptHeader` has worked on the receive buffer. -/
def openHeader (aead : Aead 16) (self : TcpServer) : TcpServer :=
  self.setBuffer
    (self.connection.protocol.DecryptHeader aead
      self.connection.conn_recv_buffer).1

/-- `DecryptPayload` has worked on the receive buffer. -/
def openPayload
    (self : TcpServer)
    (protocol : Protocol)
    (header : PacketBuffer) : TcpServer :=
  { self with
    connection :=
      { self.connection with
        protocol := protocol
        conn_recv_buffer := header } }

/--
Each update of the accept handlers, of `SendTo` after its write and of `Close`
keeps the property.  An exception is not among the updates, and an access
outside an array never happens in these handlers.
-/
structure KeptByUpdates (Property : TcpServer → Prop) : Prop where
  setPointers :
    ∀ {server} connection acceptor,
      connection.toIConnection = server.connection.toIConnection →
      Property server →
      Property
        { server with connection := connection, acceptor := acceptor }
  finish :
    ∀ {server} socket,
      server.tryReceive socket ≠ .finished →
      Property server →
      Property (setTryReceive socket .finished server)
  wake :
    ∀ {server},
      Property server →
      Property (setReceiveLoop server.receiveLoop.wake server)
  abort :
    ∀ {server} socket, Property server → Property (server.abort socket)
  shut :
    ∀ {server} socket, Property server → Property (server.shut socket)
  record :
    ∀ {server} action,
      action.returned? = none →
      Property server →
      Property (server.record action)
  nullDereference :
    ∀ {server},
      Property server →
      Property (server.setFault .nullDereference)

/-- The updates of `ReceiveFrom` up to its return keep the property too. -/
structure KeptByReceiving (Property : TcpServer → Prop) : Prop
    extends KeptByUpdates Property where
  setReceiveLoop :
    ∀ {server} pc,
      pc ≠ .ended →
      Property server →
      Property (setReceiveLoop pc server)

/-- So do a return of `ReceiveFrom` and the end of the receive loop. -/
structure KeptByReturning (Property : TcpServer → Prop) : Prop
    extends KeptByReceiving Property where
  recordReturned :
    ∀ {server} result,
      Property server →
      Property (server.record (.returned result))
  endReceiveLoop :
    ∀ {server}, Property server → Property server.endReceiveLoop

section

variable
    {aead : Aead 16}
    {Property : TcpServer → Prop}
    {self : TcpServer}

namespace KeptByUpdates

theorem closeSocket
    (kept : KeptByUpdates Property)
    (socket : SocketId)
    (holds : Property self) :
    Property (self.closeSocket socket) :=
  kept.record _ rfl (kept.shut socket (kept.abort socket holds))

theorem drop
    (kept : KeptByUpdates Property)
    (socket : Option SocketId)
    (holds : Property self) :
    Property (self.drop socket) := by
  cases socket with
  | none => exact holds
  | some socket =>
      exact kept.record _ rfl (kept.shut socket (kept.abort socket holds))

theorem cancel
    (kept : KeptByUpdates Property)
    (socket : SocketId)
    (holds : Property self) :
    Property (self.cancel socket) :=
  kept.record _ rfl (kept.abort socket holds)

theorem giveUp
    (kept : KeptByUpdates Property)
    {socket : SocketId}
    (active : self.tryReceive socket ≠ .finished)
    (holds : Property self) :
    Property (self.giveUp socket) :=
  kept.finish socket active (kept.shut socket holds)

/-- The choice, from where the handshake has finished on. -/
theorem chosen
    (kept : KeptByUpdates Property)
    {socket : SocketId}
    {authenticated : Bool}
    (thrown :
      ∀ {server},
        Property server →
        Property (server.setFault .uncaughtException))
    (chosen :
      Property
        (setTryReceive socket .finished
          (self.record (.chosen socket authenticated)))) :
    Property (self.choose socket authenticated) := by
  have queued : Property (self.queueReplacement socket authenticated) :=
    kept.drop self.connection.replace_socket
      (kept.setPointers
        { self.connection with replace_socket := some socket }
        self.acceptor (by rfl) chosen)
  apply choose_rule
  case first =>
    intro _
    have woken := kept.wake chosen
    exact kept.drop self.connection.conn_socket
      (kept.setPointers
        { self.connection with
          selected := true
          conn_socket := some socket }
        self.acceptor (by rfl) woken)
  case null =>
    intro _ _
    exact kept.nullDereference queued
  case cancelled =>
    intro current _ _ _
    exact kept.cancel _ queued
  case thrown =>
    intro current _ _ _
    exact thrown queued

theorem choose
    (kept : KeptByUpdates Property)
    {socket : SocketId}
    (active : self.tryReceive socket ≠ .finished)
    (authenticated : Bool)
    (thrown :
      ∀ {server},
        Property server →
        Property (server.setFault .uncaughtException))
    (holds : Property self) :
    Property (self.choose socket authenticated) :=
  kept.chosen thrown
    (kept.finish socket (by exact active)
      (kept.record (.chosen socket authenticated) rfl holds))

/-- From the header read on, given what `DecryptHeader` and the read do. -/
theorem resumeTryHeader
    (kept : KeptByUpdates Property)
    {socket : SocketId}
    (active : self.tryReceive socket ≠ .finished)
    (bytes_read : Nat)
    (holds : Property self)
    (opened : bytes_read ≠ 0 → Property (self.openHeader aead))
    (reading :
      bytes_read ≠ 0 →
      ∀ op, Property
        (setTryReceive socket (.readPayload op)
          (self.openHeader aead))) :
    Property (self.resumeTryHeader aead socket bytes_read) := by
  unfold TcpServer.resumeTryHeader
  split
  · exact kept.giveUp active holds
  · rename_i something
    simp only
    split
    · exact kept.giveUp (by exact active) (opened something)
    · exact reading something _

/-- From the payload read on, given what `DecryptPayload` does. -/
theorem resumeTryPayload
    (kept : KeptByUpdates Property)
    {socket : SocketId}
    (active : self.tryReceive socket ≠ .finished)
    (bytes_read : Nat)
    (error : Option ErrorCode)
    (thrown :
      ∀ {server},
        Property server →
        Property (server.setFault .uncaughtException))
    (holds : Property self)
    (opened :
      ∀ {protocol header accepted},
        error = none →
        bytes_read ≠ 0 →
        self.connection.protocol.DecryptPayload aead
            self.connection.conn_recv_buffer =
          some (protocol, header, accepted) →
        Property (self.openPayload protocol header)) :
    Property (self.resumeTryPayload aead socket bytes_read error) := by
  apply resumeTryPayload_rule
  case thrown => exact thrown holds
  case nothing =>
    intro _ _
    exact kept.giveUp active holds
  case outside =>
    intro outside
    exact (Protocol.DecryptPayload_ne_none outside).elim
  case chosen =>
    intro protocol header accepted complete something opens _ _
    exact kept.choose (by exact active) accepted thrown
      (opened complete something opens)
  case unreached =>
    intro protocol header accepted complete something opens
    exact thrown (opened complete something opens)

/-- `SendTo` after its write, given that the end of the write is fine. -/
theorem resumeSendTo
    (kept : KeptByUpdates Property)
    (writing : SocketId)
    (error : Option ErrorCode)
    (returned : Property { self with sendLoop := .readTun }) :
    Property (self.resumeSendTo writing error) := by
  have failed := kept.record (.writeFailed writing) rfl returned
  apply resumeSendTo_rule
  case returned => exact returned
  case stopped =>
    intro _ _
    exact failed
  case null =>
    intro _ _ _
    exact kept.nullDereference failed
  case deselected =>
    intro socket _ _ _
    exact kept.setPointers
      { self.connection with selected := false } self.acceptor
      (by rfl)
      (kept.record (.deselected socket) rfl (kept.cancel socket failed))

theorem close
    (kept : KeptByUpdates Property)
    (holds : Property self) :
    Property self.close := by
  have refusing : Property self.refuseConnections :=
    kept.setPointers
      { self.connection with tcp_acceptor_open := false }
      (if self.acceptor = .waiting then .ended else self.acceptor)
      rfl holds
  apply close_rule
  case refused => exact refusing
  case null =>
    intro _ _
    exact kept.nullDereference refusing
  case closed =>
    intro socket _ _
    exact kept.setPointers
      { self.connection with
        tcp_acceptor_open := false
        conn_socket := none
        selected := false
        stopped := true }
      (if self.acceptor = .waiting then .ended else self.acceptor)
      (by rfl) (kept.closeSocket socket refusing)

end KeptByUpdates

namespace KeptByReceiving

theorem receiveFrom
    (kept : KeptByReceiving Property)
    (holds : Property self) :
    Property self.receiveFrom := by
  apply receiveFrom_rule
  case null =>
    intro _ _
    exact kept.nullDereference holds
  case reads =>
    intro socket _ _
    exact kept.setReceiveLoop _ nofun holds
  case sleeps =>
    intro _
    exact kept.setReceiveLoop _ nofun holds

theorem loseConnection
    (kept : KeptByReceiving Property)
    (holds : Property self) :
    Property self.loseConnection := by
  apply loseConnection_rule
  case null =>
    intro _
    exact kept.nullDereference holds
  case alone =>
    intro socket _ _
    exact kept.receiveFrom
      (kept.setPointers _ (self.closeSocket socket).acceptor
        (by rfl) (kept.closeSocket socket holds))
  case replaced =>
    intro socket replacement _ _
    exact kept.receiveFrom
      (kept.setPointers _ (self.closeSocket socket).acceptor
        (by rfl) (kept.closeSocket socket holds))

/-- A header read that completed without an error. -/
theorem resumeHeader
    (kept : KeptByReceiving Property)
    (reading : SocketId)
    (bytes_read : Nat)
    (holds : Property self)
    (opened : bytes_read ≠ 0 → Property (self.openHeader aead)) :
    Property (self.resumeHeader aead reading bytes_read none) := by
  unfold TcpServer.resumeHeader
  rw [if_neg (by simp)]
  split
  · exact kept.receiveFrom holds
  · rename_i something
    have after := opened something
    simp only
    split
    · exact kept.receiveFrom after
    · split
      · exact kept.nullDereference after
      · refine kept.setReceiveLoop _ ?_ after
        nofun

end KeptByReceiving

namespace KeptByReturning

theorem returnFrom
    (kept : KeptByReturning Property)
    (bytes_read : Int)
    (error : Option ErrorCode)
    (holds : Property self) :
    Property (self.returnFrom bytes_read error) := by
  have returned :=
    kept.recordReturned
      ⟨bytes_read, error,
        self.connection.conn_recv_buffer.slice Size bytes_read.toNat⟩
      holds
  refine returnFrom_rule returned kept.endReceiveLoop kept.receiveFrom ?_
  intro state packet held
  have written := kept.record (.tunWritten packet) rfl held
  refine kept.setReceiveLoop _ ?_ written
  nofun

theorem resumeHeader
    (kept : KeptByReturning Property)
    (reading : SocketId)
    (bytes_read : Nat)
    (error : Option ErrorCode)
    (holds : Property self)
    (opened :
      error = none →
      bytes_read ≠ 0 →
      Property (self.openHeader aead)) :
    Property (self.resumeHeader aead reading bytes_read error) := by
  cases error with
  | none =>
      exact kept.toKeptByReceiving.resumeHeader reading bytes_read holds
        (opened rfl)
  | some error =>
      have failed := kept.record (.readFailed reading) rfl holds
      exact resumeHeader_failed (fun _ => kept.returnFrom _ _ failed)
        (fun _ => kept.loseConnection failed) bytes_read

theorem resumePayload
    (kept : KeptByReturning Property)
    (reading : SocketId)
    (bytes_read : Nat)
    (error : Option ErrorCode)
    (holds : Property self)
    (opened :
      ∀ {log protocol header accepted},
        bytes_read ≠ 0 →
        self.connection.protocol.DecryptPayload aead
            self.connection.conn_recv_buffer =
          some (protocol, header, accepted) →
        Property { self with log := log } →
        Property
          (openPayload { self with log := log } protocol header)) :
    Property (self.resumePayload aead reading bytes_read error) := by
  have completed :
      ∃ log,
        (if error.isSome then
          self.record (.readFailed reading)
        else
          self) = { self with log := log } ∧
          Property { self with log := log } := by
    split
    · exact ⟨_, rfl, kept.record _ rfl holds⟩
    · exact ⟨_, rfl, holds⟩
  obtain ⟨log, same, completed⟩ := completed
  unfold TcpServer.resumePayload
  simp only [same]
  split
  · exact kept.receiveFrom completed
  · rename_i something
    split
    · rename_i outside
      exact (Protocol.DecryptPayload_ne_none outside).elim
    · rename_i protocol header accepted opens
      have after := opened something opens completed
      split
      · exact kept.returnFrom _ _ after
      · exact kept.receiveFrom after

end KeptByReturning

end

end TcpServer

end Dsvpn
