import Mathlib.Logic.Function.Basic
import Dsvpn.ServerFilter
import Dsvpn.TcpReceiver

namespace Dsvpn

open ProtocolHeader

/-!
# The server's coroutines over TCP

One thread runs the accept loop, one `tryReceive` for each accepted socket,
the receive loop of `Server::Run` with `ReceiveFrom`, the TUN loop with
`SendTo`, and `Close`.  They switch only where they suspend.  An operation in
progress is aborted when its socket is closed, cancelled or destroyed; its
completion is then queued like any other, and queued completions are handed
over in any order.

Every part of a coroutine between two suspensions is one definition; `step`
lets any enabled event happen.
-/

/-- A socket; `connected` says whether it still has a remote endpoint. -/
structure Socket where
  is_open : Bool
  connected : Bool
  written : List UInt8
  deriving Repr, DecidableEq

inductive AcceptPc where
  | waiting
  | connected
  | ended
  deriving Repr, DecidableEq

inductive TryReceivePc where
  | notStarted
  | readHeader (op : ReadOp)
  | readPayload (op : ReadOp)
  | finished
  deriving Repr, DecidableEq

/--
The receive loop of `Server::Run`, inside `ReceiveFrom` or in the write to the
TUN device.  `woken` says that the wait on `selected_signal` was cancelled.
-/
inductive ReceiveLoopPc where
  | waitSelected (woken : Bool)
  | readHeader (socket : SocketId) (op : ReadOp)
  | readPayload (socket : SocketId) (op : ReadOp)
  | writeTun
  | ended
  deriving Repr, DecidableEq

/-- The TUN loop of `Server::Run`, reading a packet or inside `SendTo`. -/
inductive SendLoopPc where
  | readTun
  | writing
      (socket : SocketId)
      (frame : List UInt8)
      (sent : Nat)
      (outcome : Option (Option ErrorCode))
  deriving Repr, DecidableEq

/-- What happened to the sockets and packets, in order. -/
inductive Action where
  | chosen (socket : SocketId) (authenticated : Bool)
  | readFailed (socket : SocketId)
  | writeFailed (socket : SocketId)
  | closed (socket : SocketId)
  | cancelled (socket : SocketId)
  | dropped (socket : SocketId)
  | deselected (socket : SocketId)
  | returned (result : Returned)
  | tunWritten (packet : List UInt8)
  deriving Repr, DecidableEq

/-- The connection, its coroutines and sockets; `log` is only recorded. -/
structure TcpServer where
  connection : TCPConnection
  addresses : Server
  acceptor : AcceptPc
  accepted : Nat
  socket : SocketId → Socket
  tryReceive : SocketId → TryReceivePc
  receiveLoop : ReceiveLoopPc
  sendLoop : SendLoopPc
  log : List Action
  fault : Option Fault

inductive TcpServerEvent where
  | incoming
  | resumeAccept
  | disconnect (socket : SocketId)
  | arriveTry (socket : SocketId) (piece : List UInt8)
  | failTry (socket : SocketId) (error : ErrorCode)
  | resumeTry (socket : SocketId)
  | arrive (piece : List UInt8)
  | fail (error : ErrorCode)
  | resume
  | tunWritten (failed : Bool)
  | sendTo (packet : List UInt8) (draw : SendDraw)
  | writeSome (length : Nat)
  | writeError (error : ErrorCode)
  | resumeSendTo
  | close

def TryReceivePc.abort : TryReceivePc → TryReceivePc
  | .readHeader op => .readHeader (op.fail .operation_aborted)
  | .readPayload op => .readPayload (op.fail .operation_aborted)
  | pc => pc

def ReceiveLoopPc.abort
    (pc : ReceiveLoopPc)
    (socket : SocketId) : ReceiveLoopPc :=
  match pc with
  | .readHeader reading op =>
      if reading = socket then
        .readHeader reading (op.fail .operation_aborted)
      else
        pc
  | .readPayload reading op =>
      if reading = socket then
        .readPayload reading (op.fail .operation_aborted)
      else
        pc
  | _ => pc

/-- `selected_signal.cancel()`. -/
def ReceiveLoopPc.wake : ReceiveLoopPc → ReceiveLoopPc
  | .waitSelected _ => .waitSelected true
  | pc => pc

def SendLoopPc.abort
    (pc : SendLoopPc)
    (socket : SocketId) : SendLoopPc :=
  match pc with
  | .writing current frame sent none =>
      if current = socket then
        .writing current frame sent (some (some .operation_aborted))
      else
        pc
  | _ => pc

namespace TcpServer

/-- `Server::Run` after `Bind`, `Accept` and the two `Spawn`s. -/
def create
    (conn_key : List UInt8)
    (addresses : Server) : TcpServer where
  connection :=
    { TCPConnection.create conn_key with
      tcp_acceptor_open := true
      async_tasks_running := 1 }
  addresses := addresses
  acceptor := .waiting
  accepted := 0
  socket := fun _ => ⟨false, false, []⟩
  tryReceive := fun _ => .notStarted
  receiveLoop := .waitSelected false
  sendLoop := .readTun
  log := []
  fault := none

def setFault (self : TcpServer) (fault : Fault) : TcpServer :=
  { self with fault := some fault }

def record (self : TcpServer) (action : Action) : TcpServer :=
  { self with log := self.log ++ [action] }

/-- The operations in progress on a socket complete as aborted. -/
def abort (self : TcpServer) (socket : SocketId) : TcpServer :=
  { self with
    tryReceive :=
      Function.update self.tryReceive socket
        (self.tryReceive socket).abort
    receiveLoop := self.receiveLoop.abort socket
    sendLoop := self.sendLoop.abort socket }

def shut (self : TcpServer) (socket : SocketId) : TcpServer :=
  { self with
    socket :=
      Function.update self.socket socket
        { self.socket socket with is_open := false } }

def cancel (self : TcpServer) (socket : SocketId) : TcpServer :=
  (self.abort socket).record (.cancelled socket)

def closeSocket (self : TcpServer) (socket : SocketId) : TcpServer :=
  ((self.abort socket).shut socket).record (.closed socket)

/-- The last owner of a socket lets go of it, which destroys the socket. -/
def drop (self : TcpServer) (socket : Option SocketId) : TcpServer :=
  match socket with
  | none => self
  | some socket =>
      ((self.abort socket).shut socket).record (.dropped socket)

/-- `async_read`; on a closed socket it fails at once. -/
def startRead
    (self : TcpServer)
    (socket : SocketId)
    (offset want : Nat) : ReadOp :=
  if (self.socket socket).is_open then
    ReadOp.start offset want
  else
    (ReadOp.start offset want).fail .bad_descriptor

/-- The outer loop of `ReceiveFrom`, up to its next suspension. -/
def receiveFrom (self : TcpServer) : TcpServer :=
  if self.connection.selected then
    match self.connection.conn_socket with
    | none =>
        self.setFault .nullDereference
    | some socket =>
        { self with
          receiveLoop :=
            .readHeader socket (self.startRead socket 0 Size) }
  else
    { self with receiveLoop := .waitSelected false }

def endReceiveLoop (self : TcpServer) : TcpServer :=
  { self with
    receiveLoop := .ended
    connection :=
      { self.connection with
        async_tasks_running :=
          self.connection.async_tasks_running - 1 } }

/-- `ReceiveFrom` returns `bytes_read` to the receive loop. -/
def returnFrom
    (self : TcpServer)
    (bytes_read : Int)
    (error : Option ErrorCode) : TcpServer :=
  let returned :=
    self.record (.returned ⟨bytes_read, error,
      self.connection.conn_recv_buffer.slice Size bytes_read.toNat⟩)
  if error.isSome then
    returned.endReceiveLoop
  else if bytes_read = -1 then
    returned.endReceiveLoop
  else
    match self.addresses.tunWrite bytes_read
        self.connection.conn_recv_buffer with
    | none =>
        returned.receiveFrom
    | some packet =>
        { returned.record (.tunWritten packet) with
          receiveLoop := .writeTun }

/-- `ReceiveFrom` closes the connection it reads from, or takes the next. -/
def loseConnection (self : TcpServer) : TcpServer :=
  match self.connection.conn_socket with
  | none =>
      self.setFault .nullDereference
  | some socket =>
      let closed := self.closeSocket socket
      match closed.connection.replace_socket with
      | none =>
          receiveFrom
            { closed with
              connection :=
                { closed.connection with
                  conn_socket := none
                  selected := false } }
      | some replacement =>
          receiveFrom
            { closed with
              connection :=
                { closed.connection with
                  conn_socket := some replacement
                  replace_socket := none
                  selected := true } }

/-- `ReceiveFrom` from the completion of its header read on. -/
def resumeHeader
    (aead : Aead 16)
    (self : TcpServer)
    (reading : SocketId)
    (bytes_read : Nat)
    (error : Option ErrorCode) : TcpServer :=
  if error.isSome then
    let failed := self.record (.readFailed reading)
    if failed.connection.stopped then
      failed.returnFrom (-1) error
    else
      failed.loseConnection
  else if bytes_read = 0 then
    self.receiveFrom
  else
    let (header, payload_len) :=
      self.connection.protocol.DecryptHeader aead
        self.connection.conn_recv_buffer
    let opened : TcpServer :=
      { self with
        connection :=
          { self.connection with conn_recv_buffer := header } }
    if payload_len = 0 then
      opened.receiveFrom
    else
      match opened.connection.conn_socket with
      | none =>
          opened.setFault .nullDereference
      | some socket =>
          { opened with
            receiveLoop :=
              .readPayload socket
                (opened.startRead socket Size payload_len) }

/-- `ReceiveFrom` from the completion of its payload read on. -/
def resumePayload
    (aead : Aead 16)
    (self : TcpServer)
    (reading : SocketId)
    (bytes_read : Nat)
    (error : Option ErrorCode) : TcpServer :=
  let completed :=
    if error.isSome then self.record (.readFailed reading) else self
  if bytes_read = 0 then
    completed.receiveFrom
  else
    match completed.connection.protocol.DecryptPayload aead
        completed.connection.conn_recv_buffer with
    | none =>
        completed.setFault .outOfBounds
    | some (protocol, header, accepted) =>
        let opened : TcpServer :=
          { completed with
            connection :=
              { completed.connection with
                protocol := protocol
                conn_recv_buffer := header } }
        if accepted then
          opened.returnFrom (PAYLOAD_LENGTH header) error
        else
          opened.receiveFrom

/-- The accept loop starts `tryReceive` on the new socket and goes on. -/
def resumeAccept (self : TcpServer) : TcpServer :=
  { self with
    acceptor :=
      if self.connection.tcp_acceptor_open then .waiting else .ended
    accepted := self.accepted + 1
    socket :=
      Function.update self.socket self.accepted ⟨true, true, []⟩
    tryReceive :=
      Function.update self.tryReceive self.accepted
        (.readHeader (ReadOp.start 0 Size)) }

/-- `tryReceive` returns without a choice, which destroys its socket. -/
def giveUp (self : TcpServer) (socket : SocketId) : TcpServer :=
  { self.shut socket with
    tryReceive := Function.update self.tryReceive socket .finished }

/--
The end of `tryReceive`: the socket is selected, or replaces another.  The
`cancel` of the other throws if it is closed.
-/
def choose
    (self : TcpServer)
    (socket : SocketId)
    (authenticated : Bool) : TcpServer :=
  let chosen :=
    { self.record (.chosen socket authenticated) with
      tryReceive := Function.update self.tryReceive socket .finished }
  if chosen.connection.selected then
    let replacing :=
      drop
        { chosen with
          connection :=
            { chosen.connection with replace_socket := some socket } }
        chosen.connection.replace_socket
    match replacing.connection.conn_socket with
    | none =>
        replacing.setFault .nullDereference
    | some current =>
        if (replacing.socket current).is_open then
          replacing.cancel current
        else
          replacing.setFault .uncaughtException
  else
    drop
      { chosen with
        connection :=
          { chosen.connection with
            selected := true
            conn_socket := some socket }
        receiveLoop := chosen.receiveLoop.wake }
      chosen.connection.conn_socket

/-- `tryReceive` from the completion of its header read on. -/
def resumeTryHeader
    (aead : Aead 16)
    (self : TcpServer)
    (socket : SocketId)
    (bytes_read : Nat) : TcpServer :=
  if bytes_read = 0 then
    self.giveUp socket
  else
    let (header, payload_len) :=
      self.connection.protocol.DecryptHeader aead
        self.connection.conn_recv_buffer
    let opened : TcpServer :=
      { self with
        connection :=
          { self.connection with conn_recv_buffer := header } }
    if payload_len = 0 then
      opened.giveUp socket
    else
      { opened with
        tryReceive :=
          Function.update opened.tryReceive socket
            (.readPayload (opened.startRead socket Size payload_len)) }

/--
`tryReceive` from the completion of its payload read on.  The read throws on
an error; `local_endpoint` throws on a closed acceptor, and `remote_endpoint`
on a disconnected socket.
-/
def resumeTryPayload
    (aead : Aead 16)
    (self : TcpServer)
    (socket : SocketId)
    (bytes_read : Nat)
    (error : Option ErrorCode) : TcpServer :=
  if error.isSome then
    self.setFault .uncaughtException
  else if bytes_read = 0 then
    self.giveUp socket
  else
    match self.connection.protocol.DecryptPayload aead
        self.connection.conn_recv_buffer with
    | none =>
        self.setFault .outOfBounds
    | some (protocol, header, accepted) =>
        let opened : TcpServer :=
          { self with
            connection :=
              { self.connection with
                protocol := protocol
                conn_recv_buffer := header } }
        if
            opened.connection.tcp_acceptor_open ∧
              (opened.socket socket).connected then
          opened.choose socket accepted
        else
          opened.setFault .uncaughtException

/--
The TUN loop reads a packet, and hands it to `SendTo` if it is for the
client.
-/
def sendTo
    (aead : Aead 16)
    (self : TcpServer)
    (packet : List UInt8)
    (draw : SendDraw) : TcpServer :=
  match self.connection.readTun packet with
  | none =>
      self.setFault .outOfBounds
  | some ready =>
      if self.addresses.forwardsToClient ready.tun_recv_buffer then
        match ready.SendTo aead packet.length draw with
        | .error fault =>
            self.setFault fault
        | .ok (connection, none) =>
            { self with connection := connection }
        | .ok (connection, some (socket, frame)) =>
            { self with
              connection := connection
              sendLoop :=
                .writing socket frame 0
                  (if (self.socket socket).is_open then
                    none
                  else
                    some (some .bad_descriptor)) }
      else
        { self with connection := ready }

/-- The network takes the next bytes of a pending write. -/
def writeSome
    (self : TcpServer)
    (socket : SocketId)
    (frame : List UInt8)
    (sent length : Nat) : TcpServer :=
  { self with
    socket :=
      Function.update self.socket socket
        { self.socket socket with
          written :=
            (self.socket socket).written ++
              (frame.drop sent).take length }
    sendLoop :=
      .writing socket frame (sent + length)
        (if sent + length = frame.length then some none else none) }

/-- `SendTo` from the completion of its write on. -/
def resumeSendTo
    (self : TcpServer)
    (writing : SocketId)
    (error : Option ErrorCode) : TcpServer :=
  let returned := { self with sendLoop := .readTun }
  if error.isSome then
    let failed := returned.record (.writeFailed writing)
    if failed.connection.stopped then
      failed
    else
      match failed.connection.conn_socket with
      | none =>
          failed.setFault .nullDereference
      | some socket =>
          let cancelled :=
            (failed.cancel socket).record (.deselected socket)
          { cancelled with
            connection :=
              { cancelled.connection with selected := false } }
  else
    returned

/-- The coroutine that `Close` starts. -/
def close (self : TcpServer) : TcpServer :=
  let refusing : TcpServer :=
    { self with
      connection :=
        { self.connection with tcp_acceptor_open := false }
      acceptor :=
        if self.acceptor = .waiting then .ended else self.acceptor }
  if
      0 < refusing.connection.async_tasks_running ∧
        refusing.connection.selected then
    match refusing.connection.conn_socket with
    | none =>
        refusing.setFault .nullDereference
    | some socket =>
        let closed := refusing.closeSocket socket
        { closed with
          connection :=
            { closed.connection with
              conn_socket := none
              selected := false
              stopped := true } }
  else
    refusing

/-- A piece of a stream reaches the buffer for a pending read. -/
def receivePiece
    (self : TcpServer)
    (op : ReadOp)
    (piece : List UInt8)
    (resumed : TcpServer → TcpServer) : Option TcpServer :=
  if op.Accepts piece then
    match self.connection.toIConnection.receivePiece op piece with
    | none =>
        some (self.setFault .outOfBounds)
    | some connection =>
        some
          (resumed
            { self with
              connection :=
                { self.connection with toIConnection := connection } })
  else
    none

def setTryReceive
    (socket : SocketId)
    (pc : TryReceivePc)
    (self : TcpServer) : TcpServer :=
  { self with tryReceive := Function.update self.tryReceive socket pc }

def setReceiveLoop
    (pc : ReceiveLoopPc)
    (self : TcpServer) : TcpServer :=
  { self with receiveLoop := pc }

/-- Events of the accept loop and of the `tryReceive` coroutines. -/
def stepTryReceive
    (aead : Aead 16)
    (self : TcpServer)
    (socket : SocketId)
    (event : TcpServerEvent) : Option TcpServer :=
  match self.tryReceive socket, event with
  | .readHeader op, .arriveTry _ piece =>
      self.receivePiece op piece
        (setTryReceive socket (.readHeader (op.receive piece)))
  | .readPayload op, .arriveTry _ piece =>
      self.receivePiece op piece
        (setTryReceive socket (.readPayload (op.receive piece)))
  | .readHeader op, .failTry _ error =>
      some (setTryReceive socket (.readHeader (op.fail error)) self)
  | .readPayload op, .failTry _ error =>
      some (setTryReceive socket (.readPayload (op.fail error)) self)
  | .readHeader op, .resumeTry _ =>
      op.outcome.map fun _ => self.resumeTryHeader aead socket op.got
  | .readPayload op, .resumeTry _ =>
      op.outcome.map (self.resumeTryPayload aead socket op.got)
  | _, _ =>
      none

/-- Events of the receive loop. -/
def stepReceiveLoop
    (aead : Aead 16)
    (self : TcpServer)
    (event : TcpServerEvent) : Option TcpServer :=
  match self.receiveLoop, event with
  | .waitSelected true, .resume =>
      some self.receiveFrom
  | .readHeader socket op, .arrive piece =>
      self.receivePiece op piece
        (setReceiveLoop (.readHeader socket (op.receive piece)))
  | .readPayload socket op, .arrive piece =>
      self.receivePiece op piece
        (setReceiveLoop (.readPayload socket (op.receive piece)))
  | .readHeader socket op, .fail error =>
      some (setReceiveLoop (.readHeader socket (op.fail error)) self)
  | .readPayload socket op, .fail error =>
      some (setReceiveLoop (.readPayload socket (op.fail error)) self)
  | .readHeader socket op, .resume =>
      op.outcome.map (self.resumeHeader aead socket op.got)
  | .readPayload socket op, .resume =>
      op.outcome.map (self.resumePayload aead socket op.got)
  | .writeTun, .tunWritten failed =>
      some (if failed then self.endReceiveLoop else self.receiveFrom)
  | _, _ =>
      none

/-- Events of the TUN loop. -/
def stepSendLoop
    (aead : Aead 16)
    (self : TcpServer)
    (event : TcpServerEvent) : Option TcpServer :=
  match self.sendLoop, event with
  | .readTun, .sendTo packet draw =>
      some (self.sendTo aead packet draw)
  | .writing socket frame sent none, .writeSome length =>
      if 0 < length ∧ sent + length ≤ frame.length then
        some (self.writeSome socket frame sent length)
      else
        none
  | .writing socket frame sent none, .writeError error =>
      some
        { self with
          sendLoop := .writing socket frame sent (some (some error)) }
  | .writing socket _ _ (some error), .resumeSendTo =>
      some (self.resumeSendTo socket error)
  | _, _ =>
      none

def step
    (aead : Aead 16)
    (self : TcpServer)
    (event : TcpServerEvent) : Option TcpServer :=
  if self.fault.isSome then
    none
  else
    match event with
    | .incoming =>
        if self.acceptor = .waiting then
          some { self with acceptor := .connected }
        else
          none
    | .resumeAccept =>
        if self.acceptor = .connected then
          some self.resumeAccept
        else
          none
    | .disconnect socket =>
        some
          { self with
            socket :=
              Function.update self.socket socket
                { self.socket socket with connected := false } }
    | .arriveTry socket _ => self.stepTryReceive aead socket event
    | .failTry socket _ => self.stepTryReceive aead socket event
    | .resumeTry socket => self.stepTryReceive aead socket event
    | .arrive _ => self.stepReceiveLoop aead event
    | .fail _ => self.stepReceiveLoop aead event
    | .resume => self.stepReceiveLoop aead event
    | .tunWritten _ => self.stepReceiveLoop aead event
    | .sendTo _ _ => self.stepSendLoop aead event
    | .writeSome _ => self.stepSendLoop aead event
    | .writeError _ => self.stepSendLoop aead event
    | .resumeSendTo => self.stepSendLoop aead event
    | .close => some self.close

/-! ## What a step can do -/

/-- The connection with other bytes in the receive buffer. -/
def setBuffer (self : TcpServer) (buffer : PacketBuffer) : TcpServer :=
  { self with
    connection := { self.connection with conn_recv_buffer := buffer } }

/-- A piece that the pending read has room for lands inside the buffer or not. -/
theorem receivePiece_cases
    {self next : TcpServer}
    {op : ReadOp}
    {piece : List UInt8}
    {resumed : TcpServer → TcpServer}
    (arrived : self.receivePiece op piece resumed = some next) :
    op.Accepts piece ∧
      ((op.offset + op.got + piece.length ≤ 2000 ∧
          next =
            resumed
              (self.setBuffer
                (self.connection.conn_recv_buffer.overwrite
                  (op.offset + op.got) piece))) ∨
        (2000 < op.offset + op.got + piece.length ∧
          next = self.setFault .outOfBounds)) := by
  unfold receivePiece at arrived
  split at arrived
  · rename_i accepts
    refine ⟨accepts, ?_⟩
    by_cases inside : op.offset + op.got + piece.length ≤ 2000
    · simp only [IConnection.receivePiece,
        Buffer.store?_eq_some _ inside, Option.bind_eq_bind,
        Option.bind_some, Option.some.injEq] at arrived
      exact Or.inl ⟨inside, arrived.symm⟩
    · simp only [IConnection.receivePiece, Buffer.store?,
        if_neg inside, Option.bind_eq_bind, Option.bind_none,
        Option.some.injEq] at arrived
      exact Or.inr ⟨by omega, arrived.symm⟩
  · cases arrived

/-- One constructor for each thing a step can do. -/
inductive Transition
    (aead : Aead 16)
    (self : TcpServer) : TcpServerEvent → TcpServer → Prop where
  | incoming :
      self.acceptor = .waiting →
      Transition aead self .incoming { self with acceptor := .connected }
  | resumeAccept :
      self.acceptor = .connected →
      Transition aead self .resumeAccept self.resumeAccept
  | disconnect (socket : SocketId) :
      Transition aead self (.disconnect socket)
        { self with
          socket :=
            Function.update self.socket socket
              { self.socket socket with connected := false } }
  | arriveTryHeader
      {socket : SocketId} {op : ReadOp} {piece : List UInt8} :
      self.tryReceive socket = .readHeader op →
      op.Accepts piece →
      op.offset + op.got + piece.length ≤ 2000 →
      Transition aead self (.arriveTry socket piece)
        (setTryReceive socket (.readHeader (op.receive piece))
          (self.setBuffer
            (self.connection.conn_recv_buffer.overwrite
              (op.offset + op.got) piece)))
  | arriveTryPayload
      {socket : SocketId} {op : ReadOp} {piece : List UInt8} :
      self.tryReceive socket = .readPayload op →
      op.Accepts piece →
      op.offset + op.got + piece.length ≤ 2000 →
      Transition aead self (.arriveTry socket piece)
        (setTryReceive socket (.readPayload (op.receive piece))
          (self.setBuffer
            (self.connection.conn_recv_buffer.overwrite
              (op.offset + op.got) piece)))
  | arriveTryOutside
      {socket : SocketId} {op : ReadOp} {piece : List UInt8} :
      self.tryReceive socket = .readHeader op ∨
        self.tryReceive socket = .readPayload op →
      op.Accepts piece →
      2000 < op.offset + op.got + piece.length →
      Transition aead self (.arriveTry socket piece)
        (self.setFault .outOfBounds)
  | failTryHeader
      {socket : SocketId} {op : ReadOp} (error : ErrorCode) :
      self.tryReceive socket = .readHeader op →
      Transition aead self (.failTry socket error)
        (setTryReceive socket (.readHeader (op.fail error)) self)
  | failTryPayload
      {socket : SocketId} {op : ReadOp} (error : ErrorCode) :
      self.tryReceive socket = .readPayload op →
      Transition aead self (.failTry socket error)
        (setTryReceive socket (.readPayload (op.fail error)) self)
  | resumeTryHeader
      {socket : SocketId} {op : ReadOp} {error : Option ErrorCode} :
      self.tryReceive socket = .readHeader op →
      op.outcome = some error →
      Transition aead self (.resumeTry socket)
        (self.resumeTryHeader aead socket op.got)
  | resumeTryPayload
      {socket : SocketId} {op : ReadOp} {error : Option ErrorCode} :
      self.tryReceive socket = .readPayload op →
      op.outcome = some error →
      Transition aead self (.resumeTry socket)
        (self.resumeTryPayload aead socket op.got error)
  | wake :
      self.receiveLoop = .waitSelected true →
      Transition aead self .resume self.receiveFrom
  | arriveHeader
      {socket : SocketId} {op : ReadOp} {piece : List UInt8} :
      self.receiveLoop = .readHeader socket op →
      op.Accepts piece →
      op.offset + op.got + piece.length ≤ 2000 →
      Transition aead self (.arrive piece)
        (setReceiveLoop (.readHeader socket (op.receive piece))
          (self.setBuffer
            (self.connection.conn_recv_buffer.overwrite
              (op.offset + op.got) piece)))
  | arrivePayload
      {socket : SocketId} {op : ReadOp} {piece : List UInt8} :
      self.receiveLoop = .readPayload socket op →
      op.Accepts piece →
      op.offset + op.got + piece.length ≤ 2000 →
      Transition aead self (.arrive piece)
        (setReceiveLoop (.readPayload socket (op.receive piece))
          (self.setBuffer
            (self.connection.conn_recv_buffer.overwrite
              (op.offset + op.got) piece)))
  | arriveOutside
      {socket : SocketId} {op : ReadOp} {piece : List UInt8} :
      self.receiveLoop = .readHeader socket op ∨
        self.receiveLoop = .readPayload socket op →
      op.Accepts piece →
      2000 < op.offset + op.got + piece.length →
      Transition aead self (.arrive piece) (self.setFault .outOfBounds)
  | failHeader
      {socket : SocketId} {op : ReadOp} (error : ErrorCode) :
      self.receiveLoop = .readHeader socket op →
      Transition aead self (.fail error)
        (setReceiveLoop (.readHeader socket (op.fail error)) self)
  | failPayload
      {socket : SocketId} {op : ReadOp} (error : ErrorCode) :
      self.receiveLoop = .readPayload socket op →
      Transition aead self (.fail error)
        (setReceiveLoop (.readPayload socket (op.fail error)) self)
  | resumeHeader
      {socket : SocketId} {op : ReadOp} {error : Option ErrorCode} :
      self.receiveLoop = .readHeader socket op →
      op.outcome = some error →
      Transition aead self .resume
        (self.resumeHeader aead socket op.got error)
  | resumePayload
      {socket : SocketId} {op : ReadOp} {error : Option ErrorCode} :
      self.receiveLoop = .readPayload socket op →
      op.outcome = some error →
      Transition aead self .resume
        (self.resumePayload aead socket op.got error)
  | tunWritten (failed : Bool) :
      self.receiveLoop = .writeTun →
      Transition aead self (.tunWritten failed)
        (if failed then self.endReceiveLoop else self.receiveFrom)
  | sendTo (packet : List UInt8) (draw : SendDraw) :
      self.sendLoop = .readTun →
      Transition aead self (.sendTo packet draw)
        (self.sendTo aead packet draw)
  | writeSome
      {socket : SocketId} {frame : List UInt8} {sent length : Nat} :
      self.sendLoop = .writing socket frame sent none →
      0 < length →
      sent + length ≤ frame.length →
      Transition aead self (.writeSome length)
        (self.writeSome socket frame sent length)
  | writeError
      {socket : SocketId} {frame : List UInt8} {sent : Nat}
      (error : ErrorCode) :
      self.sendLoop = .writing socket frame sent none →
      Transition aead self (.writeError error)
        { self with
          sendLoop := .writing socket frame sent (some (some error)) }
  | resumeSendTo
      {socket : SocketId} {frame : List UInt8} {sent : Nat}
      {error : Option ErrorCode} :
      self.sendLoop = .writing socket frame sent (some error) →
      Transition aead self .resumeSendTo (self.resumeSendTo socket error)
  | close :
      Transition aead self .close self.close

section

variable
    {aead : Aead 16}
    {self next : TcpServer}

theorem stepTryReceive_transition
    {socket : SocketId}
    {event : TcpServerEvent}
    (isFor :
      (∃ piece, event = .arriveTry socket piece) ∨
        (∃ error, event = .failTry socket error) ∨
        event = .resumeTry socket)
    (performed : self.stepTryReceive aead socket event = some next) :
    Transition aead self event next := by
  unfold stepTryReceive at performed
  rcases isFor with ⟨piece, rfl⟩ | ⟨error, rfl⟩ | rfl
  · cases reading : self.tryReceive socket with
    | notStarted => simp [reading] at performed
    | finished => simp [reading] at performed
    | readHeader op =>
        simp only [reading] at performed
        obtain ⟨accepts, ⟨inside, rfl⟩ | ⟨outside, rfl⟩⟩ :=
          receivePiece_cases performed
        · exact .arriveTryHeader reading accepts inside
        · exact .arriveTryOutside (Or.inl reading) accepts outside
    | readPayload op =>
        simp only [reading] at performed
        obtain ⟨accepts, ⟨inside, rfl⟩ | ⟨outside, rfl⟩⟩ :=
          receivePiece_cases performed
        · exact .arriveTryPayload reading accepts inside
        · exact .arriveTryOutside (Or.inr reading) accepts outside
  · cases reading : self.tryReceive socket with
    | notStarted => simp [reading] at performed
    | finished => simp [reading] at performed
    | readHeader op =>
        simp only [reading, Option.some.injEq] at performed
        subst next
        exact .failTryHeader error reading
    | readPayload op =>
        simp only [reading, Option.some.injEq] at performed
        subst next
        exact .failTryPayload error reading
  · cases reading : self.tryReceive socket with
    | notStarted => simp [reading] at performed
    | finished => simp [reading] at performed
    | readHeader op =>
        simp only [reading, Option.map_eq_some_iff] at performed
        obtain ⟨error, completed, rfl⟩ := performed
        exact .resumeTryHeader reading completed
    | readPayload op =>
        simp only [reading, Option.map_eq_some_iff] at performed
        obtain ⟨error, completed, rfl⟩ := performed
        exact .resumeTryPayload reading completed

theorem stepReceiveLoop_transition
    {event : TcpServerEvent}
    (performed : self.stepReceiveLoop aead event = some next) :
    Transition aead self event next := by
  unfold stepReceiveLoop at performed
  split at performed
  · rename_i waiting
    obtain rfl := Option.some.inj performed
    exact .wake waiting
  · rename_i socket op piece reading
    obtain ⟨accepts, ⟨inside, rfl⟩ | ⟨outside, rfl⟩⟩ :=
      receivePiece_cases performed
    · exact .arriveHeader reading accepts inside
    · exact .arriveOutside (Or.inl reading) accepts outside
  · rename_i socket op piece reading
    obtain ⟨accepts, ⟨inside, rfl⟩ | ⟨outside, rfl⟩⟩ :=
      receivePiece_cases performed
    · exact .arrivePayload reading accepts inside
    · exact .arriveOutside (Or.inr reading) accepts outside
  · rename_i socket op error reading
    obtain rfl := Option.some.inj performed
    exact .failHeader error reading
  · rename_i socket op error reading
    obtain rfl := Option.some.inj performed
    exact .failPayload error reading
  · rename_i socket op reading
    obtain ⟨error, completed, rfl⟩ :=
      Option.map_eq_some_iff.mp performed
    exact .resumeHeader reading completed
  · rename_i socket op reading
    obtain ⟨error, completed, rfl⟩ :=
      Option.map_eq_some_iff.mp performed
    exact .resumePayload reading completed
  · rename_i failed writing
    obtain rfl := Option.some.inj performed
    exact .tunWritten failed writing
  · cases performed

theorem stepSendLoop_transition
    {event : TcpServerEvent}
    (performed : self.stepSendLoop aead event = some next) :
    Transition aead self event next := by
  unfold stepSendLoop at performed
  split at performed
  · rename_i packet draw reading
    obtain rfl := Option.some.inj performed
    exact .sendTo packet draw reading
  · rename_i socket frame sent length writing
    split at performed
    · rename_i room
      obtain rfl := Option.some.inj performed
      exact .writeSome writing room.1 room.2
    · cases performed
  · rename_i socket frame sent error writing
    obtain rfl := Option.some.inj performed
    exact .writeError error writing
  · rename_i socket frame sent error writing
    obtain rfl := Option.some.inj performed
    exact .resumeSendTo writing
  · cases performed

/-- Every step is one of the transitions, from a state without a fault. -/
theorem step_transition
    {event : TcpServerEvent}
    (performed : step aead self event = some next) :
    self.fault = none ∧ Transition aead self event next := by
  unfold step at performed
  split at performed
  · cases performed
  · rename_i running
    refine ⟨by simpa using running, ?_⟩
    cases event with
    | incoming =>
        simp only at performed
        split at performed
        · rename_i waiting
          obtain rfl := Option.some.inj performed
          exact .incoming waiting
        · cases performed
    | resumeAccept =>
        simp only at performed
        split at performed
        · rename_i connected
          obtain rfl := Option.some.inj performed
          exact .resumeAccept connected
        · cases performed
    | disconnect socket =>
        obtain rfl := Option.some.inj performed
        exact .disconnect socket
    | arriveTry socket piece =>
        exact stepTryReceive_transition
          (Or.inl ⟨piece, rfl⟩) performed
    | failTry socket error =>
        exact stepTryReceive_transition
          (Or.inr (Or.inl ⟨error, rfl⟩)) performed
    | resumeTry socket =>
        exact stepTryReceive_transition (Or.inr (Or.inr rfl)) performed
    | arrive piece => exact stepReceiveLoop_transition performed
    | fail error => exact stepReceiveLoop_transition performed
    | resume => exact stepReceiveLoop_transition performed
    | tunWritten failed => exact stepReceiveLoop_transition performed
    | sendTo packet draw => exact stepSendLoop_transition performed
    | writeSome length => exact stepSendLoop_transition performed
    | writeError error => exact stepSendLoop_transition performed
    | resumeSendTo => exact stepSendLoop_transition performed
    | close =>
        obtain rfl := Option.some.inj performed
        exact .close

/-- A piece inside the buffer can be received. -/
theorem receivePiece_inside
    {op : ReadOp}
    {piece : List UInt8}
    (resumed : TcpServer → TcpServer)
    (accepts : op.Accepts piece)
    (inside : op.offset + op.got + piece.length ≤ 2000) :
    self.receivePiece op piece resumed =
      some
        (resumed
          (self.setBuffer
            (self.connection.conn_recv_buffer.overwrite
              (op.offset + op.got) piece))) := by
  unfold receivePiece
  rw [if_pos accepts]
  simp only [IConnection.receivePiece, Buffer.store?_eq_some _ inside,
    Option.bind_eq_bind, Option.bind_some]
  rfl

theorem receivePiece_outside
    {op : ReadOp}
    {piece : List UInt8}
    (resumed : TcpServer → TcpServer)
    (accepts : op.Accepts piece)
    (outside : 2000 < op.offset + op.got + piece.length) :
    self.receivePiece op piece resumed =
      some (self.setFault .outOfBounds) := by
  unfold receivePiece
  rw [if_pos accepts]
  simp only [IConnection.receivePiece, Buffer.store?,
    if_neg (Nat.not_le.mpr outside), Option.bind_eq_bind,
    Option.bind_none]

/-- Every transition is a step, from a state without a fault. -/
theorem step_of_transition
    {event : TcpServerEvent}
    (running : self.fault = none)
    (transition : Transition aead self event next) :
    step aead self event = some next := by
  unfold step
  rw [if_neg (by simp [running])]
  cases transition with
  | incoming waiting => simp [waiting]
  | resumeAccept connected => simp [connected]
  | disconnect socket => rfl
  | arriveTryHeader reading accepts inside =>
      simp only [stepTryReceive, reading]
      exact receivePiece_inside _ accepts inside
  | arriveTryPayload reading accepts inside =>
      simp only [stepTryReceive, reading]
      exact receivePiece_inside _ accepts inside
  | arriveTryOutside reading accepts outside =>
      rcases reading with reading | reading
      · simp only [stepTryReceive, reading]
        exact receivePiece_outside _ accepts outside
      · simp only [stepTryReceive, reading]
        exact receivePiece_outside _ accepts outside
  | failTryHeader error reading => simp [stepTryReceive, reading]
  | failTryPayload error reading => simp [stepTryReceive, reading]
  | resumeTryHeader reading completed =>
      simp [stepTryReceive, reading, completed]
  | resumeTryPayload reading completed =>
      simp [stepTryReceive, reading, completed]
  | wake waiting => simp [stepReceiveLoop, waiting]
  | arriveHeader reading accepts inside =>
      simp only [stepReceiveLoop, reading]
      exact receivePiece_inside _ accepts inside
  | arrivePayload reading accepts inside =>
      simp only [stepReceiveLoop, reading]
      exact receivePiece_inside _ accepts inside
  | arriveOutside reading accepts outside =>
      rcases reading with reading | reading
      · simp only [stepReceiveLoop, reading]
        exact receivePiece_outside _ accepts outside
      · simp only [stepReceiveLoop, reading]
        exact receivePiece_outside _ accepts outside
  | failHeader error reading => simp [stepReceiveLoop, reading]
  | failPayload error reading => simp [stepReceiveLoop, reading]
  | resumeHeader reading completed =>
      simp [stepReceiveLoop, reading, completed]
  | resumePayload reading completed =>
      simp [stepReceiveLoop, reading, completed]
  | tunWritten failed writing => simp [stepReceiveLoop, writing]
  | sendTo packet draw reading => simp [stepSendLoop, reading]
  | writeSome writing positive room =>
      simp [stepSendLoop, writing, positive, room]
  | writeError error writing => simp [stepSendLoop, writing]
  | resumeSendTo writing => simp [stepSendLoop, writing]
  | close => rfl

end

end TcpServer

end Dsvpn
