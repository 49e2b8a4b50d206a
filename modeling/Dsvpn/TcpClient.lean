import Dsvpn.Selection

namespace Dsvpn

open ProtocolHeader

/-!
# The client's coroutines over TCP

`Client::Reconnect` connects one socket and starts two loops: the TUN loop
with `Send`, which belongs to the TUN device, and the receive loop with
`Receive`, which `IConnection::Spawn` counts.  `Close` may run at any time.
It is the `Close` the server has, but its flag is set by `tryReceive` alone.
-/

namespace TCPConnection

/-- The pointers and flags of the object. -/
def selection (self : TCPConnection) : Selection where
  conn_socket := self.conn_socket
  replace_socket := self.replace_socket
  selected := self.selected
  stopped := self.stopped
  tcp_acceptor_open := self.tcp_acceptor_open

/-- `Connect` to the server succeeds, with a new socket. -/
def Connect
    (self : TCPConnection)
    (socket : SocketId) : TCPConnection :=
  { self with conn_socket := some socket }

/-- What `Close` leaves in the object, and the socket that it closes. -/
def Close
    (self : TCPConnection) :
    Except Fault (TCPConnection × Option SocketId) :=
  let refusing := { self with tcp_acceptor_open := false }
  if 0 < refusing.async_tasks_running ∧ refusing.selected then
    match refusing.conn_socket with
    | none =>
        .error .nullDereference
    | some socket =>
        .ok
          ({ refusing with
              conn_socket := none
              selected := false
              stopped := true },
            some socket)
  else
    .ok (refusing, none)

/-- Without a selected connection `Close` closes the acceptor only. -/
theorem Close_unselected
    {self : TCPConnection}
    (unselected : self.selected = false) :
    self.Close = .ok ({ self with tcp_acceptor_open := false }, none) := by
  unfold Close
  simp [unselected]

/-- `Close` stops a selected connection, and leaves the socket that waits. -/
theorem Close_stops
    {self : TCPConnection}
    (spawned : 0 < self.async_tasks_running)
    (set : self.selected = true → self.conn_socket ≠ none) :
    ∃ connection closed,
      self.Close = .ok (connection, closed) ∧
        connection.replace_socket = self.replace_socket ∧
        connection.stopped = (self.selected || self.stopped) := by
  by_cases selecting : self.selected = true
  · obtain ⟨socket, current⟩ :=
      Option.ne_none_iff_exists'.mp (set selecting)
    refine ⟨
      { self with
        tcp_acceptor_open := false
        conn_socket := none
        selected := false
        stopped := true },
      some socket, ?_, rfl, ?_⟩
    · unfold Close
      simp only
      rw [if_pos ⟨spawned, selecting⟩, current]
    · rw [selecting, Bool.true_or]
  · have unselected := Bool.eq_false_iff.mpr selecting
    refine ⟨{ self with tcp_acceptor_open := false }, none,
      Close_unselected unselected, rfl, ?_⟩
    rw [unselected, Bool.false_or]

end TCPConnection

/-- The server's `Close` is that of its connection object. -/
theorem TcpServer.close_members
    {server : TcpServer}
    {connection : TCPConnection}
    {closed : Option SocketId}
    (closes : server.connection.Close = .ok (connection, closed)) :
    server.close.connection = connection ∧
      server.close.fault = server.fault ∧
      ∀ socket,
        (server.close.socket socket).is_open =
          if closed = some socket then
            false
          else
            (server.socket socket).is_open := by
  unfold TCPConnection.Close at closes
  unfold TcpServer.close
  simp only at closes ⊢
  split at closes
  · rename_i selecting
    rw [if_pos selecting]
    split at closes
    · cases closes
    · rename_i socket current
      obtain ⟨rfl, rfl⟩ := Prod.mk.inj (Except.ok.inj closes)
      simp only [current]
      refine ⟨rfl, rfl, fun other => ?_⟩
      by_cases same : other = socket
      · subst same
        simp [closeSocket, record, shut]
      · simp [closeSocket, record, shut, TcpServer.abort, same,
          Ne.symm same]
  · rename_i unselected
    obtain ⟨rfl, rfl⟩ := Prod.mk.inj (Except.ok.inj closes)
    rw [if_neg unselected]
    exact ⟨rfl, rfl, fun _ => by simp⟩

/-- The receive loop of `Client::Reconnect`. -/
inductive ClientReceivePc where
  | receiving
  | writeTun
  | ended
  deriving Repr, DecidableEq

/--
A connection of the client with its coroutines and sockets.  `sendLoop` is
`none` when the TUN loop has ended.
-/
structure TcpClient where
  settings : Client
  receiver : TcpReceiver
  socket : SocketId → Socket
  receiveLoop : ClientReceivePc
  sendLoop : Option SendLoopPc

inductive TcpClientEvent where
  | receive (event : ReceiveEvent)
  | tunWritten (failed : Bool)
  | tunFailed
  | send (packet : List UInt8) (draw : SendDraw)
  | writeSome (length : Nat)
  | writeError (error : ErrorCode)
  | resumeSend
  | close

def ReceivePc.abort : ReceivePc → ReceivePc
  | .readHeader op => .readHeader (op.fail .operation_aborted)
  | .readPayload op => .readPayload (op.fail .operation_aborted)
  | .idle => .idle

namespace TcpClient

/-- `Client::Reconnect` after `Connect`, with both loops started. -/
def connect
    (conn_key : List UInt8)
    (settings : Client) : TcpClient where
  settings := settings
  receiver :=
    (TcpReceiver.create
      { (TCPConnection.create conn_key).Connect 0 with
        async_tasks_running := 1 }).Receive
  socket := fun socket =>
    if socket = 0 then ⟨true, true, []⟩ else ⟨false, false, []⟩
  receiveLoop := .receiving
  sendLoop := some .readTun

def connection (self : TcpClient) : TCPConnection :=
  self.receiver.connection

def fault (self : TcpClient) : Option Fault :=
  self.receiver.fault

def setConnection
    (self : TcpClient)
    (connection : TCPConnection) : TcpClient :=
  { self with receiver := { self.receiver with connection := connection } }

def setFault (self : TcpClient) (fault : Fault) : TcpClient :=
  { self with receiver := self.receiver.setFault fault }

/-- The receive loop calls `Receive`. -/
def receive (self : TcpClient) : TcpClient :=
  { self with
    receiver := self.receiver.Receive
    receiveLoop := .receiving }

def endReceiveLoop (self : TcpClient) : TcpClient :=
  { self.setConnection
      { self.connection with
        async_tasks_running :=
          self.connection.async_tasks_running - 1 } with
    receiveLoop := .ended }

/-- The receive loop goes on with what `Receive` has returned. -/
def received (self : TcpClient) (result : Returned) : TcpClient :=
  if result.error.isSome then
    self.endReceiveLoop
  else
    match Client.tunWrite result with
    | none =>
        self.receive
    | some _ =>
        { self with receiveLoop := .writeTun }

/-- `Receive` has gone on, up to its next suspension or its return. -/
def resumed (self : TcpClient) (receiver : TcpReceiver) : TcpClient :=
  let after := { self with receiver := receiver }
  match receiver.pc, receiver.returned.getLast? with
  | .idle, some result => after.received result
  | _, _ => after

/-- The TUN loop reads a packet, and hands it to `Send` if it forwards it. -/
def send
    (aead : Aead 16)
    (self : TcpClient)
    (packet : List UInt8)
    (draw : SendDraw) : TcpClient :=
  match self.connection.readTun packet with
  | none =>
      self.setFault .outOfBounds
  | some ready =>
      if self.settings.forwardsToServer ready.tun_recv_buffer then
        match ready.Send aead packet.length draw with
        | .error fault =>
            self.setFault fault
        | .ok (connection, socket, frame) =>
            { self.setConnection connection with
              sendLoop :=
                some
                  (.writing socket frame 0
                    (if (self.socket socket).is_open then
                      none
                    else
                      some (some .bad_descriptor))) }
      else
        self.setConnection ready

/-- The network takes the next bytes of a pending write. -/
def writeSome
    (self : TcpClient)
    (socket : SocketId)
    (frame : List UInt8)
    (sent length : Nat) : TcpClient :=
  { self with
    socket :=
      Function.update self.socket socket
        { self.socket socket with
          written :=
            (self.socket socket).written ++
              (frame.drop sent).take length }
    sendLoop :=
      some
        (.writing socket frame (sent + length)
          (if sent + length = frame.length then
            some none
          else
            none)) }

/--
The TUN loop after `Send` has returned.  On an error it calls `Reconnect`,
which closes the connection, and ends.
-/
def resumeSend
    (self : TcpClient)
    (error : Option ErrorCode) : TcpClient :=
  { self with
    sendLoop := if error.isSome then none else some .readTun }

/-- The coroutine that `Close` starts. -/
def close (self : TcpClient) : TcpClient :=
  match self.connection.Close with
  | .error fault =>
      self.setFault fault
  | .ok (connection, none) =>
      self.setConnection connection
  | .ok (connection, some socket) =>
      { self with
        receiver :=
          { self.receiver with
            connection := connection
            pc := self.receiver.pc.abort }
        socket :=
          Function.update self.socket socket
            { self.socket socket with is_open := false }
        sendLoop := self.sendLoop.map fun pc => pc.abort socket }

/-- Events of the receive loop. -/
def stepReceiveLoop
    (aead : Aead 16)
    (self : TcpClient)
    (event : TcpClientEvent) : Option TcpClient :=
  match self.receiveLoop, event with
  | .receiving, .receive event =>
      (TcpReceiver.step aead self.receiver event).map self.resumed
  | .writeTun, .tunWritten failed =>
      some (if failed then self.endReceiveLoop else self.receive)
  | _, _ =>
      none

/-- Events of the TUN loop. -/
def stepSendLoop
    (aead : Aead 16)
    (self : TcpClient)
    (event : TcpClientEvent) : Option TcpClient :=
  match self.sendLoop, event with
  | some .readTun, .send packet draw =>
      some (self.send aead packet draw)
  | some .readTun, .tunFailed =>
      some { self with sendLoop := none }
  | some (.writing socket frame sent none), .writeSome length =>
      if 0 < length ∧ sent + length ≤ frame.length then
        some (self.writeSome socket frame sent length)
      else
        none
  | some (.writing socket frame sent none), .writeError error =>
      some
        { self with
          sendLoop :=
            some (.writing socket frame sent (some (some error))) }
  | some (.writing _ _ _ (some error)), .resumeSend =>
      some (self.resumeSend error)
  | _, _ =>
      none

def step
    (aead : Aead 16)
    (self : TcpClient)
    (event : TcpClientEvent) : Option TcpClient :=
  if self.fault.isSome then
    none
  else
    match event with
    | .receive _ => self.stepReceiveLoop aead event
    | .tunWritten _ => self.stepReceiveLoop aead event
    | .tunFailed => self.stepSendLoop aead event
    | .send _ _ => self.stepSendLoop aead event
    | .writeSome _ => self.stepSendLoop aead event
    | .writeError _ => self.stepSendLoop aead event
    | .resumeSend => self.stepSendLoop aead event
    | .close => some self.close

/-- The pointers and flags that `Connect` leaves. -/
def connectedSelection : Selection where
  conn_socket := some 0
  replace_socket := none
  selected := false
  stopped := false
  tcp_acceptor_open := false

section

variable
    {aead : Aead 16}
    {self next : TcpClient}

/-- `Receive` moves no pointer and sets no flag. -/
theorem receiver_step_selection
    {receiver after : TcpReceiver}
    {event : ReceiveEvent}
    (performed : TcpReceiver.step aead receiver event = some after) :
    after.connection.selection = receiver.connection.selection := by
  have called :
      receiver.Receive.connection.selection =
        receiver.connection.selection := by
    unfold TcpReceiver.Receive
    split <;> rfl
  have arrives
      {pc : ReadOp → ReceivePc}
      {op : ReadOp}
      {piece : List UInt8}
      (arrived : receiver.arrive pc op piece = some after) :
      after.connection.selection = receiver.connection.selection := by
    unfold TcpReceiver.arrive at arrived
    split at arrived
    · split at arrived
      · obtain rfl := Option.some.inj arrived
        rfl
      · obtain rfl := Option.some.inj arrived
        rfl
    · cases arrived
  have header (bytes_read : Nat) (error : Option ErrorCode) :
      (receiver.resumeHeader aead bytes_read
          error).connection.selection =
        receiver.connection.selection := by
    unfold TcpReceiver.resumeHeader
    split
    · rfl
    · split
      · rfl
      · simp only
        split <;> rfl
  have payload (bytes_read : Nat) (error : Option ErrorCode) :
      (receiver.resumePayload aead bytes_read
          error).connection.selection =
        receiver.connection.selection := by
    unfold TcpReceiver.resumePayload
    split
    · rfl
    · split <;> rfl
  unfold TcpReceiver.step at performed
  split at performed
  · cases performed
  · split at performed
    · obtain rfl := Option.some.inj performed
      exact called
    · exact arrives performed
    · exact arrives performed
    · obtain rfl := Option.some.inj performed
      rfl
    · obtain rfl := Option.some.inj performed
      rfl
    · obtain ⟨error, _, rfl⟩ := Option.map_eq_some_iff.mp performed
      exact header _ _
    · obtain ⟨error, _, rfl⟩ := Option.map_eq_some_iff.mp performed
      exact payload _ _
    · cases performed

theorem receive_selection :
    self.receive.connection.selection = self.connection.selection := by
  unfold receive TcpReceiver.Receive connection
  simp only
  split <;> rfl

theorem resumed_selection
    (receiver : TcpReceiver) :
    (self.resumed receiver).connection.selection =
      receiver.connection.selection := by
  unfold resumed
  simp only
  split
  · unfold received
    split
    · rfl
    · split
      · exact receive_selection
      · rfl
  · rfl

theorem send_selection
    (packet : List UInt8)
    (draw : SendDraw) :
    (self.send aead packet draw).connection.selection =
      self.connection.selection := by
  unfold send
  split
  · rfl
  · rename_i ready staged
    simp only [TCPConnection.readTun, Option.bind_eq_bind,
      Option.bind_eq_some_iff, Option.some.injEq] at staged
    obtain ⟨members, _, rfl⟩ := staged
    split
    · split
      · rfl
      · rename_i connection socket frame sends
        unfold TCPConnection.Send at sends
        split at sends
        · cases sends
        · split at sends
          · cases sends
          · obtain ⟨rfl, _⟩ := Prod.mk.inj (Except.ok.inj sends)
            rfl
    · rfl

/-- `Close` does not change anything. -/
theorem close_eq
    (connected : self.connection.selection = connectedSelection) :
    self.close = self := by
  have unselected : self.connection.selected = false :=
    congrArg Selection.selected connected
  have notAccepting : self.connection.tcp_acceptor_open = false :=
    congrArg Selection.tcp_acceptor_open connected
  unfold close
  rw [TCPConnection.Close_unselected unselected, ← notAccepting]
  rfl

/-- In every run the pointers and flags stay as `Connect` left them. -/
theorem step_connected
    {event : TcpClientEvent}
    (connected : self.connection.selection = connectedSelection)
    (performed : step aead self event = some next) :
    next.connection.selection = connectedSelection := by
  have receives
      (stepped : self.stepReceiveLoop aead event = some next) :
      next.connection.selection = self.connection.selection := by
    unfold stepReceiveLoop at stepped
    split at stepped
    · obtain ⟨receiver, received, rfl⟩ :=
        Option.map_eq_some_iff.mp stepped
      exact (resumed_selection receiver).trans
        (receiver_step_selection received)
    · obtain rfl := Option.some.inj stepped
      split
      · rfl
      · exact receive_selection
    · cases stepped
  have sends
      (stepped : self.stepSendLoop aead event = some next) :
      next.connection.selection = self.connection.selection := by
    unfold stepSendLoop at stepped
    split at stepped
    · obtain rfl := Option.some.inj stepped
      exact send_selection _ _
    · obtain rfl := Option.some.inj stepped
      rfl
    · split at stepped
      · obtain rfl := Option.some.inj stepped
        rfl
      · cases stepped
    · obtain rfl := Option.some.inj stepped
      rfl
    · obtain rfl := Option.some.inj stepped
      rfl
    · cases stepped
  unfold step at performed
  split at performed
  · cases performed
  · cases event with
    | receive _ => exact (receives performed).trans connected
    | tunWritten _ => exact (receives performed).trans connected
    | tunFailed => exact (sends performed).trans connected
    | send _ _ => exact (sends performed).trans connected
    | writeSome _ => exact (sends performed).trans connected
    | writeError _ => exact (sends performed).trans connected
    | resumeSend => exact (sends performed).trans connected
    | close =>
        obtain rfl := Option.some.inj performed
        rw [close_eq connected]
        exact connected

end

end TcpClient

end Dsvpn
