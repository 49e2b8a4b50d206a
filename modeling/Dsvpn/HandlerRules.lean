import Dsvpn.SendRun
import Dsvpn.TcpServer

namespace Dsvpn

open ProtocolHeader

/-!
# One rule for each handler of the server

A rule says what a property has to hold of for it to hold after the handler:
the state at the end of each of its branches, with what the handler has tested
on the way.  A proof about every step cites the rules and does not look into
the handlers.
-/

namespace TcpServer

section

variable
    {aead : Aead 16}
    {self : TcpServer}

/-- `ReceiveFrom` reads a header, or sleeps until a connection is selected. -/
theorem receiveFrom_rule
    {After : TcpServer → Prop}
    (null :
      self.connection.selected = true →
      self.connection.conn_socket = none →
      After (self.setFault .nullDereference))
    (reads :
      ∀ socket,
        self.connection.selected = true →
        self.connection.conn_socket = some socket →
        After
          { self with
            receiveLoop :=
              .readHeader socket (self.startRead socket 0 Size) })
    (sleeps :
      self.connection.selected = false →
      After { self with receiveLoop := .waitSelected false }) :
    After self.receiveFrom := by
  unfold TcpServer.receiveFrom
  split
  · rename_i selected
    split
    · rename_i isNull
      exact null selected isNull
    · rename_i socket current
      exact reads socket selected current
  · rename_i unselected
    exact sleeps (Bool.eq_false_iff.mpr unselected)

/--
After a return the receive loop ends, reads again or writes to the TUN device.
-/
theorem returnFrom_rule
    {Returned After : TcpServer → Prop}
    {bytes_read : Int}
    {error : Option ErrorCode}
    (returned :
      Returned
        (self.record (.returned ⟨bytes_read, error,
          self.connection.conn_recv_buffer.slice
            Size bytes_read.toNat⟩)))
    (ended : ∀ {state}, Returned state → After state.endReceiveLoop)
    (again : ∀ {state}, Returned state → After state.receiveFrom)
    (written :
      ∀ {state : TcpServer} packet,
        Returned state →
        After
          { state.record (.tunWritten packet) with
            receiveLoop := .writeTun }) :
    After (self.returnFrom bytes_read error) := by
  unfold TcpServer.returnFrom
  simp only
  split
  · exact ended returned
  · split
    · exact ended returned
    · split
      · exact again returned
      · exact written _ returned

/--
A lost connection is closed, and `ReceiveFrom` goes on without one or with the
one that waits.
-/
theorem loseConnection_rule
    {After : TcpServer → Prop}
    (null :
      self.connection.conn_socket = none →
      After (self.setFault .nullDereference))
    (alone :
      ∀ socket,
        self.connection.conn_socket = some socket →
        self.connection.replace_socket = none →
        After
          (receiveFrom
            { self.closeSocket socket with
              connection :=
                { self.connection with
                  conn_socket := none
                  selected := false } }))
    (replaced :
      ∀ socket replacement,
        self.connection.conn_socket = some socket →
        self.connection.replace_socket = some replacement →
        After
          (receiveFrom
            { self.closeSocket socket with
              connection :=
                { self.connection with
                  conn_socket := some replacement
                  replace_socket := none
                  selected := true } })) :
    After self.loseConnection := by
  unfold TcpServer.loseConnection
  split
  · rename_i isNull
    exact null isNull
  · rename_i socket current
    simp only
    split
    · rename_i nothing
      exact alone socket current nothing
    · rename_i replacement waiting
      exact replaced socket replacement current waiting

/-- After a failed header read `ReceiveFrom` returns or goes on. -/
theorem resumeHeader_failed
    {After : TcpServer → Prop}
    {reading : SocketId}
    {error : ErrorCode}
    (stopped :
      self.connection.stopped = true →
      After
        ((self.record (.readFailed reading)).returnFrom (-1) (some error)))
    (lost :
      self.connection.stopped = false →
      After (self.record (.readFailed reading)).loseConnection)
    (bytes_read : Nat) :
    After (self.resumeHeader aead reading bytes_read (some error)) := by
  unfold TcpServer.resumeHeader
  rw [if_pos (by simp)]
  simp only
  split
  · rename_i isStopped
    exact stopped isStopped
  · rename_i running
    exact lost (Bool.eq_false_iff.mpr running)

/--
After a header read without an error the loop reads another header, or the
payload that the header announces.
-/
theorem resumeHeader_complete
    {After : TcpServer → Prop}
    {bytes_read : Nat}
    (nothing : bytes_read = 0 → After self.receiveFrom)
    (empty :
      ∀ header, bytes_read ≠ 0 → After (self.setBuffer header).receiveFrom)
    (null :
      ∀ header,
        bytes_read ≠ 0 →
        self.connection.conn_socket = none →
        After ((self.setBuffer header).setFault .nullDereference))
    (announced :
      ∀ header socket payload_len,
        bytes_read ≠ 0 →
        self.connection.conn_socket = some socket →
        After
          { self.setBuffer header with
            receiveLoop :=
              .readPayload socket
                (self.startRead socket Size payload_len) })
    (reading : SocketId) :
    After (self.resumeHeader aead reading bytes_read none) := by
  unfold TcpServer.resumeHeader
  rw [if_neg (by simp)]
  split
  · rename_i isNothing
    exact nothing isNothing
  · rename_i something
    simp only
    split
    · exact empty _ something
    · split
      · rename_i isNull
        exact null _ something isNull
      · rename_i socket current
        exact announced _ socket _ something current

/--
After a payload read the failure is recorded, and then the loop reads again, is
outside the buffer or returns.
-/
theorem resumePayload_rule
    {Before After : TcpServer → Prop}
    {reading : SocketId}
    {error : Option ErrorCode}
    (recorded : Before (self.record (.readFailed reading)))
    (before : Before self)
    (outside :
      ∀ {state}, Before state → After (state.setFault .outOfBounds))
    (opened :
      ∀ {state : TcpServer} protocol header,
        Before state →
        Before
          { state with
            connection :=
              { state.connection with
                protocol := protocol
                conn_recv_buffer := header } })
    (again : ∀ {state}, Before state → After state.receiveFrom)
    (returned :
      ∀ {state} value, Before state → After (state.returnFrom value error))
    (bytes_read : Nat) :
    After (self.resumePayload aead reading bytes_read error) := by
  have completed :
      Before
        (if error.isSome then
          self.record (.readFailed reading)
        else
          self) := by
    split
    · exact recorded
    · exact before
  unfold TcpServer.resumePayload
  simp only
  generalize
    (if error.isSome then
      self.record (.readFailed reading)
    else
      self) = state at completed ⊢
  split
  · exact again completed
  · split
    · exact outside completed
    · rename_i protocol header accepted _
      have after := opened protocol header completed
      split
      · exact returned _ after
      · exact again after

theorem drop_conn_socket
    (socket : Option SocketId) :
    (self.drop socket).connection = self.connection := by
  cases socket <;> rfl

/-- The chosen socket waits, in the place of the one that waited so far. -/
def queueReplacement
    (self : TcpServer)
    (socket : SocketId)
    (authenticated : Bool) : TcpServer :=
  drop
    { self.record (.chosen socket authenticated) with
      tryReceive := Function.update self.tryReceive socket .finished
      connection :=
        { self.connection with replace_socket := some socket } }
    self.connection.replace_socket

theorem queueReplacement_connection
    (socket : SocketId)
    (authenticated : Bool) :
    (self.queueReplacement socket authenticated).connection =
      { self.connection with replace_socket := some socket } :=
  drop_conn_socket _

/--
A chosen socket becomes the current one, or waits until the read of the
current one is cancelled.
-/
theorem choose_rule
    {After : TcpServer → Prop}
    {socket : SocketId}
    {authenticated : Bool}
    (first :
      self.connection.selected = false →
      After
        (drop
          { self.record (.chosen socket authenticated) with
            tryReceive := Function.update self.tryReceive socket .finished
            connection :=
              { self.connection with
                selected := true
                conn_socket := some socket }
            receiveLoop := self.receiveLoop.wake }
          self.connection.conn_socket))
    (null :
      self.connection.selected = true →
      self.connection.conn_socket = none →
      After
        ((self.queueReplacement socket authenticated).setFault
          .nullDereference))
    (cancelled :
      ∀ current,
        self.connection.selected = true →
        self.connection.conn_socket = some current →
        ((self.queueReplacement socket authenticated).socket
          current).is_open = true →
        After
          ((self.queueReplacement socket authenticated).cancel current))
    (thrown :
      ∀ current,
        self.connection.selected = true →
        self.connection.conn_socket = some current →
        ((self.queueReplacement socket authenticated).socket
          current).is_open = false →
        After
          ((self.queueReplacement socket authenticated).setFault
            .uncaughtException)) :
    After (self.choose socket authenticated) := by
  unfold TcpServer.choose
  simp only
  split
  · rename_i selected
    split
    · rename_i isNull
      rw [drop_conn_socket] at isNull
      exact null selected isNull
    · rename_i current isCurrent
      rw [drop_conn_socket] at isCurrent
      split
      · rename_i isOpen
        exact cancelled current selected isCurrent isOpen
      · rename_i closed
        exact thrown current selected isCurrent
          (Bool.eq_false_iff.mpr closed)
  · rename_i unselected
    exact first (Bool.eq_false_iff.mpr unselected)

/-- A handshake gives up, or reads the payload that the header announces. -/
theorem resumeTryHeader_rule
    {After : TcpServer → Prop}
    {socket : SocketId}
    {bytes_read : Nat}
    (nothing : After (self.giveUp socket))
    (empty : ∀ header, After ((self.setBuffer header).giveUp socket))
    (announced :
      ∀ header payload_len,
        After
          { self.setBuffer header with
            tryReceive :=
              Function.update self.tryReceive socket
                (.readPayload
                  (self.startRead socket Size payload_len)) }) :
    After (self.resumeTryHeader aead socket bytes_read) := by
  unfold TcpServer.resumeTryHeader
  split
  · exact nothing
  · simp only
    split
    · exact empty _
    · exact announced _ _

/--
A handshake ends in an exception, without a choice or in one; the exceptions
are those of the read and of the two endpoints.
-/
theorem resumeTryPayload_rule
    {After : TcpServer → Prop}
    {socket : SocketId}
    {bytes_read : Nat}
    {error : Option ErrorCode}
    (thrown : After (self.setFault .uncaughtException))
    (nothing :
      error = none →
      bytes_read = 0 →
      After (self.giveUp socket))
    (outside :
      self.connection.protocol.DecryptPayload aead
          self.connection.conn_recv_buffer =
        none →
      After (self.setFault .outOfBounds))
    (chosen :
      ∀ protocol header accepted,
        error = none →
        bytes_read ≠ 0 →
        self.connection.protocol.DecryptPayload aead
            self.connection.conn_recv_buffer =
          some (protocol, header, accepted) →
        self.connection.tcp_acceptor_open = true →
        (self.socket socket).connected = true →
        After
          (TcpServer.choose
            { self with
              connection :=
                { self.connection with
                  protocol := protocol
                  conn_recv_buffer := header } }
            socket accepted))
    (unreached :
      ∀ protocol header accepted,
        error = none →
        bytes_read ≠ 0 →
        self.connection.protocol.DecryptPayload aead
            self.connection.conn_recv_buffer =
          some (protocol, header, accepted) →
        After
          (TcpServer.setFault
            { self with
              connection :=
                { self.connection with
                  protocol := protocol
                  conn_recv_buffer := header } }
            .uncaughtException)) :
    After (self.resumeTryPayload aead socket bytes_read error) := by
  unfold TcpServer.resumeTryPayload
  split
  · exact thrown
  · rename_i complete
    rw [Option.not_isSome_iff_eq_none] at complete
    split
    · rename_i isNothing
      exact nothing complete isNothing
    · rename_i something
      split
      · rename_i isOutside
        exact outside isOutside
      · rename_i protocol header accepted opens
        simp only
        split
        · rename_i reaches
          exact chosen protocol header accepted complete something opens
            reaches.1 reaches.2
        · exact unreached protocol header accepted complete something
            opens

/--
What the TUN loop does with a packet: it fails, keeps it to itself, or starts
to write its frame to the current socket.
-/
theorem sendTo_cases
    (aead : Aead 16)
    (self : TcpServer)
    (packet : List UInt8)
    (draw : SendDraw) :
    (∃ fault,
        self.sendTo aead packet draw = self.setFault fault ∧
          (fault = .outOfBounds ∨
            (fault = .nullDereference ∧
              self.connection.selected = true ∧
              self.connection.conn_socket = none))) ∨
      (∃ members,
        self.sendTo aead packet draw =
            { self with
              connection :=
                { self.connection with toIConnection := members } } ∧
          members.protocol.key = self.connection.protocol.key ∧
          members.conn_recv_buffer = self.connection.conn_recv_buffer) ∨
      ∃ members socket,
        self.sendTo aead packet draw =
            { self with
              connection :=
                { self.connection with toIConnection := members }
              sendLoop :=
                .writing socket
                  (frameBytes aead self.connection.protocol.key packet
                    draw)
                  0
                  (if (self.socket socket).is_open then
                    none
                  else
                    some (some .bad_descriptor)) } ∧
          members.protocol.key = self.connection.protocol.key ∧
          members.conn_recv_buffer = self.connection.conn_recv_buffer ∧
          self.connection.selected = true ∧
          self.connection.conn_socket = some socket ∧
          packet.length ≤ MAX_BUFFSIZE := by
  unfold TcpServer.sendTo TCPConnection.readTun
  cases staged : self.connection.toIConnection.readTun packet with
  | none => exact Or.inl ⟨_, rfl, Or.inl rfl⟩
  | some ready =>
      have stages := staged
      simp only [IConnection.readTun, Option.bind_eq_bind,
        Option.bind_eq_some_iff, Option.some.injEq] at stages
      obtain ⟨buffer, _, rfl⟩ := stages
      simp only [Option.bind_eq_bind, Option.bind_some]
      split
      · rcases TCPConnection.SendTo_cases aead
            { self.connection with tun_recv_buffer := buffer }
            packet.length draw with
          ⟨fault, fails, because⟩ | drops |
          ⟨members, socket, frame, sends, selected, current, sealed⟩
        · rw [fails]
          exact Or.inl ⟨fault, rfl, because⟩
        · rw [drops]
          exact Or.inr (Or.inl ⟨_, rfl, rfl, rfl⟩)
        · obtain ⟨fits, rfl, key, _, untouched⟩ :=
            IConnection.encryptFrame_readTun staged sealed
          rw [sends]
          exact Or.inr (Or.inr
            ⟨members, socket, rfl, key, untouched, selected, current,
              fits⟩)
      · exact Or.inr (Or.inl ⟨_, rfl, rfl, rfl⟩)

/-- In each case at most these members of the server are others. -/
theorem sendTo_changes
    (aead : Aead 16)
    (self : TcpServer)
    (packet : List UInt8)
    (draw : SendDraw) :
    ∃ members pc fault,
      self.sendTo aead packet draw =
          { self with
            connection :=
              { self.connection with toIConnection := members }
            sendLoop := pc
            fault := fault } ∧
        members.protocol.key = self.connection.protocol.key ∧
        members.conn_recv_buffer = self.connection.conn_recv_buffer := by
  rcases sendTo_cases aead self packet draw with
    ⟨_, faulted, _⟩ | ⟨members, kept, key, buffer⟩ |
      ⟨members, socket, writes, key, buffer, _⟩
  · exact ⟨_, _, _, faulted, rfl, rfl⟩
  · exact ⟨members, _, _, kept, key, buffer⟩
  · exact ⟨members, _, _, writes, key, buffer⟩

/--
After a write `SendTo` returns; a failed one first cancels the current socket
and deselects it, unless `Close` has run.
-/
theorem resumeSendTo_rule
    {After : TcpServer → Prop}
    {writing : SocketId}
    {error : Option ErrorCode}
    (returned : After { self with sendLoop := .readTun })
    (stopped :
      error.isSome →
      self.connection.stopped = true →
      After
        (TcpServer.record { self with sendLoop := .readTun }
          (.writeFailed writing)))
    (null :
      error.isSome →
      self.connection.stopped = false →
      self.connection.conn_socket = none →
      After
        ((TcpServer.record { self with sendLoop := .readTun }
          (.writeFailed writing)).setFault .nullDereference))
    (deselected :
      ∀ socket,
        error.isSome →
        self.connection.stopped = false →
        self.connection.conn_socket = some socket →
        After
          { ((TcpServer.record { self with sendLoop := .readTun }
              (.writeFailed writing)).cancel socket).record
                (.deselected socket) with
            connection := { self.connection with selected := false } }) :
    After (self.resumeSendTo writing error) := by
  unfold TcpServer.resumeSendTo
  simp only
  split
  · rename_i failed
    split
    · rename_i isStopped
      exact stopped failed isStopped
    · rename_i running
      have isRunning : self.connection.stopped = false :=
        Bool.eq_false_iff.mpr running
      split
      · rename_i isNull
        exact null failed isRunning isNull
      · rename_i socket current
        exact deselected socket failed isRunning current
  · exact returned

/-- `Close` always ends the accept loop. -/
def refuseConnections (self : TcpServer) : TcpServer :=
  { self with
    connection := { self.connection with tcp_acceptor_open := false }
    acceptor :=
      if self.acceptor = .waiting then .ended else self.acceptor }

/-- It also closes the current socket, if a connection is selected. -/
theorem close_rule
    {After : TcpServer → Prop}
    (refused : After self.refuseConnections)
    (null :
      self.connection.selected = true →
      self.connection.conn_socket = none →
      After (self.refuseConnections.setFault .nullDereference))
    (closed :
      ∀ socket,
        self.connection.selected = true →
        self.connection.conn_socket = some socket →
        After
          { self.refuseConnections.closeSocket socket with
            connection :=
              { self.connection with
                tcp_acceptor_open := false
                conn_socket := none
                selected := false
                stopped := true } }) :
    After self.close := by
  unfold TcpServer.close
  simp only
  split
  · rename_i selecting
    split
    · rename_i isNull
      exact null selecting.2 isNull
    · rename_i socket current
      exact closed socket selecting.2 current
  · exact refused

end

end TcpServer

end Dsvpn
