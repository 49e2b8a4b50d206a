import Dsvpn.Orderly

namespace Dsvpn

open ProtocolHeader

/-!
# When the server's socket pointer is null

`conn_socket` is reset by `ReceiveFrom` and by `Close`, while other coroutines
are suspended in operations they started on it.  The invariant says in which
suspensions the pointer is known to be set; the two resumptions it does not
cover are exactly those that can use a null pointer.
-/

namespace TcpServer

/-- What the flags say about the pointer, wherever `ReceiveFrom` is. -/
structure FlagsGuard (server : TcpServer) : Prop where
  selectedSet :
    server.connection.selected = true →
      server.connection.conn_socket ≠ none
  writingSelected :
    ∀ socket frame sent outcome,
      server.sendLoop = .writing socket frame sent outcome →
      server.connection.stopped = false →
      server.connection.conn_socket ≠ none →
      server.connection.selected = true
  stoppedClosed :
    server.connection.stopped = true →
      server.connection.conn_socket = none ∧
        server.connection.selected = false ∧
        server.connection.tcp_acceptor_open = false

/-- While a header read is suspended, only `Close` resets the pointer. -/
structure PointerGuard (server : TcpServer) : Prop
    extends FlagsGuard server where
  readingSet :
    ∀ socket op,
      server.receiveLoop = .readHeader socket op →
      server.connection.stopped = false →
      server.connection.conn_socket ≠ none

/-- No null pointer has been used. -/
def PointerSafe (self : TcpServer) : Prop :=
  self.fault ≠ some .nullDereference

instance (self : TcpServer) : Decidable self.PointerSafe :=
  inferInstanceAs (Decidable (_ ≠ _))

/--
Before `Close`, `SendTo` is resumed from a failed write only while a
connection is selected; and after `Close`, `ReceiveFrom` is not resumed from a
complete header read whose header opens.
-/
def ResumesWithSocket
    (aead : Aead 16)
    (self : TcpServer)
    (event : TcpServerEvent) : Prop :=
  match event with
  | .resumeSendTo =>
      ∀ socket frame sent error,
        self.sendLoop = .writing socket frame sent (some (some error)) →
        self.connection.stopped = false →
        self.connection.selected = true
  | .resume =>
      ∀ socket op,
        self.receiveLoop = .readHeader socket op →
        op.outcome = some none →
        op.got ≠ 0 →
        (self.connection.protocol.DecryptHeader aead
          self.connection.conn_recv_buffer).2 ≠ 0 →
        self.connection.stopped = false
  | _ =>
      True

section

variable
    {aead : Aead 16}
    {self next : TcpServer}

theorem PointerGuard.create
    (conn_key : List UInt8)
    (addresses : Server) :
    (create conn_key addresses).PointerGuard where
  selectedSet := fun selected => by cases selected
  writingSelected := fun _ _ _ _ writing => by cases writing
  stoppedClosed := fun stopped => by cases stopped
  readingSet := fun _ _ reading => by cases reading

/-- `ReceiveFrom` starts a read only on a set pointer. -/
theorem FlagsGuard.receiveFrom
    (flags : self.FlagsGuard) :
    self.receiveFrom.PointerGuard := by
  apply receiveFrom_rule
  case null =>
    intro selected null
    exact (flags.selectedSet selected null).elim
  case reads =>
    intro socket _ current
    exact
      { selectedSet := flags.selectedSet
        writingSelected := flags.writingSelected
        stoppedClosed := flags.stoppedClosed
        readingSet := fun _ _ _ _ null => by simp [current] at null }
  case sleeps =>
    intro _
    exact
      { selectedSet := flags.selectedSet
        writingSelected := flags.writingSelected
        stoppedClosed := flags.stoppedClosed
        readingSet := fun _ _ reading => by cases reading }

theorem FlagsGuard.record
    (flags : self.FlagsGuard)
    (action : Action) :
    (self.record action).FlagsGuard where
  selectedSet := flags.selectedSet
  writingSelected := flags.writingSelected
  stoppedClosed := flags.stoppedClosed

theorem FlagsGuard.endReceiveLoop
    (flags : self.FlagsGuard) :
    self.endReceiveLoop.PointerGuard where
  selectedSet := flags.selectedSet
  writingSelected := flags.writingSelected
  stoppedClosed := flags.stoppedClosed
  readingSet := fun _ _ reading => by cases reading

theorem FlagsGuard.returnFrom
    (flags : self.FlagsGuard)
    (bytes_read : Int)
    (error : Option ErrorCode) :
    (self.returnFrom bytes_read error).PointerGuard := by
  refine returnFrom_rule (flags.record _)
    (fun held => held.endReceiveLoop) (fun held => held.receiveFrom) ?_
  intro state packet held
  exact
    { selectedSet := held.selectedSet
      writingSelected := held.writingSelected
      stoppedClosed := held.stoppedClosed
      readingSet := fun _ _ reading => by cases reading }

/-- Aborting operations on a socket never starts a write or a read. -/
theorem SendLoopPc.abort_eq_writing
    {pc : SendLoopPc}
    {target socket : SocketId}
    {frame : List UInt8}
    {sent : Nat}
    {outcome : Option (Option ErrorCode)}
    (aborted : pc.abort target = .writing socket frame sent outcome) :
    ∃ earlier, pc = .writing socket frame sent earlier := by
  unfold SendLoopPc.abort at aborted
  split at aborted
  · split at aborted
    · simp only [SendLoopPc.writing.injEq] at aborted
      obtain ⟨rfl, rfl, rfl, _⟩ := aborted
      exact ⟨_, rfl⟩
    · exact ⟨_, aborted⟩
  · exact ⟨_, aborted⟩

theorem ReceiveLoopPc.abort_eq_readHeader
    {pc : ReceiveLoopPc}
    {target socket : SocketId}
    {op : ReadOp}
    (aborted : pc.abort target = .readHeader socket op) :
    ∃ earlier, pc = .readHeader socket earlier := by
  unfold ReceiveLoopPc.abort at aborted
  split at aborted
  · split at aborted
    · simp only [ReceiveLoopPc.readHeader.injEq] at aborted
      obtain ⟨rfl, _⟩ := aborted
      exact ⟨_, rfl⟩
    · exact ⟨_, aborted⟩
  · split at aborted
    · cases aborted
    · cases aborted
  · exact ⟨_, aborted⟩

theorem FlagsGuard.abort
    (flags : self.FlagsGuard)
    (socket : SocketId) :
    (self.abort socket).FlagsGuard where
  selectedSet := flags.selectedSet
  writingSelected := fun _ _ _ _ writing => by
    obtain ⟨_, earlier⟩ := SendLoopPc.abort_eq_writing writing
    exact flags.writingSelected _ _ _ _ earlier
  stoppedClosed := flags.stoppedClosed

theorem PointerGuard.abort
    (guard : self.PointerGuard)
    (socket : SocketId) :
    (self.abort socket).PointerGuard where
  toFlagsGuard := guard.toFlagsGuard.abort socket
  readingSet := fun _ _ reading => by
    obtain ⟨_, earlier⟩ := ReceiveLoopPc.abort_eq_readHeader reading
    exact guard.readingSet _ _ earlier

theorem PointerGuard.record
    (guard : self.PointerGuard)
    (action : Action) :
    (self.record action).PointerGuard where
  toFlagsGuard := guard.toFlagsGuard.record action
  readingSet := guard.readingSet

theorem PointerGuard.shut
    (guard : self.PointerGuard)
    (socket : SocketId) :
    (self.shut socket).PointerGuard where
  selectedSet := guard.selectedSet
  writingSelected := guard.writingSelected
  stoppedClosed := guard.stoppedClosed
  readingSet := guard.readingSet

theorem PointerGuard.setFault
    (guard : self.PointerGuard)
    (fault : Fault) :
    (self.setFault fault).PointerGuard where
  selectedSet := guard.selectedSet
  writingSelected := guard.writingSelected
  stoppedClosed := guard.stoppedClosed
  readingSet := guard.readingSet

theorem PointerGuard.cancel
    (guard : self.PointerGuard)
    (socket : SocketId) :
    (self.cancel socket).PointerGuard :=
  (guard.abort socket).record _

theorem PointerGuard.drop
    (guard : self.PointerGuard)
    (socket : Option SocketId) :
    (self.drop socket).PointerGuard := by
  cases socket with
  | none => exact guard
  | some socket => exact ((guard.abort socket).shut socket).record _

/-- The connection closes what it reads from, or moves on to the next. -/
theorem PointerGuard.loseConnection
    (guard : self.PointerGuard)
    (running : self.connection.stopped = false) :
    self.loseConnection.PointerGuard := by
  have notStopped {state : TcpServer}
      (same : state.connection.stopped = self.connection.stopped)
      (stopped : state.connection.stopped = true) : False := by
    rw [same, running] at stopped
    cases stopped
  apply loseConnection_rule
  case null =>
    intro _
    exact guard.setFault _
  case alone =>
    intro socket _ _
    apply FlagsGuard.receiveFrom
    exact
      { selectedSet := fun selected => by cases selected
        writingSelected := fun _ _ _ _ _ _ null => (null rfl).elim
        stoppedClosed := fun stopped => (notStopped rfl stopped).elim }
  case replaced =>
    intro socket replacement _ _
    apply FlagsGuard.receiveFrom
    exact
      { selectedSet := fun _ null => by cases null
        writingSelected := fun _ _ _ _ _ _ _ => rfl
        stoppedClosed := fun stopped => (notStopped rfl stopped).elim }

/-- Only the receive buffer, or the crypto state, changes. -/
theorem PointerGuard.setConnection
    (guard : self.PointerGuard)
    (connection : IConnection) :
    PointerGuard
      { self with
        connection :=
          { self.connection with toIConnection := connection } } where
  selectedSet := guard.selectedSet
  writingSelected := guard.writingSelected
  stoppedClosed := guard.stoppedClosed
  readingSet := guard.readingSet

theorem PointerGuard.resumeHeader
    (guard : self.PointerGuard)
    (reading : SocketId)
    (bytes_read : Nat)
    (error : Option ErrorCode) :
    (self.resumeHeader aead reading bytes_read error).PointerGuard := by
  cases error with
  | some error =>
      exact resumeHeader_failed
        (fun _ => (guard.toFlagsGuard.record _).returnFrom _ _)
        (fun running => (guard.record _).loseConnection running)
        bytes_read
  | none =>
      have opened (header : PacketBuffer) :
          (self.setBuffer header).PointerGuard :=
        guard.setConnection
          { self.connection.toIConnection with
            conn_recv_buffer := header }
      apply resumeHeader_complete
      case nothing =>
        intro _
        exact guard.toFlagsGuard.receiveFrom
      case empty =>
        intro header _
        exact (opened header).toFlagsGuard.receiveFrom
      case null =>
        intro header _ _
        exact (opened header).setFault _
      case announced =>
        intro header socket payload_len _ _
        exact
          { opened header with
            readingSet := fun _ _ isHeader => by cases isHeader }

theorem PointerGuard.resumePayload
    (guard : self.PointerGuard)
    (reading : SocketId)
    (bytes_read : Nat)
    (error : Option ErrorCode) :
    (self.resumePayload aead reading bytes_read error).PointerGuard := by
  refine resumePayload_rule (guard.record _) guard
    (fun held => held.setFault _) ?opened
    (fun held => held.toFlagsGuard.receiveFrom)
    (fun _ held => held.toFlagsGuard.returnFrom _ _) bytes_read
  case opened =>
    intro state protocol header held
    exact held.setConnection
      { state.connection.toIConnection with
        protocol := protocol
        conn_recv_buffer := header }

theorem PointerGuard.choose
    (guard : self.PointerGuard)
    (open_ : self.connection.tcp_acceptor_open = true)
    (socket : SocketId)
    (authenticated : Bool) :
    (self.choose socket authenticated).PointerGuard := by
  have running : self.connection.stopped = false := by
    cases stopped : self.connection.stopped with
    | false => rfl
    | true =>
        obtain ⟨_, _, closed⟩ := guard.stoppedClosed stopped
        rw [closed] at open_
        cases open_
  have queued :
      (self.queueReplacement socket authenticated).PointerGuard := by
    apply PointerGuard.drop
    exact
      { selectedSet := guard.selectedSet
        writingSelected := guard.writingSelected
        stoppedClosed := guard.stoppedClosed
        readingSet := guard.readingSet }
  apply choose_rule
  case first =>
    intro _
    apply PointerGuard.drop
    exact
      { selectedSet := fun _ null => by cases null
        writingSelected := fun _ _ _ _ _ _ _ => rfl
        stoppedClosed := fun after => by
          have same : self.connection.stopped = true := after
          rw [running] at same
          cases same
        readingSet := fun _ _ _ _ null => by cases null }
  case null =>
    intro _ _
    exact queued.setFault _
  case cancelled =>
    intro current _ _ _
    exact queued.cancel _
  case thrown =>
    intro current _ _ _
    exact queued.setFault _

theorem PointerGuard.giveUp
    (guard : self.PointerGuard)
    (socket : SocketId) :
    (self.giveUp socket).PointerGuard where
  selectedSet := guard.selectedSet
  writingSelected := guard.writingSelected
  stoppedClosed := guard.stoppedClosed
  readingSet := guard.readingSet

theorem PointerGuard.resumeTryHeader
    (guard : self.PointerGuard)
    (socket : SocketId)
    (bytes_read : Nat) :
    (self.resumeTryHeader aead socket bytes_read).PointerGuard := by
  apply resumeTryHeader_rule
  case nothing => exact guard.giveUp socket
  case empty =>
    intro header
    exact { guard.giveUp socket with }
  case announced =>
    intro header payload_len
    exact { guard with }

theorem PointerGuard.resumeTryPayload
    (guard : self.PointerGuard)
    (socket : SocketId)
    (bytes_read : Nat)
    (error : Option ErrorCode) :
    (self.resumeTryPayload aead socket bytes_read error).PointerGuard := by
  have opened (protocol : Protocol) (header : PacketBuffer) :=
    guard.setConnection
      { self.connection.toIConnection with
        protocol := protocol
        conn_recv_buffer := header }
  apply resumeTryPayload_rule
  case thrown => exact guard.setFault _
  case nothing =>
    intro _ _
    exact guard.giveUp socket
  case outside =>
    intro _
    exact guard.setFault _
  case chosen =>
    intro protocol header accepted _ _ _ accepting _
    exact (opened protocol header).choose accepting socket accepted
  case unreached =>
    intro protocol header accepted _ _ _
    exact (opened protocol header).setFault _

/-- `SendTo` starts a write only while a connection is selected. -/
theorem PointerGuard.sendTo
    (guard : self.PointerGuard)
    (packet : List UInt8)
    (draw : SendDraw) :
    (self.sendTo aead packet draw).PointerGuard := by
  rcases sendTo_cases aead self packet draw with
    ⟨_, faulted, _⟩ | ⟨members, kept, _⟩ |
      ⟨_, _, writes, _, _, selected, _⟩
  · rw [faulted]
    exact guard.setFault _
  · rw [kept]
    exact guard.setConnection members
  · rw [writes]
    exact
      { selectedSet := guard.selectedSet
        writingSelected := fun _ _ _ _ _ _ _ => selected
        stoppedClosed := guard.stoppedClosed
        readingSet := guard.readingSet }

theorem PointerGuard.resumeSendTo
    (guard : self.PointerGuard)
    (writing : SocketId)
    (error : Option ErrorCode) :
    (self.resumeSendTo writing error).PointerGuard := by
  have returned : PointerGuard { self with sendLoop := .readTun } :=
    { selectedSet := guard.selectedSet
      writingSelected := fun _ _ _ _ isWriting => by cases isWriting
      stoppedClosed := guard.stoppedClosed
      readingSet := guard.readingSet }
  have failed := returned.record (.writeFailed writing)
  apply resumeSendTo_rule
  case returned => exact returned
  case stopped =>
    intro _ _
    exact failed
  case null =>
    intro _ _ _
    exact failed.setFault _
  case deselected =>
    intro socket _ _ _
    have cancelled := (failed.cancel socket).record (.deselected socket)
    exact
      { selectedSet := fun selected => by cases selected
        writingSelected := fun _ _ _ _ isWriting => by cases isWriting
        stoppedClosed := fun stopped => by
          obtain ⟨null, _, closed⟩ := cancelled.stoppedClosed stopped
          exact ⟨null, rfl, closed⟩
        readingSet := cancelled.readingSet }

theorem PointerGuard.close
    (guard : self.PointerGuard) :
    self.close.PointerGuard := by
  have refusing : self.refuseConnections.PointerGuard :=
    { selectedSet := guard.selectedSet
      writingSelected := guard.writingSelected
      stoppedClosed := fun stopped => by
        obtain ⟨null, deselected, _⟩ := guard.stoppedClosed stopped
        exact ⟨null, deselected, rfl⟩
      readingSet := guard.readingSet }
  apply close_rule
  case refused => exact refusing
  case null =>
    intro _ _
    exact refusing.setFault _
  case closed =>
    intro socket _ _
    exact
      { selectedSet := fun selected => by cases selected
        writingSelected := fun _ _ _ _ _ stopped => by cases stopped
        stoppedClosed := fun _ => ⟨rfl, rfl, rfl⟩
        readingSet := fun _ _ _ stopped => by cases stopped }

/-- Every step keeps the guard. -/
theorem PointerGuard.step
    {event : TcpServerEvent}
    (guard : self.PointerGuard)
    (performed : TcpServer.step aead self event = some next) :
    next.PointerGuard := by
  obtain ⟨_, transition⟩ := step_transition performed
  cases transition with
  | incoming _ => exact { guard with }
  | resumeAccept _ => exact { guard with }
  | disconnect _ => exact { guard with }
  | arriveTryHeader _ _ _ => exact { guard with }
  | arriveTryPayload _ _ _ => exact { guard with }
  | arriveTryOutside _ _ _ => exact guard.setFault _
  | failTryHeader _ _ => exact { guard with }
  | failTryPayload _ _ => exact { guard with }
  | resumeTryHeader _ _ => exact guard.resumeTryHeader _ _
  | resumeTryPayload _ _ => exact guard.resumeTryPayload _ _ _
  | wake _ => exact guard.toFlagsGuard.receiveFrom
  | arriveHeader reading _ _ =>
      exact
        { guard with
          readingSet := fun _ _ _ => guard.readingSet _ _ reading }
  | arrivePayload _ _ _ =>
      exact
        { guard with
          readingSet := fun _ _ isHeader => by cases isHeader }
  | arriveOutside _ _ _ => exact guard.setFault _
  | failHeader _ reading =>
      exact
        { guard with
          readingSet := fun _ _ _ => guard.readingSet _ _ reading }
  | failPayload _ _ =>
      exact
        { guard with
          readingSet := fun _ _ isHeader => by cases isHeader }
  | resumeHeader _ _ => exact guard.resumeHeader _ _ _
  | resumePayload _ _ => exact guard.resumePayload _ _ _
  | tunWritten failed _ =>
      cases failed with
      | false => exact guard.toFlagsGuard.receiveFrom
      | true => exact guard.toFlagsGuard.endReceiveLoop
  | sendTo packet draw _ => exact guard.sendTo packet draw
  | writeSome writing _ _ =>
      exact
        { guard with
          writingSelected := fun _ _ _ _ _ =>
            guard.writingSelected _ _ _ _ writing }
  | writeError _ writing =>
      exact
        { guard with
          writingSelected := fun _ _ _ _ _ =>
            guard.writingSelected _ _ _ _ writing }
  | resumeSendTo _ => exact guard.resumeSendTo _ _
  | close => exact guard.close

/-! ## Which resumptions use a null pointer -/

theorem receiveFrom_pointerSafe
    (flags : self.FlagsGuard)
    (safe : self.PointerSafe) :
    self.receiveFrom.PointerSafe := by
  apply receiveFrom_rule
  case null =>
    intro selected null
    exact (flags.selectedSet selected null).elim
  case reads =>
    intro socket _ _
    exact safe
  case sleeps =>
    intro _
    exact safe

theorem returnFrom_pointerSafe
    (flags : self.FlagsGuard)
    (safe : self.PointerSafe)
    (bytes_read : Int)
    (error : Option ErrorCode) :
    (self.returnFrom bytes_read error).PointerSafe := by
  let Holds (state : TcpServer) : Prop :=
    state.FlagsGuard ∧ state.PointerSafe
  have returned (action : Action) : Holds (self.record action) :=
    ⟨flags.record action, safe⟩
  exact returnFrom_rule (returned _) (fun held => held.2)
    (fun held => receiveFrom_pointerSafe held.1 held.2)
    (fun _ held => held.2)

theorem loseConnection_pointerSafe
    (set : self.connection.conn_socket ≠ none)
    (safe : self.PointerSafe) :
    self.loseConnection.PointerSafe := by
  apply loseConnection_rule
  case null =>
    intro null
    exact (set null).elim
  case alone =>
    intro socket _ _
    refine receiveFrom_rule ?_ (fun _ _ _ => safe) (fun _ => safe)
    intro selected
    cases selected
  case replaced =>
    intro socket replacement _ _
    refine receiveFrom_rule ?_ (fun _ _ _ => safe) (fun _ => safe)
    intro _ null
    cases null

/--
From a header read, `ReceiveFrom` uses a null pointer exactly when the header
opens after `Close` has reset the pointer.
-/
theorem resumeHeader_pointerSafe_iff
    (guard : self.PointerGuard)
    (safe : self.PointerSafe)
    {socket : SocketId}
    {op : ReadOp}
    (reading : self.receiveLoop = .readHeader socket op)
    (error : Option ErrorCode) :
    (self.resumeHeader aead socket op.got error).PointerSafe ↔
      (error = none →
        op.got ≠ 0 →
        (self.connection.protocol.DecryptHeader aead
          self.connection.conn_recv_buffer).2 ≠ 0 →
        self.connection.stopped = false) := by
  unfold resumeHeader
  cases error with
  | some error =>
      simp only [Option.isSome_some, if_true, reduceCtorEq,
        false_implies, iff_true]
      split
      · exact returnFrom_pointerSafe
          (guard.toFlagsGuard.record _) safe _ _
      · rename_i running
        exact loseConnection_pointerSafe
          (guard.readingSet _ _ reading
            (Bool.eq_false_iff.mpr running)) safe
  | none =>
      simp only [Option.isSome_none, Bool.false_eq_true, if_false,
        forall_true_left]
      split
      · rename_i nothing
        simp only [nothing, ne_eq, not_true_eq_false, false_implies,
          iff_true]
        exact receiveFrom_pointerSafe guard.toFlagsGuard safe
      · rename_i something
        simp only [ne_eq, something, not_false_eq_true,
          forall_true_left]
        split
        · rename_i empty
          simp only [empty, not_true_eq_false, false_implies, iff_true]
          refine receiveFrom_pointerSafe ?_ safe
          exact { guard.toFlagsGuard with }
        · rename_i announced
          simp only [announced, not_false_eq_true, forall_true_left]
          split
          · rename_i null
            constructor
            · intro used
              exact (used rfl).elim
            · intro running
              exact (guard.readingSet _ _ reading running null).elim
          · rename_i current set
            simp only [PointerSafe] at safe ⊢
            refine iff_of_true safe ?_
            cases stopped : self.connection.stopped with
            | false => rfl
            | true =>
                obtain ⟨null, _⟩ := guard.stoppedClosed stopped
                rw [null] at set
                cases set

theorem resumePayload_pointerSafe
    (flags : self.FlagsGuard)
    (safe : self.PointerSafe)
    (reading : SocketId)
    (bytes_read : Nat)
    (error : Option ErrorCode) :
    (self.resumePayload aead reading bytes_read error).PointerSafe := by
  let Before (state : TcpServer) : Prop :=
    state.FlagsGuard ∧ state.PointerSafe
  have recorded : Before (self.record (.readFailed reading)) :=
    ⟨flags.record _, safe⟩
  refine resumePayload_rule recorded ⟨flags, safe⟩ ?outside ?opened
    (fun held => receiveFrom_pointerSafe held.1 held.2)
    (fun _ held => returnFrom_pointerSafe held.1 held.2 _ _) bytes_read
  case outside =>
    intro state held used
    cases used
  case opened =>
    intro state protocol header held
    exact ⟨{ held.1 with }, held.2⟩

theorem drop_fault
    (socket : Option SocketId) :
    (self.drop socket).fault = self.fault := by
  cases socket <;> rfl

theorem choose_pointerSafe
    (flags : self.FlagsGuard)
    (safe : self.PointerSafe)
    (socket : SocketId)
    (authenticated : Bool) :
    (self.choose socket authenticated).PointerSafe := by
  have queued :
      (self.queueReplacement socket authenticated).PointerSafe := by
    simp only [PointerSafe, queueReplacement, drop_fault]
    exact safe
  apply choose_rule
  case first =>
    intro _
    simp only [PointerSafe, drop_fault]
    exact safe
  case null =>
    intro selected null
    exact (flags.selectedSet selected null).elim
  case cancelled =>
    intro current _ _ _
    exact queued
  case thrown =>
    intro current _ _ _ used
    cases used

theorem resumeTry_pointerSafe
    (flags : self.FlagsGuard)
    (safe : self.PointerSafe)
    (socket : SocketId)
    (bytes_read : Nat)
    (error : Option ErrorCode) :
    (self.resumeTryHeader aead socket bytes_read).PointerSafe ∧
      (self.resumeTryPayload aead socket bytes_read
        error).PointerSafe := by
  constructor
  · exact resumeTryHeader_rule safe (fun _ => safe) (fun _ _ => safe)
  · apply resumeTryPayload_rule
    case thrown =>
      intro used
      cases used
    case nothing =>
      intro _ _
      exact safe
    case outside =>
      intro _ used
      cases used
    case chosen =>
      intro protocol header accepted _ _ _ _ _
      refine choose_pointerSafe ?_ ?_ _ _
      · exact { flags with }
      · exact safe
    case unreached =>
      intro protocol header accepted _ _ _ used
      cases used

theorem sendTo_pointerSafe
    (flags : self.FlagsGuard)
    (safe : self.PointerSafe)
    (packet : List UInt8)
    (draw : SendDraw) :
    (self.sendTo aead packet draw).PointerSafe := by
  rcases sendTo_cases aead self packet draw with
    ⟨fault, faulted, because⟩ | ⟨_, kept, _⟩ | ⟨_, _, writes, _⟩
  · rw [faulted]
    rcases because with rfl | ⟨_, selected, null⟩
    · nofun
    · exact (flags.selectedSet selected null).elim
  · rw [kept]
    exact safe
  · rw [writes]
    exact safe

/--
From a write, `SendTo` uses a null pointer exactly when the write failed
before `Close` and no connection is selected any more.
-/
theorem resumeSendTo_pointerSafe_iff
    (guard : self.PointerGuard)
    (safe : self.PointerSafe)
    {socket : SocketId}
    {frame : List UInt8}
    {sent : Nat}
    {error : Option ErrorCode}
    (writing : self.sendLoop = .writing socket frame sent (some error)) :
    (self.resumeSendTo socket error).PointerSafe ↔
      (error.isSome →
        self.connection.stopped = false →
        self.connection.selected = true) := by
  unfold resumeSendTo
  simp only
  split
  · rename_i failed
    simp only [failed, forall_true_left]
    split
    · rename_i stopped
      have isStopped : self.connection.stopped = true := stopped
      simp only [isStopped, Bool.true_eq_false, false_implies, iff_true]
      exact safe
    · rename_i running
      have isRunning : self.connection.stopped = false :=
        Bool.eq_false_iff.mpr running
      simp only [isRunning, forall_true_left]
      split
      · rename_i null
        constructor
        · intro used
          exact (used rfl).elim
        · intro selected
          exact (guard.selectedSet selected null).elim
      · rename_i current set
        refine iff_of_true safe ?_
        refine guard.writingSelected _ _ _ _ writing isRunning ?_
        intro null
        have current : self.connection.conn_socket = some current := set
        rw [null] at current
        cases current
  · rename_i fine
    exact iff_of_true safe (fun failed => (fine failed).elim)

theorem close_pointerSafe
    (flags : self.FlagsGuard)
    (safe : self.PointerSafe) :
    self.close.PointerSafe := by
  apply close_rule
  case refused => exact safe
  case null =>
    intro selected null
    exact (flags.selectedSet selected null).elim
  case closed =>
    intro socket _ _
    exact safe

/-- One step is safe exactly when it resumes with a socket. -/
theorem step_pointerSafe_iff
    {event : TcpServerEvent}
    (guard : self.PointerGuard)
    (performed : step aead self event = some next) :
    next.PointerSafe ↔
      self.PointerSafe ∧ self.ResumesWithSocket aead event := by
  obtain ⟨running, transition⟩ := step_transition performed
  have safe : self.PointerSafe := by
    simp [PointerSafe, running]
  rw [and_iff_right safe]
  cases transition with
  | incoming _ => exact iff_of_true safe trivial
  | resumeAccept _ => exact iff_of_true safe trivial
  | disconnect _ => exact iff_of_true safe trivial
  | arriveTryHeader _ _ _ => exact iff_of_true safe trivial
  | arriveTryPayload _ _ _ => exact iff_of_true safe trivial
  | arriveTryOutside _ _ _ =>
      exact iff_of_true (fun used => by cases used) trivial
  | failTryHeader _ _ => exact iff_of_true safe trivial
  | failTryPayload _ _ => exact iff_of_true safe trivial
  | resumeTryHeader _ _ =>
      exact iff_of_true
        (resumeTry_pointerSafe guard.toFlagsGuard safe _ _ none).1
        trivial
  | resumeTryPayload _ _ =>
      exact iff_of_true
        (resumeTry_pointerSafe guard.toFlagsGuard safe _ _ _).2
        trivial
  | wake waiting =>
      refine iff_of_true
        (receiveFrom_pointerSafe guard.toFlagsGuard safe) ?_
      intro socket op reading
      rw [waiting] at reading
      cases reading
  | arriveHeader _ _ _ => exact iff_of_true safe trivial
  | arrivePayload _ _ _ => exact iff_of_true safe trivial
  | arriveOutside _ _ _ =>
      exact iff_of_true (fun used => by cases used) trivial
  | failHeader _ _ => exact iff_of_true safe trivial
  | failPayload _ _ => exact iff_of_true safe trivial
  | @resumeHeader socket op error reading completed =>
      rw [resumeHeader_pointerSafe_iff guard safe reading error]
      constructor
      · intro covered other otherOp isReading isComplete
        rw [reading] at isReading
        obtain ⟨rfl, rfl⟩ := ReceiveLoopPc.readHeader.inj isReading
        rw [completed, Option.some.injEq] at isComplete
        exact covered isComplete
      · rintro covered rfl
        exact covered socket op reading completed
  | @resumePayload socket op error reading _ =>
      refine iff_of_true
        (resumePayload_pointerSafe guard.toFlagsGuard safe _ _ _) ?_
      intro other otherOp isReading
      rw [reading] at isReading
      cases isReading
  | tunWritten failed _ =>
      refine iff_of_true ?_ trivial
      cases failed with
      | false => exact receiveFrom_pointerSafe guard.toFlagsGuard safe
      | true => exact safe
  | sendTo packet draw _ =>
      exact iff_of_true
        (sendTo_pointerSafe guard.toFlagsGuard safe packet draw) trivial
  | writeSome _ _ _ => exact iff_of_true safe trivial
  | writeError _ _ => exact iff_of_true safe trivial
  | @resumeSendTo socket frame sent error writing =>
      rw [resumeSendTo_pointerSafe_iff guard safe writing]
      constructor
      · intro covered other otherFrame otherSent reason isWriting
        rw [writing] at isWriting
        simp only [SendLoopPc.writing.injEq, Option.some.injEq]
          at isWriting
        obtain ⟨_, _, _, rfl⟩ := isWriting
        exact covered rfl
      · intro covered failed
        obtain ⟨reason, rfl⟩ := Option.isSome_iff_exists.mp failed
        exact covered socket frame sent reason writing
  | close =>
      exact iff_of_true (close_pointerSafe guard.toFlagsGuard safe)
        trivial

/--
In every run, from the start of the server, no null pointer is used if and
only if every step resumes with a socket.
-/
theorem pointerSafe_iff
    (aead : Aead 16)
    (conn_key : List UInt8)
    (addresses : Server)
    (events : List TcpServerEvent)
    (final : TcpServer)
    (reached :
      StepSystem.run (step aead) (create conn_key addresses) events =
        some final) :
    final.PointerSafe ↔
      StepSystem.Along (step aead) (ResumesWithSocket aead)
        (create conn_key addresses) events := by
  rw [StepSystem.run_iff_along
    (fun guard performed => guard.step performed)
    (fun guard performed => step_pointerSafe_iff guard performed)
    (PointerGuard.create conn_key addresses) reached]
  refine and_iff_right ?_
  intro used
  cases used

end

/-- An IPv4 packet between the client and another host. -/
def ipv4Packet (src dst : List UInt8) : List UInt8 :=
  [69, 0, 0, 20, 0, 0, 0, 0, 64, 17, 0, 0] ++ src ++ dst

def fromClient : List UInt8 :=
  ipv4Packet [10, 0, 0, 2] [8, 8, 8, 8]

def toClient : List UInt8 :=
  ipv4Packet [8, 8, 8, 8] [10, 0, 0, 2]

/-- A frame of the client. -/
def clientFrame (byte : UInt8) : List UInt8 :=
  frameBytes Aead.checksumAead (AES256GCM.keyOf [49]) fromClient
    (SendDraw.constant byte)

/-- A client connects, and its first frame is accepted by `tryReceive`. -/
def connects (socket : SocketId) (byte : UInt8) : List TcpServerEvent :=
  [.incoming, .resumeAccept,
    .arriveTry socket ((clientFrame byte).take Size),
    .resumeTry socket,
    .arriveTry socket ((clientFrame byte).drop Size),
    .resumeTry socket]

def exampleStart : TcpServer :=
  create [49] Server.exampleServer

/--
The connection breaks while `SendTo` writes; `ReceiveFrom` is resumed first
and resets the pointer, which `SendTo` then uses.
-/
def brokenWrite : List TcpServerEvent :=
  connects 0 1 ++
    [.resume,
      .sendTo toClient (SendDraw.constant 9),
      .writeError .connection_reset,
      .fail .connection_reset,
      .resume,
      .resumeSendTo]

/-- `Close` runs while a complete header waits to be handed over. -/
def closedHeader : List TcpServerEvent :=
  connects 0 1 ++
    [.resume,
      .arrive ((clientFrame 2).take Size),
      .close,
      .resume]

theorem nullPointer_used :
    (StepSystem.run (step Aead.checksumAead) exampleStart
        brokenWrite).map TcpServer.fault =
        some (some .nullDereference) ∧
      (StepSystem.run (step Aead.checksumAead) exampleStart
        closedHeader).map TcpServer.fault =
        some (some .nullDereference) := by
  decide +kernel

theorem pointerSafe_iff_brokenWrite :
    ∃ final,
      StepSystem.run (step Aead.checksumAead) exampleStart brokenWrite =
          some final ∧
        (final.PointerSafe ↔
          StepSystem.Along (step Aead.checksumAead)
            (ResumesWithSocket Aead.checksumAead)
            exampleStart brokenWrite) := by
  have performed :
      (StepSystem.run (step Aead.checksumAead) exampleStart
        brokenWrite).isSome := by
    decide +kernel
  obtain ⟨final, reached⟩ := Option.isSome_iff_exists.mp performed
  exact ⟨final, reached,
    pointerSafe_iff Aead.checksumAead [49] Server.exampleServer
      brokenWrite final reached⟩

/--
The parts of the four coroutines that test `selected` and then use the
pointer: the end of `tryReceive`, `Close`, and the starts of `SendTo` and
`ReceiveFrom`.
-/
structure TestedUsesSafe
    (aead : Aead 16)
    (self : TcpServer) : Prop where
  tryReceive :
    ∀ socket bytes_read error,
      (self.resumeTryPayload aead socket bytes_read error).PointerSafe
  close :
    self.close.PointerSafe
  sendTo :
    ∀ packet draw, (self.sendTo aead packet draw).PointerSafe
  receiveFrom :
    self.receiveFrom.PointerSafe

theorem FlagsGuard.testedUsesSafe
    {self : TcpServer}
    (flags : self.FlagsGuard)
    (safe : self.PointerSafe)
    (aead : Aead 16) :
    self.TestedUsesSafe aead where
  tryReceive := fun socket bytes_read error =>
    (resumeTry_pointerSafe flags safe socket bytes_read error).2
  close := close_pointerSafe flags safe
  sendTo := sendTo_pointerSafe flags safe
  receiveFrom := receiveFrom_pointerSafe flags safe

/--
In every state of every run, a selected connection has a socket, so what tests
the flag first uses no null pointer.  A step uses one only where nothing tests
the flag, in `SendTo` after a failed write or in `ReceiveFrom` after a header.
-/
theorem selected_guards_conn_socket
    (aead : Aead 16)
    (conn_key : List UInt8)
    (addresses : Server)
    (events : List TcpServerEvent)
    (final : TcpServer)
    (reached :
      StepSystem.run (step aead) (create conn_key addresses) events =
        some final) :
    (final.connection.selected = true →
        final.connection.conn_socket ≠ none) ∧
      (final.PointerSafe → final.TestedUsesSafe aead) ∧
      ∀ event next,
        step aead final event = some next →
        (next.PointerSafe ↔
          final.PointerSafe ∧ final.ResumesWithSocket aead event) := by
  have guard : final.PointerGuard :=
    StepSystem.run_invariant
      (fun guard performed => guard.step performed)
      (PointerGuard.create conn_key addresses) reached
  refine ⟨guard.selectedSet, ?_, ?_⟩
  · intro safe
    exact guard.toFlagsGuard.testedUsesSafe safe aead
  · intro event next performed
    exact step_pointerSafe_iff guard performed

theorem selected_guards_conn_socket_connects :
    ∃ final,
      StepSystem.run (step Aead.checksumAead) exampleStart
          (connects 0 1) = some final ∧
        final.connection.conn_socket ≠ none ∧
        final.TestedUsesSafe Aead.checksumAead := by
  have selects :
      (StepSystem.run (step Aead.checksumAead) exampleStart
        (connects 0 1)).map
          (fun final => (final.connection.selected, final.fault)) =
        some (true, none) := by
    decide +kernel
  obtain ⟨final, reached, flags⟩ := Option.map_eq_some_iff.mp selects
  obtain ⟨selected, running⟩ := Prod.mk.inj flags
  obtain ⟨set, tested, _⟩ :=
    selected_guards_conn_socket Aead.checksumAead [49]
      Server.exampleServer (connects 0 1) final reached
  refine ⟨final, reached, set selected, tested ?_⟩
  intro used
  rw [running] at used
  cases used

end TcpServer

end Dsvpn
