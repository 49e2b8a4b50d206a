import Dsvpn.HandshakeThrows

namespace Dsvpn

open ProtocolHeader

/-!
# When a takeover reaches `ReceiveFrom`

`tryReceive` stores a newer connection in `replace_socket` and cancels the
current socket.  `ReceiveFrom` takes the newer connection when its header read
fails, and nowhere else.  So the takeover arrives if `ReceiveFrom` is in its
header read; in a payload read, in the write to the TUN device or on the timer
it is left waiting.
-/

/-- The socket of a read of `ReceiveFrom` that is in progress. -/
def ReceiveLoopPc.pendingRead : ReceiveLoopPc → Option SocketId
  | .readHeader socket ⟨_, _, _, none⟩ => some socket
  | .readPayload socket ⟨_, _, _, none⟩ => some socket
  | _ => none

/-- An operation that was told to fail has completed. -/
theorem ReadOp.fail_outcome_ne_none
    (op : ReadOp)
    (error : ErrorCode) :
    (op.fail error).outcome ≠ none := by
  unfold ReadOp.fail
  split
  · nofun
  · rename_i completed
    rw [completed]
    nofun

namespace ReceiveLoopPc

theorem pendingRead_eq_some
    {pc : ReceiveLoopPc}
    {socket : SocketId} :
    pc.pendingRead = some socket ↔
      ∃ op, op.outcome = none ∧
        (pc = .readHeader socket op ∨ pc = .readPayload socket op) := by
  constructor
  · intro pending
    unfold pendingRead at pending
    split at pending
    · obtain rfl := Option.some.inj pending
      exact ⟨_, rfl, Or.inl rfl⟩
    · obtain rfl := Option.some.inj pending
      exact ⟨_, rfl, Or.inr rfl⟩
    · cases pending
  · rintro ⟨⟨_, _, _, _⟩, rfl, rfl | rfl⟩
    · rfl
    · rfl

/-- A completed read is not in progress. -/
theorem pendingRead_completed
    {pc : ReceiveLoopPc}
    {socket : SocketId}
    {op : ReadOp}
    {error : Option ErrorCode}
    (reading : pc = .readHeader socket op ∨ pc = .readPayload socket op)
    (completed : op.outcome = some error) :
    pc.pendingRead = none := by
  obtain ⟨offset, want, got, outcome⟩ := op
  simp only at completed
  subst completed
  rcases reading with rfl | rfl <;> rfl

theorem pendingRead_abort
    {pc : ReceiveLoopPc}
    {target socket : SocketId}
    (pending : (pc.abort target).pendingRead = some socket) :
    pc.pendingRead = some socket ∧ socket ≠ target := by
  obtain ⟨op, inProgress, reading⟩ := pendingRead_eq_some.mp pending
  unfold ReceiveLoopPc.abort at reading
  split at reading
  · split at reading
    · rcases reading with ⟨⟨⟩⟩ | ⟨⟨⟩⟩
      exact (ReadOp.fail_outcome_ne_none _ _ inProgress).elim
    · rename_i different
      rcases reading with ⟨⟨⟩⟩ | ⟨⟨⟩⟩
      exact ⟨pendingRead_eq_some.mpr ⟨op, inProgress, Or.inl rfl⟩,
        different⟩
  · split at reading
    · rcases reading with ⟨⟨⟩⟩ | ⟨⟨⟩⟩
      exact (ReadOp.fail_outcome_ne_none _ _ inProgress).elim
    · rename_i different
      rcases reading with ⟨⟨⟩⟩ | ⟨⟨⟩⟩
      exact ⟨pendingRead_eq_some.mpr ⟨op, inProgress, Or.inr rfl⟩,
        different⟩
  · rename_i noHeader noPayload
    rcases reading with rfl | rfl
    · exact (noHeader _ _ rfl).elim
    · exact (noPayload _ _ rfl).elim

theorem pendingRead_wake
    (pc : ReceiveLoopPc) :
    pc.wake.pendingRead = pc.pendingRead := by
  cases pc <;> rfl

end ReceiveLoopPc

namespace TcpServer

/-- A read of `ReceiveFrom` in progress is a read of the current socket. -/
def ReadsCurrent (server : TcpServer) : Prop :=
  ∀ socket, server.receiveLoop.pendingRead = some socket →
    server.connection.conn_socket = some socket

/-- The header read of `ReceiveFrom` has failed; its error is queued. -/
def HeaderFailed (server : TcpServer) : Prop :=
  ∃ socket op error,
    server.receiveLoop = .readHeader socket op ∧
      op.outcome = some (some error)

/-- A connection waits only while the failure that brings it in is queued. -/
def SwitchQueued (server : TcpServer) : Prop :=
  server.connection.replace_socket ≠ none → server.HeaderFailed

/--
A connection waits while `ReceiveFrom` is on the timer, or in a read that goes
on because nothing has cancelled it.
-/
def Stranded (server : TcpServer) : Bool :=
  server.connection.replace_socket.isSome &&
    match server.receiveLoop with
    | .waitSelected _ => true
    | .readHeader _ op => op.outcome == none
    | .readPayload _ op => op.outcome == none
    | _ => false

/--
Before `Close`: a connection takes the place of another one only while
`ReceiveFrom` is in its header read, which is in progress or has failed.
-/
def takesOverHeaderRead
    (self : TcpServer)
    (event : TcpServerEvent) : Bool :=
  match event with
  | .resumeTry socket =>
      match self.tryReceive socket with
      | .readPayload ⟨_, _, got, some none⟩ =>
          got == 0 ||
            !(self.socket socket).connected ||
            !self.connection.selected ||
            match self.receiveLoop with
            | .readHeader _ op => op.outcome != some none
            | _ => false
      | _ => true
  | .close => false
  | _ => true

/-- Reads in progress were in progress before. -/
def ReadsFewer (server next : TcpServer) : Prop :=
  ∀ socket, next.receiveLoop.pendingRead = some socket →
    server.receiveLoop.pendingRead = some socket

section

variable
    {aead : Aead 16}
    {self next : TcpServer}

theorem ReadsFewer.refl : self.ReadsFewer self :=
  fun _ pending => pending

/-- The choice of a further connection leaves the current one. -/
theorem choose_conn_socket
    (selected : self.connection.selected = true)
    (socket : SocketId)
    (authenticated : Bool) :
    (self.choose socket authenticated).connection.conn_socket =
      self.connection.conn_socket := by
  let Same (next : TcpServer) : Prop :=
    next.connection.conn_socket = self.connection.conn_socket
  have queued : Same (self.queueReplacement socket authenticated) := by
    simp only [Same, queueReplacement_connection]
  have chosen : Same (self.choose socket authenticated) := by
    apply choose_rule
    case first =>
      intro unselected
      rw [selected] at unselected
      cases unselected
    case null =>
      intro _ _
      exact queued
    case cancelled =>
      intro current _ _ _
      exact queued
    case thrown =>
      intro current _ _ _
      exact queued
  exact chosen

/--
`pending` is the socket of an operation in progress, by where the two loops
are.  A wake-up leaves it, and an abort ends the operation of its socket.
-/
structure Abortable
    (pending : ReceiveLoopPc → SendLoopPc → Option SocketId) : Prop where
  wake :
    ∀ receiving sending,
      pending receiving.wake sending = pending receiving sending
  abort :
    ∀ {receiving sending target socket},
      pending (receiving.abort target) (sending.abort target) =
        some socket →
      pending receiving sending = some socket ∧ socket ≠ target

/-- The operation in progress is one on the current socket. -/
def OnCurrent
    (pending : ReceiveLoopPc → SendLoopPc → Option SocketId)
    (server : TcpServer) : Prop :=
  ∀ socket, pending server.receiveLoop server.sendLoop = some socket →
    server.connection.conn_socket = some socket

namespace Abortable

variable {pending : ReceiveLoopPc → SendLoopPc → Option SocketId}

/-- What is in progress after an update was in progress before. -/
theorem kept
    (abortable : Abortable pending)
    (self : TcpServer) :
    KeptByUpdates (fun next =>
      ∀ socket,
        pending next.receiveLoop next.sendLoop = some socket →
        pending self.receiveLoop self.sendLoop = some socket) where
  setPointers := fun _ _ _ fewer => fewer
  finish := fun _ _ fewer => fewer
  wake := fun fewer socket inProgress =>
    fewer socket ((abortable.wake _ _).symm.trans inProgress)
  abort := fun _ fewer socket inProgress =>
    fewer socket (abortable.abort inProgress).1
  shut := fun _ fewer => fewer
  record := fun _ _ fewer => fewer
  nullDereference := fun fewer => fewer

/-- An operation on the socket that is dropped is not in progress any more. -/
theorem choose
    (abortable : Abortable pending)
    (current : self.OnCurrent pending)
    {socket : SocketId}
    (active : self.tryReceive socket ≠ .finished)
    (authenticated : Bool) :
    (self.choose socket authenticated).OnCurrent pending := by
  intro other inProgress
  have before : self.connection.conn_socket = some other :=
    current other
      ((abortable.kept self).choose active authenticated
        (fun fewer => fewer) (fun _ same => same) other inProgress)
  by_cases selected : self.connection.selected = true
  · rw [choose_conn_socket selected]
    exact before
  · unfold TcpServer.choose at inProgress
    simp only at inProgress
    split at inProgress
    · rename_i isSelected
      exact (selected isSelected).elim
    · simp only [record, before] at inProgress
      exact ((abortable.abort inProgress).2 rfl).elim

theorem resumeTryPayload
    (abortable : Abortable pending)
    (current : self.OnCurrent pending)
    {socket : SocketId}
    (active : self.tryReceive socket ≠ .finished)
    (bytes_read : Nat)
    (error : Option ErrorCode) :
    (self.resumeTryPayload aead socket bytes_read
      error).OnCurrent pending := by
  apply resumeTryPayload_rule
  case thrown => exact current
  case nothing =>
    intro _ _
    exact current
  case outside =>
    intro _
    exact current
  case chosen =>
    intro protocol header accepted _ _ _ _ _
    apply abortable.choose
    · exact current
    · exact active
  case unreached =>
    intro protocol header accepted _ _ _
    exact current

theorem close
    (abortable : Abortable pending)
    (current : self.OnCurrent pending) :
    self.close.OnCurrent pending := by
  apply close_rule
  case refused => exact current
  case null =>
    intro _ _
    exact current
  case closed =>
    intro socket _ isCurrent other inProgress
    obtain ⟨before, different⟩ := abortable.abort inProgress
    have same := (current other before).symm.trans isCurrent
    exact (different (Option.some.inj same)).elim

end Abortable

/-- The read of `ReceiveFrom` is ended by an abort of its socket. -/
theorem abortable_pendingRead :
    Abortable fun receiving _ => receiving.pendingRead where
  wake := fun receiving _ => receiving.pendingRead_wake
  abort := ReceiveLoopPc.pendingRead_abort

theorem ReadsFewer.kept :
    KeptByUpdates (fun next => ReadsFewer self next) :=
  abortable_pendingRead.kept self

theorem ReadsCurrent.fewer
    (reads : self.ReadsCurrent)
    (fewer : self.ReadsFewer next)
    (same :
      next.connection.conn_socket = self.connection.conn_socket) :
    next.ReadsCurrent := fun socket pending =>
  same.trans (reads socket (fewer socket pending))

theorem readsCurrent_idle
    (idle : self.receiveLoop.pendingRead = none) :
    self.ReadsCurrent := fun socket pending => by
  rw [idle] at pending
  cases pending

/-- A read that starts is one of the current socket. -/
theorem readsCurrent_reading
    {socket : SocketId}
    {op : ReadOp}
    (reading :
      self.receiveLoop = .readHeader socket op ∨
        self.receiveLoop = .readPayload socket op)
    (current : self.connection.conn_socket = some socket) :
    self.ReadsCurrent := fun other pending => by
  obtain ⟨started, _, same⟩ :=
    ReceiveLoopPc.pendingRead_eq_some.mp pending
  rcases reading with isHeader | isPayload
  · rw [isHeader] at same
    rcases same with ⟨⟨⟩⟩ | ⟨⟨⟩⟩
    exact current
  · rw [isPayload] at same
    rcases same with ⟨⟨⟩⟩ | ⟨⟨⟩⟩
    exact current

theorem readsCurrent_receiveFrom
    (idle : self.receiveLoop.pendingRead = none) :
    self.receiveFrom.ReadsCurrent := by
  apply receiveFrom_rule
  case null =>
    intro _ _
    exact readsCurrent_idle idle
  case reads =>
    intro socket _ current
    exact readsCurrent_reading (Or.inl rfl) current
  case sleeps =>
    intro _
    exact readsCurrent_idle rfl

theorem readsCurrent_returnFrom
    (idle : self.receiveLoop.pendingRead = none)
    (bytes_read : Int)
    (error : Option ErrorCode) :
    (self.returnFrom bytes_read error).ReadsCurrent := by
  let Returned (state : TcpServer) : Prop :=
    state.receiveLoop.pendingRead = none
  have returned (action : Action) : Returned (self.record action) := idle
  exact returnFrom_rule (returned _) (fun _ => readsCurrent_idle rfl)
    readsCurrent_receiveFrom (fun _ _ => readsCurrent_idle rfl)

theorem readsCurrent_loseConnection
    (idle : self.receiveLoop.pendingRead = none) :
    self.loseConnection.ReadsCurrent := by
  have aborted (socket : SocketId) :
      (self.receiveLoop.abort socket).pendingRead = none := by
    rw [Option.eq_none_iff_forall_ne_some]
    intro other pending
    have before := (ReceiveLoopPc.pendingRead_abort pending).1
    rw [idle] at before
    cases before
  apply loseConnection_rule
  case null =>
    intro _
    exact readsCurrent_idle idle
  case alone =>
    intro socket _ _
    apply readsCurrent_receiveFrom
    exact aborted socket
  case replaced =>
    intro socket replacement _ _
    apply readsCurrent_receiveFrom
    exact aborted socket

theorem readsCurrent_resumeHeader
    (idle : self.receiveLoop.pendingRead = none)
    (reading : SocketId)
    (bytes_read : Nat)
    (error : Option ErrorCode) :
    (self.resumeHeader aead reading bytes_read
      error).ReadsCurrent := by
  cases error with
  | some error =>
      refine resumeHeader_failed ?_ ?_ bytes_read
      · intro _
        apply readsCurrent_returnFrom
        exact idle
      · intro _
        apply readsCurrent_loseConnection
        exact idle
  | none =>
      apply resumeHeader_complete
      case nothing =>
        intro _
        exact readsCurrent_receiveFrom idle
      case empty =>
        intro header _
        apply readsCurrent_receiveFrom
        exact idle
      case null =>
        intro header _ _
        exact readsCurrent_idle idle
      case announced =>
        intro header socket payload_len _ current
        exact readsCurrent_reading (Or.inr rfl) current

theorem readsCurrent_resumePayload
    (idle : self.receiveLoop.pendingRead = none)
    (reading : SocketId)
    (bytes_read : Nat)
    (error : Option ErrorCode) :
    (self.resumePayload aead reading bytes_read
      error).ReadsCurrent := by
  let Before (state : TcpServer) : Prop :=
    state.receiveLoop.pendingRead = none
  have recorded : Before (self.record (.readFailed reading)) := idle
  exact resumePayload_rule recorded idle readsCurrent_idle
    (fun _ _ held => held) readsCurrent_receiveFrom
    (fun _ held => readsCurrent_returnFrom held _ _) bytes_read

theorem sendTo_receiveLoop
    (packet : List UInt8)
    (draw : SendDraw) :
    (self.sendTo aead packet draw).receiveLoop = self.receiveLoop := by
  obtain ⟨_, _, _, changed, _⟩ := sendTo_changes aead self packet draw
  rw [changed]

/-- `SendTo` after its write leaves both pointers. -/
theorem selection_resumeSendTo
    (writing : SocketId)
    (error : Option ErrorCode) :
    (self.resumeSendTo writing error).selection =
      { self.selection with
        selected :=
          (self.resumeSendTo writing error).connection.selected } := by
  let Kept (next : TcpServer) : Prop :=
    next.selection =
      { self.selection with selected := next.connection.selected }
  have kept : Kept (self.resumeSendTo writing error) :=
    resumeSendTo_rule rfl (fun _ _ => rfl) (fun _ _ _ => rfl)
      (fun _ _ _ _ => rfl)
  exact kept

/-- Every step: what `ReceiveFrom` reads is the current socket. -/
theorem ReadsCurrent.step
    {event : TcpServerEvent}
    (reads : self.ReadsCurrent)
    (performed : TcpServer.step aead self event = some next) :
    next.ReadsCurrent := by
  obtain ⟨_, transition⟩ := step_transition performed
  cases transition with
  | resumeTryHeader reading _ =>
      refine reads.fewer ?_ ?_
      · exact ReadsFewer.kept.resumeTryHeader (by simp [reading]) _
          ReadsFewer.refl (fun _ => ReadsFewer.refl)
          fun _ _ => ReadsFewer.refl
      · exact congrArg Selection.conn_socket
          (selection_resumeTryHeader _ _)
  | resumeTryPayload reading _ =>
      exact abortable_pendingRead.resumeTryPayload reads
        (by simp [reading]) _ _
  | wake waiting =>
      exact readsCurrent_receiveFrom (by rw [waiting]; rfl)
  | arriveHeader reading accepts _ =>
      exact readsCurrent_reading (Or.inl rfl)
        (reads _ (ReceiveLoopPc.pendingRead_eq_some.mpr
          ⟨_, accepts.1, Or.inl reading⟩))
  | arrivePayload reading accepts _ =>
      exact readsCurrent_reading (Or.inr rfl)
        (reads _ (ReceiveLoopPc.pendingRead_eq_some.mpr
          ⟨_, accepts.1, Or.inr reading⟩))
  | @failHeader socket op error _ =>
      obtain ⟨_, completed⟩ :=
        Option.ne_none_iff_exists'.mp (op.fail_outcome_ne_none error)
      exact readsCurrent_idle
        (ReceiveLoopPc.pendingRead_completed (Or.inl rfl) completed)
  | @failPayload socket op error _ =>
      obtain ⟨_, completed⟩ :=
        Option.ne_none_iff_exists'.mp (op.fail_outcome_ne_none error)
      exact readsCurrent_idle
        (ReceiveLoopPc.pendingRead_completed (Or.inr rfl) completed)
  | resumeHeader reading completed =>
      exact readsCurrent_resumeHeader
        (ReceiveLoopPc.pendingRead_completed (Or.inl reading) completed)
        _ _ _
  | resumePayload reading completed =>
      exact readsCurrent_resumePayload
        (ReceiveLoopPc.pendingRead_completed (Or.inr reading) completed)
        _ _ _
  | tunWritten failed writing =>
      cases failed with
      | false =>
          exact readsCurrent_receiveFrom (by rw [writing]; rfl)
      | true => exact readsCurrent_idle rfl
  | sendTo packet draw _ =>
      refine reads.fewer ?_ ?_
      · intro socket pending
        rwa [sendTo_receiveLoop] at pending
      · exact congrArg Selection.conn_socket (selection_sendTo _ _)
  | resumeSendTo _ =>
      refine reads.fewer ?_ ?_
      · exact ReadsFewer.kept.resumeSendTo _ _ ReadsFewer.refl
      · exact congrArg Selection.conn_socket
          (selection_resumeSendTo _ _)
  | close => exact abortable_pendingRead.close reads
  | _ => exact reads

theorem HeaderFailed.not_stranded
    (failed : self.HeaderFailed) :
    self.Stranded = false := by
  obtain ⟨socket, op, error, isHeader, completed⟩ := failed
  simp [Stranded, isHeader, completed]

theorem ReadOp.fail_completed
    {op : ReadOp}
    {error : Option ErrorCode}
    (completed : op.outcome = some error)
    (later : ErrorCode) :
    op.fail later = op := by
  unfold ReadOp.fail
  rw [completed]

theorem HeaderFailed.kept : KeptByUpdates HeaderFailed where
  setPointers := fun _ _ _ failed => failed
  finish := fun _ _ failed => failed
  wake := fun {server} ⟨socket, op, error, reading, completed⟩ =>
    ⟨socket, op, error, by simp [setReceiveLoop, reading,
      ReceiveLoopPc.wake], completed⟩
  abort := fun {server} target
      ⟨socket, op, error, reading, completed⟩ =>
    ⟨socket, op, error, by
      simp [TcpServer.abort, reading, ReceiveLoopPc.abort,
        ReadOp.fail_completed completed], completed⟩
  shut := fun _ failed => failed
  record := fun _ _ failed => failed
  nullDereference := fun failed => failed

/-- `ReceiveFrom` reads the header on `reading`, or that read has failed. -/
def ReadsHeaderOn (reading : SocketId) (server : TcpServer) : Prop :=
  ∃ op, server.receiveLoop = .readHeader reading op ∧
    op.outcome ≠ some none

/-- What aborts the read on a socket leaves a failed one. -/
theorem ReadsHeaderOn.abort
    {reading : SocketId}
    (reads : self.ReadsHeaderOn reading) :
    (self.abort reading).HeaderFailed := by
  obtain ⟨op, isHeader, unread⟩ := reads
  refine ⟨reading, op.fail .operation_aborted, ?_⟩
  cases outcome : op.outcome with
  | none =>
      refine ⟨.operation_aborted, ?_, ?_⟩
      · simp [TcpServer.abort, isHeader, ReceiveLoopPc.abort]
      · simp [ReadOp.fail, outcome]
  | some error =>
      cases error with
      | none => exact (unread outcome).elim
      | some error =>
          refine ⟨error, ?_, ?_⟩
          · simp [TcpServer.abort, isHeader, ReceiveLoopPc.abort]
          · rw [ReadOp.fail_completed outcome]
            exact outcome

theorem ReadsHeaderOn.drop
    {reading : SocketId}
    (reads : self.ReadsHeaderOn reading)
    (target : Option SocketId) :
    (self.drop target).ReadsHeaderOn reading := by
  obtain ⟨op, isHeader, unread⟩ := reads
  cases target with
  | none => exact ⟨op, isHeader, unread⟩
  | some target =>
      by_cases same : reading = target
      · refine ⟨op.fail .operation_aborted, ?_, ?_⟩
        · simp [TcpServer.drop, record, shut, TcpServer.abort,
            isHeader, ReceiveLoopPc.abort, same]
        · unfold ReadOp.fail
          split
          · simp
          · exact unread
      · refine ⟨op, ?_, unread⟩
        simp [TcpServer.drop, record, shut, TcpServer.abort,
          isHeader, ReceiveLoopPc.abort, same]

/-- The takeover cancels the header read of the current socket. -/
theorem headerFailed_choose
    (reads : self.ReadsCurrent)
    (opened : self.SocketsOpen)
    (orderly : self.Orderly)
    (placed : self.WriterPlaced)
    {socket reading : SocketId}
    (isStarted : self.tryReceive socket ≠ .notStarted)
    (active : self.tryReceive socket ≠ .finished)
    (selected : self.connection.selected = true)
    (readsHeader : self.ReadsHeaderOn reading)
    (authenticated : Bool) :
    (self.choose socket authenticated).HeaderFailed := by
  obtain ⟨op, isHeader, unread⟩ := readsHeader
  cases outcome : op.outcome with
  | some error =>
      cases error with
      | none => exact (unread outcome).elim
      | some error =>
          exact HeaderFailed.kept.choose active authenticated
            (fun failed => failed)
            ⟨reading, op, error, isHeader, outcome⟩
  | none =>
      have current : self.connection.conn_socket = some reading :=
        reads reading
          (ReceiveLoopPc.pendingRead_eq_some.mpr
            ⟨op, outcome, Or.inl isHeader⟩)
      have replacing :=
        opened.replace orderly placed isStarted active authenticated
      apply choose_rule
      case first =>
        intro unselected
        rw [selected] at unselected
        cases unselected
      case null =>
        intro _ null
        rw [current] at null
        cases null
      case cancelled =>
        intro target _ isTarget _
        obtain rfl : target = reading :=
          Option.some.inj (isTarget.symm.trans current)
        apply HeaderFailed.kept.record _ rfl
        apply ReadsHeaderOn.abort
        apply ReadsHeaderOn.drop
        exact ⟨op, isHeader, unread⟩
      case thrown =>
        intro target _ isTarget closed
        have isOpen :=
          replacing.currentOpen target
            (by rw [queueReplacement_connection]; exact isTarget)
        rw [isOpen] at closed
        cases closed

/-- What holds before `Close` while every takeover meets the condition. -/
structure Switching (server : TcpServer) : Prop where
  orderly : server.Orderly
  guard : server.PointerGuard
  placed : server.WriterPlaced
  opened : server.SocketsOpen
  reads : server.ReadsCurrent
  running : server.connection.stopped = false
  queued : server.SwitchQueued

theorem Switching.create
    (conn_key : List UInt8)
    (addresses : Server) :
    (create conn_key addresses).Switching where
  orderly := Orderly.create _ _
  guard := PointerGuard.create _ _
  placed := WriterPlaced.create _ _
  opened := SocketsOpen.create _ _
  reads := readsCurrent_idle rfl
  running := rfl
  queued := fun waiting => (waiting rfl).elim

/-- The waiting socket and the receive loop are as before. -/
theorem SwitchQueued.unmoved
    (queued : self.SwitchQueued)
    (same :
      next.connection.replace_socket =
        self.connection.replace_socket)
    (still : self.HeaderFailed → next.HeaderFailed) :
    next.SwitchQueued := fun waiting =>
  still (queued (same ▸ waiting))

/-- The receive loop is not in its header read, so nothing waits. -/
theorem SwitchQueued.elsewhere
    (queued : self.SwitchQueued)
    (elsewhere : ¬ self.HeaderFailed)
    (only : self.ReceivesOnly next) :
    next.SwitchQueued := fun waiting => by
  have same := congrArg Selection.replace_socket only.selection
  change
    next.connection.replace_socket = self.connection.replace_socket
    at same
  exact (elsewhere (queued (same ▸ waiting))).elim

theorem loseConnection_replace_socket
    {socket : SocketId}
    (current : self.connection.conn_socket = some socket) :
    self.loseConnection.connection.replace_socket = none := by
  have received (state : TcpServer) :
      state.receiveFrom.connection.replace_socket =
        state.connection.replace_socket :=
    congrArg Selection.replace_socket
      ReceivesOnly.refl.receiveFrom.selection
  unfold TcpServer.loseConnection
  simp only [current]
  split
  · rename_i noReplacement
    exact (received _).trans noReplacement
  · exact received _

theorem SwitchQueued.resumeHeader
    (queued : self.SwitchQueued)
    (guard : self.PointerGuard)
    (running : self.connection.stopped = false)
    {reading : SocketId}
    {op : ReadOp}
    {error : Option ErrorCode}
    (isHeader : self.receiveLoop = .readHeader reading op)
    (completed : op.outcome = some error) :
    (self.resumeHeader aead reading op.got error).SwitchQueued := by
  cases error with
  | none =>
      refine queued.elsewhere ?_
        (ReceivesOnly.refl.resumeHeader aead reading op.got)
      rintro ⟨_, _, error, isReading, failed⟩
      rw [isHeader] at isReading
      obtain ⟨_, rfl⟩ := ReceiveLoopPc.readHeader.inj isReading
      simp [completed] at failed
  | some error =>
      obtain ⟨socket, current⟩ :=
        Option.ne_none_iff_exists'.mp
          (guard.readingSet reading op isHeader running)
      intro waiting
      refine (waiting ?_).elim
      let Empty (next : TcpServer) : Prop :=
        next.connection.replace_socket = none
      have emptied :
          Empty
            (self.resumeHeader aead reading op.got (some error)) := by
        refine resumeHeader_failed ?_ ?_ op.got
        · intro stopped
          rw [running] at stopped
          cases stopped
        · intro _
          exact loseConnection_replace_socket current
      exact emptied

/-- A first selection does not touch what waits. -/
theorem choose_replace_socket
    (unselected : self.connection.selected = false)
    (socket : SocketId)
    (authenticated : Bool) :
    (self.choose socket authenticated).connection.replace_socket =
      self.connection.replace_socket := by
  let Same (next : TcpServer) : Prop :=
    next.connection.replace_socket = self.connection.replace_socket
  have notSelected (selected : self.connection.selected = true) :
      False := by
    rw [unselected] at selected
    cases selected
  have same : Same (self.choose socket authenticated) := by
    apply choose_rule
    case first =>
      intro _
      simp only [Same, drop_conn_socket]
    case null =>
      intro selected _
      exact (notSelected selected).elim
    case cancelled =>
      intro current selected _ _
      exact (notSelected selected).elim
    case thrown =>
      intro current selected _ _
      exact (notSelected selected).elim
  exact same

/-- A connection takes over while `ReceiveFrom` is in its header read. -/
theorem Switching.resumeTryPayload
    (switching : self.Switching)
    {socket : SocketId}
    {op : ReadOp}
    {error : Option ErrorCode}
    (reading : self.tryReceive socket = .readPayload op)
    (completed : op.outcome = some error)
    (onTime : self.takesOverHeaderRead (.resumeTry socket) = true) :
    (self.resumeTryPayload aead socket op.got error).SwitchQueued := by
  obtain ⟨offset, want, got, outcome⟩ := op
  simp only at completed
  subst completed
  have queued := switching.queued
  apply resumeTryPayload_rule
  case thrown => exact queued
  case nothing =>
    intro _ _
    exact queued
  case outside =>
    intro _
    exact queued
  case chosen =>
    rintro protocol header accepted rfl something _ _ connected
    cases selected : self.connection.selected with
    | true =>
        intro _
        simp only [takesOverHeaderRead, reading, connected, selected,
          Bool.not_true, Bool.or_false, Bool.or_eq_true, beq_iff_eq,
          something, false_or] at onTime
        split at onTime
        · rename_i on headerOp isHeader
          apply headerFailed_choose
          · exact switching.reads
          · exact { switching.opened with }
          · exact { switching.orderly with }
          · exact { switching.placed with }
          · simp [reading]
          · simp [reading]
          · exact selected
          · exact ⟨headerOp, isHeader, by simpa using onTime⟩
        · cases onTime
    | false =>
        refine queued.unmoved ?_ ?_
        · exact choose_replace_socket (by exact selected) _ _
        · intro failed
          apply HeaderFailed.kept.choose
          · simp [reading]
          · exact fun failed => failed
          · exact failed
  case unreached =>
    intro protocol header accepted _ _ _
    exact queued

/-- Every step before `Close` that meets the condition. -/
theorem Switching.queuedStep
    {event : TcpServerEvent}
    (switching : self.Switching)
    (onTime : self.takesOverHeaderRead event = true)
    (performed : TcpServer.step aead self event = some next) :
    next.SwitchQueued := by
  have queued := switching.queued
  have notFailed {pc : ReceiveLoopPc}
      (reading : self.receiveLoop = pc)
      (other :
        ∀ socket op error, pc = .readHeader socket op →
          op.outcome ≠ some (some error)) :
      ¬ self.HeaderFailed := by
    rintro ⟨socket, op, error, isHeader, failed⟩
    exact other socket op error (reading.symm.trans isHeader) failed
  have elsewhere {pc : ReceiveLoopPc}
      (reading : self.receiveLoop = pc)
      (noHeader : ∀ socket op, pc ≠ .readHeader socket op) :
      ¬ self.HeaderFailed :=
    notFailed reading fun socket op _ isHeader =>
      (noHeader socket op isHeader).elim
  obtain ⟨_, transition⟩ := step_transition performed
  cases transition with
  | resumeTryHeader reading _ =>
      refine queued.unmoved ?_ ?_
      · exact congrArg Selection.replace_socket
          (selection_resumeTryHeader _ _)
      · intro failed
        exact HeaderFailed.kept.resumeTryHeader (by simp [reading]) _
          failed (fun _ => failed) fun _ _ => failed
  | resumeTryPayload reading completed =>
      exact switching.resumeTryPayload reading completed onTime
  | wake waiting =>
      exact queued.elsewhere (elsewhere waiting (by simp))
        ReceivesOnly.refl.receiveFrom
  | arriveHeader reading accepts _ =>
      refine queued.elsewhere (notFailed reading ?_)
        { ReceivesOnly.refl with }
      rintro _ _ _ ⟨⟩ failed
      simp [accepts.1] at failed
  | arrivePayload reading accepts _ =>
      exact queued.elsewhere (elsewhere reading (by simp))
        { ReceivesOnly.refl with }
  | @failHeader socket op later reading =>
      refine queued.unmoved rfl ?_
      rintro ⟨_, _, error, isHeader, failed⟩
      rw [reading] at isHeader
      obtain ⟨_, rfl⟩ := ReceiveLoopPc.readHeader.inj isHeader
      exact ⟨socket, op, error,
        by simp [setReceiveLoop, ReadOp.fail_completed failed],
        failed⟩
  | failPayload _ reading =>
      exact queued.elsewhere (elsewhere reading (by simp))
        { ReceivesOnly.refl with }
  | resumeHeader reading completed =>
      exact queued.resumeHeader switching.guard switching.running
        reading completed
  | resumePayload reading _ =>
      exact queued.elsewhere (elsewhere reading (by simp))
        (ReceivesOnly.refl.resumePayload aead _ _ _)
  | tunWritten failed writing =>
      cases failed with
      | false =>
          exact queued.elsewhere (elsewhere writing (by simp))
            ReceivesOnly.refl.receiveFrom
      | true =>
          exact queued.elsewhere (elsewhere writing (by simp))
            { ReceivesOnly.refl with }
  | sendTo packet draw _ =>
      refine queued.unmoved ?_ ?_
      · exact congrArg Selection.replace_socket (selection_sendTo _ _)
      · rintro ⟨socket, op, error, isHeader, failed⟩
        exact ⟨socket, op, error,
          (sendTo_receiveLoop _ _).trans isHeader, failed⟩
  | resumeSendTo _ =>
      refine queued.unmoved ?_ ?_
      · exact congrArg Selection.replace_socket
          (selection_resumeSendTo _ _)
      · exact fun failed => HeaderFailed.kept.resumeSendTo _ _ failed
  | close => cases onTime
  | _ => exact queued

/-- Only `Close` sets `stopped`. -/
theorem SelectionStep.running
    {event : TcpServerEvent}
    (step : SelectionStep self event next)
    (beforeClose : event ≠ .close)
    (running : self.connection.stopped = false) :
    next.connection.stopped = false := by
  change self.selection.stopped = false at running
  change next.selection.stopped = false
  cases step with
  | unchanged same => rw [same, running]
  | first _ _ _ _ _ same => rw [same, running]
  | replacing _ _ _ _ _ same => rw [same, running]
  | lost _ _ same => rw [same, running]
  | swapped _ _ _ same => rw [same, running]
  | deselected _ _ _ same => rw [same, running]
  | refused closes _ => exact (beforeClose closes).elim
  | closed closes _ _ => exact (beforeClose closes).elim

theorem Switching.step
    {event : TcpServerEvent}
    (switching : self.Switching)
    (onTime : self.takesOverHeaderRead event = true)
    (performed : TcpServer.step aead self event = some next) :
    next.Switching where
  orderly := switching.orderly.step performed
  guard := switching.guard.step performed
  placed := switching.placed.step switching.orderly performed
  opened :=
    switching.opened.step switching.orderly switching.placed performed
  reads := switching.reads.step performed
  running :=
    (step_selection performed).running (by rintro rfl; cases onTime)
      switching.running
  queued := switching.queuedStep onTime performed

/-- Resumed from its failed header read, `ReceiveFrom` switches. -/
theorem Switching.resume
    (switching : self.Switching)
    (noFault : self.fault = none)
    {replacement : SocketId}
    (waiting : self.connection.replace_socket = some replacement) :
    ∃ next,
      TcpServer.step aead self .resume = some next ∧
        next.connection.conn_socket = some replacement ∧
        next.connection.replace_socket = none ∧
        next.connection.selected = true ∧
        next.receiveLoop =
          .readHeader replacement (ReadOp.start 0 Size) := by
  obtain ⟨reading, op, error, isHeader, failed⟩ :=
    switching.queued (by rw [waiting]; nofun)
  obtain ⟨socket, current⟩ :=
    Option.ne_none_iff_exists'.mp
      (switching.guard.readingSet reading op isHeader
        switching.running)
  have different : replacement ≠ socket := by
    rintro rfl
    exact switching.placed.currentNotWaiting _ current waiting
  refine ⟨_, step_of_transition noFault
    (.resumeHeader isHeader failed), ?_⟩
  simp [TcpServer.resumeHeader, record, switching.running,
    TcpServer.loseConnection, current, closeSocket, shut,
    TcpServer.abort, waiting, TcpServer.receiveFrom, startRead,
    different, switching.opened.waitingOpen replacement waiting]

/--
Before `Close`, in every run in which connections take over only while
`ReceiveFrom` is in its header read: whenever a connection waits, the failure
of that header read is queued, and on it `ReceiveFrom` switches to the
connection that waits.
-/
theorem takeover_not_stranded
    (aead : Aead 16)
    (conn_key : List UInt8)
    (addresses : Server)
    (events : List TcpServerEvent)
    (state : TcpServer)
    (onTime :
      StepSystem.Along (TcpServer.step aead)
        (fun state event => state.takesOverHeaderRead event = true)
        (TcpServer.create conn_key addresses) events)
    (reached :
      StepSystem.run (TcpServer.step aead)
          (TcpServer.create conn_key addresses) events =
        some state)
    (replacement : SocketId)
    (waiting : state.connection.replace_socket = some replacement) :
    state.Stranded = false ∧ state.HeaderFailed ∧
      (state.fault = none →
        ∃ next,
          TcpServer.step aead state .resume = some next ∧
            next.connection.conn_socket = some replacement ∧
            next.connection.replace_socket = none ∧
            next.connection.selected = true ∧
            next.receiveLoop =
              .readHeader replacement (ReadOp.start 0 Size)) := by
  have switching : state.Switching :=
    StepSystem.run_invariant_along
      (fun switching onTime performed =>
        Switching.step switching onTime performed)
      (Switching.create conn_key addresses) onTime reached
  have failed := switching.queued (by rw [waiting]; nofun)
  exact ⟨failed.not_stranded, failed,
    fun noFault => switching.resume noFault waiting⟩

theorem takeover_not_stranded_plainTakeover :
    ∃ state,
      StepSystem.run (TcpServer.step Aead.checksumAead) exampleStart
          (connects 0 1 ++ [.resume] ++ connects 1 2) =
        some state ∧
      state.connection.replace_socket = some 1 ∧
      state.Stranded = false ∧ state.HeaderFailed ∧
      (state.fault = none →
        ∃ next,
          TcpServer.step Aead.checksumAead state .resume = some next ∧
            next.connection.conn_socket = some 1 ∧
            next.connection.replace_socket = none ∧
            next.connection.selected = true ∧
            next.receiveLoop = .readHeader 1 (ReadOp.start 0 Size)) := by
  have performed :
      (StepSystem.run (TcpServer.step Aead.checksumAead) exampleStart
          (connects 0 1 ++ [.resume] ++ connects 1 2)).map
            (fun state => state.connection.replace_socket) =
        some (some 1) := by
    decide +kernel
  obtain ⟨state, reached, waiting⟩ :=
    Option.map_eq_some_iff.mp performed
  exact ⟨state, reached, waiting,
    takeover_not_stranded Aead.checksumAead [49] Server.exampleServer _
      state (by decide +kernel) reached 1 waiting⟩

/--
A client takes over while `ReceiveFrom` is in a payload read, or in the write
to the TUN device: it goes on with a header read of the superseded socket.
-/
def takeoverDuringPayload : List TcpServerEvent :=
  connects 0 1 ++
    [.resume, .arrive ((clientFrame 2).take Size), .resume] ++
    connects 1 3 ++ [.resume]

def takeoverDuringTunWrite : List TcpServerEvent :=
  connects 0 1 ++
    [.resume, .arrive ((clientFrame 2).take Size), .resume,
      .arrive ((clientFrame 2).drop Size), .resume] ++
    connects 1 3 ++ [.tunWritten false]

theorem takeover_stranded :
    (StepSystem.run (TcpServer.step Aead.checksumAead) exampleStart
        takeoverDuringPayload).map Stranded =
        some true ∧
      (StepSystem.run (TcpServer.step Aead.checksumAead) exampleStart
        takeoverDuringTunWrite).map Stranded =
        some true := by
  decide +kernel

end

end TcpServer

end Dsvpn
