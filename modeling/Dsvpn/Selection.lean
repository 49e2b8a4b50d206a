import Dsvpn.Handlers
import Dsvpn.Tunnel

namespace Dsvpn

/-!
# What a step does to the selection and to a pending write

The accept handlers, `ReceiveFrom`, `SendTo` and `Close` share two socket
pointers and three flags.  The first inversion lemma says what one step can do
to these; the second says what it can do to the pending write and to the bytes
written.  The invariants about sockets follow from the two, with no further
look at the coroutines.
-/

/-- The pointers and flags the coroutines share. -/
structure Selection where
  conn_socket : Option SocketId
  replace_socket : Option SocketId
  selected : Bool
  stopped : Bool
  tcp_acceptor_open : Bool
  deriving Repr, DecidableEq

namespace TcpServer

def selection (self : TcpServer) : Selection where
  conn_socket := self.connection.conn_socket
  replace_socket := self.connection.replace_socket
  selected := self.connection.selected
  stopped := self.connection.stopped
  tcp_acceptor_open := self.connection.tcp_acceptor_open

/-- Only the receive loop, the packet buffers and the log differ. -/
structure ReceivesOnly (server next : TcpServer) : Prop where
  selection : next.selection = server.selection
  sendLoop : next.sendLoop = server.sendLoop
  socket : next.socket = server.socket
  tryReceive : next.tryReceive = server.tryReceive

section

variable {server self : TcpServer}

theorem ReceivesOnly.refl : self.ReceivesOnly self where
  selection := rfl
  sendLoop := rfl
  socket := rfl
  tryReceive := rfl

theorem ReceivesOnly.receiveFrom
    (only : server.ReceivesOnly self) :
    server.ReceivesOnly self.receiveFrom := by
  apply receiveFrom_rule
  case null =>
    intro _ _
    exact { only with }
  case reads =>
    intro socket _ _
    exact { only with }
  case sleeps =>
    intro _
    exact { only with }

theorem ReceivesOnly.returnFrom
    (only : server.ReceivesOnly self)
    (bytes_read : Int)
    (error : Option ErrorCode) :
    server.ReceivesOnly (self.returnFrom bytes_read error) := by
  have returned (action : Action) :
      server.ReceivesOnly (self.record action) :=
    { only with }
  refine returnFrom_rule (returned _) (fun held => { held with })
    (fun held => held.receiveFrom) ?_
  intro state packet held
  exact { held with }

/-- Without an error, a completed header read moves no pointer. -/
theorem ReceivesOnly.resumeHeader
    (only : server.ReceivesOnly self)
    (aead : Aead 16)
    (reading : SocketId)
    (bytes_read : Nat) :
    server.ReceivesOnly
      (self.resumeHeader aead reading bytes_read none) := by
  have opened (header : PacketBuffer) :
      server.ReceivesOnly (self.setBuffer header) :=
    { only with }
  apply resumeHeader_complete
  case nothing =>
    intro _
    exact only.receiveFrom
  case empty =>
    intro header _
    exact (opened header).receiveFrom
  case null =>
    intro header _ _
    exact { opened header with }
  case announced =>
    intro header current payload_len _ _
    exact { opened header with }

theorem ReceivesOnly.resumePayload
    (only : server.ReceivesOnly self)
    (aead : Aead 16)
    (reading : SocketId)
    (bytes_read : Nat)
    (error : Option ErrorCode) :
    server.ReceivesOnly
      (self.resumePayload aead reading bytes_read error) := by
  refine resumePayload_rule { only with } only
    (fun held => { held with }) ?opened (fun held => held.receiveFrom)
    (fun _ held => held.returnFrom _ _) bytes_read
  case opened =>
    intro state protocol header held
    exact { held with }

end

/-- What one step can do to the pointers and flags. -/
inductive SelectionStep
    (server : TcpServer)
    (event : TcpServerEvent)
    (next : TcpServer) : Prop where
  | unchanged :
      next.selection = server.selection →
      SelectionStep server event next
  | first (socket : SocketId) :
      event = .resumeTry socket →
      server.tryReceive socket ≠ .finished →
      server.selection.selected = false →
      server.selection.tcp_acceptor_open = true →
      next.selection =
        { server.selection with
          selected := true
          conn_socket := some socket } →
      SelectionStep server event next
  | replacing (socket : SocketId) :
      event = .resumeTry socket →
      server.tryReceive socket ≠ .finished →
      server.selection.selected = true →
      server.selection.tcp_acceptor_open = true →
      next.selection =
        { server.selection with replace_socket := some socket } →
      SelectionStep server event next
  | lost :
      server.selection.stopped = false →
      server.selection.replace_socket = none →
      next.selection =
        { server.selection with
          conn_socket := none
          selected := false } →
      SelectionStep server event next
  | swapped (socket : SocketId) :
      server.selection.stopped = false →
      server.selection.replace_socket = some socket →
      next.selection =
        { server.selection with
          conn_socket := some socket
          replace_socket := none
          selected := true } →
      SelectionStep server event next
  | deselected (socket : SocketId) :
      server.selection.stopped = false →
      server.selection.conn_socket = some socket →
      next.selection = { server.selection with selected := false } →
      SelectionStep server event next
  | refused :
      event = .close →
      next.selection =
        { server.selection with tcp_acceptor_open := false } →
      SelectionStep server event next
  | closed :
      event = .close →
      server.selection.selected = true →
      next.selection =
        { server.selection with
          tcp_acceptor_open := false
          conn_socket := none
          selected := false
          stopped := true } →
      SelectionStep server event next

section

variable
    {aead : Aead 16}
    {self next : TcpServer}
    {event : TcpServerEvent}

theorem selection_drop (socket : Option SocketId) :
    (self.drop socket).selection = self.selection := by
  cases socket <;> rfl

theorem selectionStep_loseConnection
    (running : self.connection.stopped = false) :
    SelectionStep self event self.loseConnection := by
  apply loseConnection_rule
  case null =>
    intro _
    exact .unchanged rfl
  case alone =>
    intro socket _ noReplacement
    exact .lost running noReplacement
      ReceivesOnly.refl.receiveFrom.selection
  case replaced =>
    intro socket replacement _ waiting
    exact .swapped replacement running waiting
      ReceivesOnly.refl.receiveFrom.selection

/-- The step depends only on the selection and on who has finished. -/
theorem SelectionStep.rebase
    {before : TcpServer}
    (selection : self.selection = before.selection)
    (tryReceive : self.tryReceive = before.tryReceive)
    (step : SelectionStep self event next) :
    SelectionStep before event next := by
  cases step with
  | unchanged same => exact .unchanged (selection ▸ same)
  | first socket chosen active selected open_ same =>
      exact .first socket chosen (tryReceive ▸ active)
        (selection ▸ selected) (selection ▸ open_) (selection ▸ same)
  | replacing socket chosen active selected open_ same =>
      exact .replacing socket chosen (tryReceive ▸ active)
        (selection ▸ selected) (selection ▸ open_) (selection ▸ same)
  | lost stopped none same =>
      exact .lost (selection ▸ stopped) (selection ▸ none)
        (selection ▸ same)
  | swapped socket stopped waiting same =>
      exact .swapped socket (selection ▸ stopped) (selection ▸ waiting)
        (selection ▸ same)
  | deselected socket stopped current same =>
      exact .deselected socket (selection ▸ stopped)
        (selection ▸ current) (selection ▸ same)
  | refused closes same => exact .refused closes (selection ▸ same)
  | closed closes selected same =>
      exact .closed closes (selection ▸ selected) (selection ▸ same)

theorem selectionStep_resumeHeader
    (reading : SocketId)
    (bytes_read : Nat)
    (error : Option ErrorCode) :
    SelectionStep self event
      (self.resumeHeader aead reading bytes_read error) := by
  cases error with
  | none =>
      exact .unchanged
        (ReceivesOnly.refl.resumeHeader aead reading bytes_read).selection
  | some error =>
      refine resumeHeader_failed ?_ ?_ bytes_read
      · intro _
        exact .unchanged (ReceivesOnly.refl.returnFrom _ _).selection
      · intro running
        refine SelectionStep.rebase ?_ ?_
          (selectionStep_loseConnection running)
        · rfl
        · rfl

theorem selectionStep_choose
    {socket : SocketId}
    (active : self.tryReceive socket ≠ .finished)
    (open_ : self.connection.tcp_acceptor_open = true)
    (authenticated : Bool) :
    SelectionStep self (.resumeTry socket)
      (self.choose socket authenticated) := by
  apply choose_rule
  case first =>
    intro unselected
    exact .first socket rfl active unselected open_ (selection_drop _)
  case null =>
    intro selected _
    exact .replacing socket rfl active selected open_ (selection_drop _)
  case cancelled =>
    intro current selected _ _
    exact .replacing socket rfl active selected open_ (selection_drop _)
  case thrown =>
    intro current selected _ _
    exact .replacing socket rfl active selected open_ (selection_drop _)

theorem selection_resumeTryHeader
    (socket : SocketId)
    (bytes_read : Nat) :
    (self.resumeTryHeader aead socket bytes_read).selection =
      self.selection := by
  let Same (next : TcpServer) : Prop :=
    next.selection = self.selection
  have same : Same (self.resumeTryHeader aead socket bytes_read) :=
    resumeTryHeader_rule rfl (fun _ => rfl) (fun _ _ => rfl)
  exact same

theorem selectionStep_resumeTryPayload
    {socket : SocketId}
    (active : self.tryReceive socket ≠ .finished)
    (bytes_read : Nat)
    (error : Option ErrorCode) :
    SelectionStep self (.resumeTry socket)
      (self.resumeTryPayload aead socket bytes_read error) := by
  apply resumeTryPayload_rule
  case thrown => exact .unchanged rfl
  case nothing =>
    intro _ _
    exact .unchanged rfl
  case outside =>
    intro _
    exact .unchanged rfl
  case chosen =>
    intro protocol header accepted _ _ _ accepting _
    refine SelectionStep.rebase ?_ ?_ (selectionStep_choose ?_ ?_ accepted)
    · rfl
    · rfl
    · exact active
    · exact accepting
  case unreached =>
    intro protocol header accepted _ _ _
    exact .unchanged rfl

theorem selection_sendTo
    (packet : List UInt8)
    (draw : SendDraw) :
    (self.sendTo aead packet draw).selection = self.selection := by
  obtain ⟨_, _, _, changed, _⟩ := sendTo_changes aead self packet draw
  rw [changed]
  rfl

theorem selectionStep_resumeSendTo
    (writing : SocketId)
    (error : Option ErrorCode) :
    SelectionStep self event (self.resumeSendTo writing error) := by
  apply resumeSendTo_rule
  case returned => exact .unchanged rfl
  case stopped =>
    intro _ _
    exact .unchanged rfl
  case null =>
    intro _ _ _
    exact .unchanged rfl
  case deselected =>
    intro socket _ running current
    exact .deselected socket running current rfl

theorem selectionStep_close : SelectionStep self .close self.close := by
  apply close_rule
  case refused => exact .refused rfl rfl
  case null =>
    intro _ _
    exact .refused rfl rfl
  case closed =>
    intro socket selected _
    exact .closed rfl selected rfl

/-- What a step can do to the pointers and flags. -/
theorem step_selection
    (performed : TcpServer.step aead self event = some next) :
    SelectionStep self event next := by
  obtain ⟨_, transition⟩ := step_transition performed
  cases transition with
  | resumeTryHeader _ _ =>
      exact .unchanged (selection_resumeTryHeader _ _)
  | resumeTryPayload reading _ =>
      exact selectionStep_resumeTryPayload (by simp [reading]) _ _
  | wake _ => exact .unchanged ReceivesOnly.refl.receiveFrom.selection
  | resumeHeader _ _ => exact selectionStep_resumeHeader _ _ _
  | resumePayload _ _ =>
      exact .unchanged
        (ReceivesOnly.refl.resumePayload aead _ _ _).selection
  | tunWritten failed _ =>
      cases failed with
      | false =>
          exact .unchanged ReceivesOnly.refl.receiveFrom.selection
      | true => exact .unchanged rfl
  | sendTo packet draw _ => exact .unchanged (selection_sendTo _ _)
  | resumeSendTo _ => exact selectionStep_resumeSendTo _ _
  | close => exact selectionStep_close
  | _ => exact .unchanged rfl

/-- A frame as a send operation seals it. -/
def SealedFrame
    (aead : Aead 16)
    (key frame : List UInt8) : Prop :=
  ∃ packet draw,
    packet.length ≤ MAX_BUFFSIZE ∧
      frame = frameBytes aead key packet draw

theorem SealedFrame.length_pos
    {key frame : List UInt8}
    (isFrame : SealedFrame aead key frame) :
    0 < frame.length := by
  obtain ⟨packet, draw, _, rfl⟩ := isFrame
  rw [length_frameBytes]
  exact Nat.add_pos_left (by decide) _

/-- The write is as before, or has failed since. -/
def SendLoopPc.Interrupted (before after : SendLoopPc) : Prop :=
  after = before ∨
    ∃ socket frame sent error,
      before = .writing socket frame sent none ∧
        after = .writing socket frame sent (some (some error))

theorem SendLoopPc.Interrupted.trans
    {first second third : SendLoopPc}
    (earlier : Interrupted first second)
    (later : Interrupted second third) :
    Interrupted first third := by
  rcases later with rfl | ⟨socket, frame, sent, error, isWriting, rfl⟩
  · exact earlier
  · rcases earlier with rfl | ⟨_, _, _, _, rfl, failed⟩
    · exact Or.inr ⟨socket, frame, sent, error, isWriting, rfl⟩
    · simp [failed] at isWriting

theorem SendLoopPc.interrupted_abort
    (pc : SendLoopPc)
    (target : SocketId) :
    Interrupted pc (pc.abort target) := by
  unfold SendLoopPc.abort
  split
  · split
    · exact Or.inr ⟨_, _, _, _, rfl, rfl⟩
    · exact Or.inl rfl
  · exact Or.inl rfl

/-- Nothing is written, and a pending write can only be interrupted. -/
structure LeavesWrites (server next : TcpServer) : Prop where
  sendLoop : SendLoopPc.Interrupted server.sendLoop next.sendLoop
  written :
    ∀ socket,
      (next.socket socket).written = (server.socket socket).written

/-- What one step can do to the pending write and the bytes written. -/
inductive SendStep
    (aead : Aead 16)
    (server next : TcpServer) : Prop where
  | left :
      LeavesWrites server next →
      SendStep aead server next
  | accepted :
      next.sendLoop = server.sendLoop →
      next.socket =
        Function.update server.socket server.accepted
          ⟨true, true, []⟩ →
      SendStep aead server next
  | started
      (socket : SocketId)
      (frame : List UInt8)
      (outcome : Option (Option ErrorCode)) :
      server.sendLoop = .readTun →
      server.connection.selected = true →
      server.connection.conn_socket = some socket →
      SealedFrame aead server.key frame →
      outcome ≠ some none →
      next.sendLoop = .writing socket frame 0 outcome →
      next.socket = server.socket →
      SendStep aead server next
  | wrote
      (socket : SocketId)
      (frame : List UInt8)
      (sent length : Nat) :
      server.sendLoop = .writing socket frame sent none →
      0 < length →
      sent + length ≤ frame.length →
      next = server.writeSome socket frame sent length →
      SendStep aead server next
  | completed
      (socket : SocketId)
      (frame : List UInt8)
      (sent : Nat) :
      server.sendLoop = .writing socket frame sent (some none) →
      next.sendLoop = .readTun →
      next.socket = server.socket →
      SendStep aead server next
  | failed
      (socket : SocketId)
      (frame : List UInt8)
      (sent : Nat)
      (error : ErrorCode) :
      server.sendLoop = .writing socket frame sent (some (some error)) →
      next.sendLoop = .readTun →
      next.socket = server.socket →
      server.connection.stopped = true ∨
        next.connection.conn_socket = none ∨
        next.connection.selected = false →
      SendStep aead server next

theorem LeavesWrites.refl : LeavesWrites self self where
  sendLoop := Or.inl rfl
  written := fun _ => rfl

theorem LeavesWrites.kept :
    KeptByReturning (fun next => LeavesWrites self next) where
  setPointers := fun _ _ _ leaves => { leaves with }
  finish := fun _ _ leaves => { leaves with }
  wake := fun leaves => { leaves with }
  abort := fun target leaves =>
    { sendLoop :=
        leaves.sendLoop.trans (SendLoopPc.interrupted_abort _ target)
      written := leaves.written }
  shut := fun {server} target leaves =>
    { sendLoop := leaves.sendLoop
      written := fun socket => by
        rw [← leaves.written socket]
        unfold TcpServer.shut
        by_cases same : socket = target
        · subst same
          simp
        · simp [same] }
  record := fun _ _ leaves => { leaves with }
  nullDereference := fun leaves => { leaves with }
  setReceiveLoop := fun _ _ leaves => { leaves with }
  recordReturned := fun _ leaves => { leaves with }
  endReceiveLoop := fun leaves => { leaves with }

/-- `SendTo` drops the packet, or starts to write a sealed frame. -/
theorem sendStep_sendTo
    (reading : self.sendLoop = .readTun)
    (packet : List UInt8)
    (draw : SendDraw) :
    SendStep aead self (self.sendTo aead packet draw) := by
  rcases sendTo_cases aead self packet draw with
    ⟨_, faulted, _⟩ | ⟨_, kept, _⟩ |
      ⟨members, socket, writes, _, _, selected, current, fits⟩
  · rw [faulted]
    exact .left { LeavesWrites.refl with }
  · rw [kept]
    exact .left { LeavesWrites.refl with }
  · rw [writes]
    refine .started socket _ _ reading selected current
      ⟨packet, draw, fits, rfl⟩ ?_ rfl rfl
    split
    · nofun
    · nofun

theorem sendStep_resumeSendTo
    {socket : SocketId}
    {frame : List UInt8}
    {sent : Nat}
    {error : Option ErrorCode}
    (writing : self.sendLoop = .writing socket frame sent (some error)) :
    SendStep aead self (self.resumeSendTo socket error) := by
  cases error with
  | none => exact .completed socket frame sent writing rfl rfl
  | some error =>
      unfold TcpServer.resumeSendTo
      simp only [Option.isSome_some, if_true]
      split
      · rename_i stopped
        exact .failed socket frame sent error writing rfl rfl
          (Or.inl stopped)
      · split
        · rename_i null
          exact .failed socket frame sent error writing rfl rfl
            (Or.inr (Or.inl null))
        · exact .failed socket frame sent error writing rfl rfl
            (Or.inr (Or.inr rfl))

/-- What a step can do to the pending write and the bytes written. -/
theorem step_sendLoop
    {event : TcpServerEvent}
    (performed : TcpServer.step aead self event = some next) :
    SendStep aead self next := by
  obtain ⟨_, transition⟩ := step_transition performed
  cases transition with
  | resumeAccept _ => exact .accepted rfl rfl
  | disconnect socket =>
      refine .left ⟨Or.inl rfl, fun other => ?_⟩
      by_cases same : other = socket
      · subst same
        simp
      · simp [same]
  | resumeTryHeader reading _ =>
      exact .left (LeavesWrites.kept.resumeTryHeader
        (by simp [reading]) _ LeavesWrites.refl
        (fun _ => { LeavesWrites.refl with })
        fun _ _ => { LeavesWrites.refl with })
  | resumeTryPayload reading _ =>
      exact .left (LeavesWrites.kept.resumeTryPayload
        (by simp [reading]) _ _ (fun leaves => { leaves with })
        LeavesWrites.refl fun _ _ _ => { LeavesWrites.refl with })
  | wake _ =>
      exact .left (LeavesWrites.kept.receiveFrom LeavesWrites.refl)
  | resumeHeader _ _ =>
      exact .left (LeavesWrites.kept.resumeHeader _ _ _
        LeavesWrites.refl fun _ _ => { LeavesWrites.refl with })
  | resumePayload _ _ =>
      exact .left (LeavesWrites.kept.resumePayload _ _ _
        LeavesWrites.refl fun _ _ leaves => { leaves with })
  | tunWritten failed _ =>
      cases failed with
      | false =>
          exact .left (LeavesWrites.kept.receiveFrom LeavesWrites.refl)
      | true => exact .left { LeavesWrites.refl with }
  | sendTo packet draw reading => exact sendStep_sendTo reading _ _
  | writeSome writing positive room =>
      exact .wrote _ _ _ _ writing positive room rfl
  | writeError error writing =>
      exact .left
        ⟨Or.inr ⟨_, _, _, error, writing, rfl⟩, fun _ => rfl⟩
  | resumeSendTo writing => exact sendStep_resumeSendTo writing
  | close => exact .left (LeavesWrites.kept.close LeavesWrites.refl)
  | _ => exact .left { LeavesWrites.refl with }

/-- The handshakes that had finished have still finished. -/
structure KeepsFinished (server next : TcpServer) : Prop where
  finished :
    ∀ socket, server.tryReceive socket = .finished →
      next.tryReceive socket = .finished

theorem KeepsFinished.refl : KeepsFinished self self where
  finished := fun _ finished => finished

/-- A handshake that has not finished changes its state. -/
theorem KeepsFinished.setTryReceive
    (keeps : KeepsFinished self next)
    {target : SocketId}
    (active : next.tryReceive target ≠ .finished)
    (pc : TryReceivePc) :
    KeepsFinished self (setTryReceive target pc next) where
  finished := fun socket finished => by
    have still := keeps.finished socket finished
    have different : socket ≠ target := by
      rintro rfl
      exact active still
    exact (Function.update_of_ne different _ _).trans still

theorem KeepsFinished.kept :
    KeptByReturning (fun next => KeepsFinished self next) where
  setPointers := fun _ _ _ keeps => { keeps with }
  finish := fun _ active keeps => keeps.setTryReceive active .finished
  wake := fun keeps => { keeps with }
  abort := fun target keeps =>
    { finished := fun socket finished => by
        have still := keeps.finished socket finished
        rcases abort_tryReceive target socket with same | aborted
        · exact same.trans still
        · exact aborted.trans
            (TryReceivePc.abort_eq_finished.mpr still) }
  shut := fun _ keeps => { keeps with }
  record := fun _ _ keeps => { keeps with }
  nullDereference := fun keeps => { keeps with }
  setReceiveLoop := fun _ _ keeps => { keeps with }
  recordReturned := fun _ keeps => { keeps with }
  endReceiveLoop := fun keeps => { keeps with }

theorem keepsFinished_sendTo
    (packet : List UInt8)
    (draw : SendDraw) :
    KeepsFinished self (self.sendTo aead packet draw) := by
  obtain ⟨_, _, _, changed, _⟩ := sendTo_changes aead self packet draw
  rw [changed]
  exact { KeepsFinished.refl with }

/-- A handshake that has finished is never taken up again. -/
theorem step_keepsFinished
    {event : TcpServerEvent}
    (orderly : self.Orderly)
    (performed : TcpServer.step aead self event = some next) :
    KeepsFinished self next := by
  obtain ⟨_, transition⟩ := step_transition performed
  cases transition with
  | resumeAccept _ =>
      refine ⟨fun socket finished => ?_⟩
      have bound := orderly.started socket (by simp [finished])
      exact (Function.update_of_ne (Nat.ne_of_lt bound) _ _).trans
        finished
  | arriveTryHeader reading _ _ =>
      apply KeepsFinished.setTryReceive
      · exact { KeepsFinished.refl with }
      · simp [setBuffer, reading]
  | arriveTryPayload reading _ _ =>
      apply KeepsFinished.setTryReceive
      · exact { KeepsFinished.refl with }
      · simp [setBuffer, reading]
  | failTryHeader _ reading =>
      exact KeepsFinished.refl.setTryReceive (by simp [reading]) _
  | failTryPayload _ reading =>
      exact KeepsFinished.refl.setTryReceive (by simp [reading]) _
  | resumeTryHeader reading _ =>
      refine KeepsFinished.kept.resumeTryHeader (by simp [reading]) _
        KeepsFinished.refl (fun _ => { KeepsFinished.refl with })
        fun _ _ => ?_
      apply KeepsFinished.setTryReceive
      · exact { KeepsFinished.refl with }
      · simp [openHeader, setBuffer, reading]
  | resumeTryPayload reading _ =>
      exact KeepsFinished.kept.resumeTryPayload (by simp [reading]) _ _
        (fun keeps => { keeps with }) KeepsFinished.refl
        fun _ _ _ => { KeepsFinished.refl with }
  | wake _ => exact KeepsFinished.kept.receiveFrom KeepsFinished.refl
  | resumeHeader _ _ =>
      exact KeepsFinished.kept.resumeHeader _ _ _ KeepsFinished.refl
        fun _ _ => { KeepsFinished.refl with }
  | resumePayload _ _ =>
      exact KeepsFinished.kept.resumePayload _ _ _ KeepsFinished.refl
        fun _ _ keeps => { keeps with }
  | tunWritten failed _ =>
      cases failed with
      | false => exact KeepsFinished.kept.receiveFrom KeepsFinished.refl
      | true => exact { KeepsFinished.refl with }
  | sendTo packet draw _ => exact keepsFinished_sendTo _ _
  | resumeSendTo _ =>
      exact KeepsFinished.kept.resumeSendTo _ _
        { KeepsFinished.refl with }
  | close => exact KeepsFinished.kept.close KeepsFinished.refl
  | _ => exact { KeepsFinished.refl with }

end

end TcpServer

end Dsvpn
