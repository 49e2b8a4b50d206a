import Dsvpn.TornFrames

namespace Dsvpn

/-!
# What throws in `tryReceive`

`tryReceive` gives its first read an error code, and none to its second read,
to `local_endpoint`, to `remote_endpoint` and to the `cancel` of the socket it
replaces.  The last never throws, since a selected socket is open; the others
throw as they are met.
-/

namespace TcpServer

/-- A socket that is tried, current or waiting is open. -/
structure SocketsOpen (server : TcpServer) : Prop where
  triedOpen :
    ∀ socket, server.tryReceive socket ≠ .notStarted →
      server.tryReceive socket ≠ .finished →
      (server.socket socket).is_open = true
  currentOpen :
    ∀ socket, server.connection.conn_socket = some socket →
      (server.socket socket).is_open = true
  waitingOpen :
    ∀ socket, server.connection.replace_socket = some socket →
      (server.socket socket).is_open = true

/--
If `tryReceive` goes on from its payload read, then the read did not fail;
and if it got some byte, the acceptor is open and the socket has a remote
endpoint.
-/
def resumesUnthrown
    (self : TcpServer)
    (event : TcpServerEvent) : Bool :=
  match event with
  | .resumeTry socket =>
      match self.tryReceive socket with
      | .readPayload ⟨_, _, _, some (some _)⟩ => false
      | .readPayload ⟨_, _, got, some none⟩ =>
          got == 0 ||
            (self.connection.tcp_acceptor_open &&
              (self.socket socket).connected)
      | _ => true
  | _ => true

/-- No exception has left a coroutine. -/
def Unthrown (self : TcpServer) : Prop :=
  self.fault ≠ some .uncaughtException

instance (self : TcpServer) : Decidable self.Unthrown :=
  inferInstanceAs (Decidable (_ ≠ _))

section

variable
    {aead : Aead 16}
    {self next : TcpServer}

theorem SocketsOpen.create
    (conn_key : List UInt8)
    (addresses : Server) :
    (create conn_key addresses).SocketsOpen where
  triedOpen := fun _ isStarted => (isStarted rfl).elim
  currentOpen := nofun
  waitingOpen := nofun

theorem SocketsOpen.abort
    (opened : self.SocketsOpen)
    (target : SocketId) :
    (self.abort target).SocketsOpen where
  triedOpen := fun socket isStarted active => by
    rcases self.abort_tryReceive target socket with same | aborted
    · rw [same] at isStarted active
      exact opened.triedOpen socket isStarted active
    · rw [aborted, Ne, TryReceivePc.abort_eq_notStarted] at isStarted
      rw [aborted, Ne, TryReceivePc.abort_eq_finished] at active
      exact opened.triedOpen socket isStarted active
  currentOpen := opened.currentOpen
  waitingOpen := opened.waitingOpen

/-- A socket nobody holds can be shut. -/
theorem SocketsOpen.shut
    (opened : self.SocketsOpen)
    {target : SocketId}
    (finished : self.tryReceive target = .finished)
    (notCurrent : self.connection.conn_socket ≠ some target)
    (notWaiting : self.connection.replace_socket ≠ some target) :
    (self.shut target).SocketsOpen := by
  have others {socket : SocketId} (different : socket ≠ target) :
      (self.shut target).socket socket = self.socket socket :=
    Function.update_of_ne different _ _
  exact
    { triedOpen := fun socket isStarted active => by
        rw [others (by rintro rfl; exact active finished)]
        exact opened.triedOpen socket isStarted active
      currentOpen := fun socket current => by
        rw [others (by rintro rfl; exact notCurrent current)]
        exact opened.currentOpen socket current
      waitingOpen := fun socket waiting => by
        rw [others (by rintro rfl; exact notWaiting waiting)]
        exact opened.waitingOpen socket waiting }

theorem SocketsOpen.drop
    (opened : self.SocketsOpen)
    {target : Option SocketId}
    (finished :
      ∀ socket, target = some socket →
        self.tryReceive socket = .finished)
    (notCurrent :
      ∀ socket, target = some socket →
        self.connection.conn_socket ≠ some socket)
    (notWaiting :
      ∀ socket, target = some socket →
        self.connection.replace_socket ≠ some socket) :
    (self.drop target).SocketsOpen := by
  cases target with
  | none => exact opened
  | some target =>
      have isFinished :
          (self.abort target).tryReceive target = .finished := by
        rcases self.abort_tryReceive target target with same | aborted
        · exact same.trans (finished target rfl)
        · exact aborted.trans
            (TryReceivePc.abort_eq_finished.mpr (finished target rfl))
      exact
        { (opened.abort target).shut isFinished
            (notCurrent target rfl) (notWaiting target rfl) with }

/-- What moves no pointer and touches no socket keeps the sockets open. -/
theorem SocketsOpen.receivesOnly
    (opened : self.SocketsOpen)
    (only : self.ReceivesOnly next) :
    next.SocketsOpen where
  triedOpen := by
    rw [only.tryReceive, only.socket]
    exact opened.triedOpen
  currentOpen := by
    have current := congrArg Selection.conn_socket only.selection
    change next.connection.conn_socket = self.connection.conn_socket
      at current
    rw [current, only.socket]
    exact opened.currentOpen
  waitingOpen := by
    have waiting := congrArg Selection.replace_socket only.selection
    change
      next.connection.replace_socket = self.connection.replace_socket
      at waiting
    rw [waiting, only.socket]
    exact opened.waitingOpen

theorem SocketsOpen.receiveFrom
    (opened : self.SocketsOpen) :
    self.receiveFrom.SocketsOpen :=
  opened.receivesOnly ReceivesOnly.refl.receiveFrom

/-- The current socket is closed, which is not the one that waits. -/
theorem SocketsOpen.release
    (opened : self.SocketsOpen)
    (orderly : self.Orderly)
    (placed : self.WriterPlaced)
    {socket : SocketId}
    (current : self.connection.conn_socket = some socket) :
    SocketsOpen
      (TcpServer.drop
        { self with
          connection := { self.connection with conn_socket := none } }
        (some socket)) := by
  apply SocketsOpen.drop
  · exact { opened with currentOpen := nofun }
  · rintro _ ⟨⟩
    exact orderly.currentFinished socket current
  · nofun
  · rintro _ ⟨⟩
    exact placed.currentNotWaiting socket current

theorem SocketsOpen.loseConnection
    (opened : self.SocketsOpen)
    (orderly : self.Orderly)
    (placed : self.WriterPlaced) :
    self.loseConnection.SocketsOpen := by
  apply loseConnection_rule
  case null =>
    intro _
    exact { opened with }
  case alone =>
    intro socket current _
    apply SocketsOpen.receiveFrom
    exact { opened.release orderly placed current with }
  case replaced =>
    intro socket replacement current waiting
    apply SocketsOpen.receiveFrom
    refine
      { opened.release orderly placed current with
        currentOpen := ?_
        waitingOpen := nofun }
    rintro _ ⟨⟩
    exact (opened.release orderly placed current).waitingOpen
      replacement waiting

theorem SocketsOpen.setTryReceive
    (opened : self.SocketsOpen)
    {socket : SocketId}
    (isOpen : (self.socket socket).is_open = true)
    (pc : TryReceivePc) :
    (setTryReceive socket pc self).SocketsOpen where
  triedOpen := fun other isStarted active => by
    by_cases same : other = socket
    · subst same
      exact isOpen
    · simp only [TcpServer.setTryReceive,
        Function.update_of_ne same] at isStarted active
      exact opened.triedOpen other isStarted active
  currentOpen := opened.currentOpen
  waitingOpen := opened.waitingOpen

/-- A socket changes, but not from open to closed. -/
theorem SocketsOpen.setSocket
    (opened : self.SocketsOpen)
    (target : SocketId)
    (changed : Socket)
    (stays :
      (self.socket target).is_open = true → changed.is_open = true) :
    SocketsOpen
      { self with
        socket := Function.update self.socket target changed } := by
  have still (socket : SocketId)
      (isOpen : (self.socket socket).is_open = true) :
      (Function.update self.socket target changed socket).is_open =
        true := by
    by_cases same : socket = target
    · subst same
      rw [Function.update_self]
      exact stays isOpen
    · rw [Function.update_of_ne same]
      exact isOpen
  exact
    { triedOpen := fun socket isStarted active =>
        still socket (opened.triedOpen socket isStarted active)
      currentOpen := fun socket current =>
        still socket (opened.currentOpen socket current)
      waitingOpen := fun socket waiting =>
        still socket (opened.waitingOpen socket waiting) }

theorem SocketsOpen.resumeAccept
    (opened : self.SocketsOpen) :
    self.resumeAccept.SocketsOpen := by
  have accepted :=
    opened.setSocket self.accepted ⟨true, true, []⟩ (fun _ => rfl)
  have isOpen :
      (Function.update self.socket self.accepted ⟨true, true, []⟩
        self.accepted).is_open =
        true := by
    rw [Function.update_self]
  exact { accepted.setTryReceive isOpen _ with }

theorem SocketsOpen.giveUp
    (opened : self.SocketsOpen)
    (orderly : self.Orderly)
    {socket : SocketId}
    (isStarted : self.tryReceive socket ≠ .notStarted)
    (active : self.tryReceive socket ≠ .finished) :
    (self.giveUp socket).SocketsOpen := by
  have finished :=
    opened.setTryReceive
      (opened.triedOpen socket isStarted active) .finished
  exact
    { finished.shut (Function.update_self _ _ _)
        (fun current =>
          active (orderly.currentFinished socket current))
        (fun waiting =>
          active (orderly.waitingFinished socket waiting)) with }

theorem finished_update
    {socket other : SocketId}
    (finished : self.tryReceive other = .finished) :
    Function.update self.tryReceive socket .finished other =
      .finished := by
  by_cases same : other = socket
  · rw [same, Function.update_self]
  · rw [Function.update_of_ne same, finished]

/-- A socket becomes the waiting one, and the earlier waiting one goes. -/
theorem SocketsOpen.replace
    (opened : self.SocketsOpen)
    (orderly : self.Orderly)
    (placed : self.WriterPlaced)
    {socket : SocketId}
    (isStarted : self.tryReceive socket ≠ .notStarted)
    (active : self.tryReceive socket ≠ .finished)
    (authenticated : Bool) :
    (self.queueReplacement socket authenticated).SocketsOpen := by
  have isOpen := opened.triedOpen socket isStarted active
  have finished := opened.setTryReceive isOpen .finished
  apply SocketsOpen.drop
  · refine { finished with waitingOpen := ?_ }
    rintro _ ⟨⟩
    exact isOpen
  · intro other waiting
    exact finished_update (orderly.waitingFinished other waiting)
  · intro other waiting current
    exact placed.currentNotWaiting other current waiting
  · rintro _ waiting ⟨⟩
    exact active (orderly.waitingFinished _ waiting)

theorem SocketsOpen.choose
    (opened : self.SocketsOpen)
    (orderly : self.Orderly)
    (placed : self.WriterPlaced)
    {socket : SocketId}
    (isStarted : self.tryReceive socket ≠ .notStarted)
    (active : self.tryReceive socket ≠ .finished)
    (authenticated : Bool) :
    (self.choose socket authenticated).SocketsOpen := by
  have replacing :=
    opened.replace orderly placed isStarted active authenticated
  have isOpen := opened.triedOpen socket isStarted active
  have finished := opened.setTryReceive isOpen .finished
  apply choose_rule
  case first =>
    intro _
    apply SocketsOpen.drop
    · refine { finished with currentOpen := ?_ }
      rintro _ ⟨⟩
      exact isOpen
    · intro other current
      exact finished_update (orderly.currentFinished other current)
    · rintro _ current ⟨⟩
      exact active (orderly.currentFinished _ current)
    · exact fun other current =>
        placed.currentNotWaiting other current
  case null =>
    intro _ _
    exact { replacing with }
  case cancelled =>
    intro current _ _ _
    exact { replacing.abort current with }
  case thrown =>
    intro current _ _ _
    exact { replacing with }

theorem SocketsOpen.resumeHeader
    (opened : self.SocketsOpen)
    (orderly : self.Orderly)
    (placed : self.WriterPlaced)
    (reading : SocketId)
    (bytes_read : Nat)
    (error : Option ErrorCode) :
    (self.resumeHeader aead reading bytes_read error).SocketsOpen := by
  cases error with
  | none =>
      exact opened.receivesOnly
        (ReceivesOnly.refl.resumeHeader aead reading bytes_read)
  | some error =>
      have failed : (self.record (.readFailed reading)).SocketsOpen :=
        { opened with }
      exact resumeHeader_failed
        (fun _ => failed.receivesOnly (ReceivesOnly.refl.returnFrom _ _))
        (fun _ => failed.loseConnection { orderly with } { placed with })
        bytes_read

theorem SocketsOpen.resumeTryHeader
    (opened : self.SocketsOpen)
    (orderly : self.Orderly)
    {socket : SocketId}
    (isStarted : self.tryReceive socket ≠ .notStarted)
    (active : self.tryReceive socket ≠ .finished)
    (bytes_read : Nat) :
    (self.resumeTryHeader aead socket bytes_read).SocketsOpen := by
  have givenUp := opened.giveUp orderly isStarted active
  apply resumeTryHeader_rule
  case nothing => exact givenUp
  case empty =>
    intro header
    exact { givenUp with }
  case announced =>
    intro header payload_len
    exact
      { opened.setTryReceive
          (opened.triedOpen socket isStarted active) _ with }

theorem SocketsOpen.resumeTryPayload
    (opened : self.SocketsOpen)
    (orderly : self.Orderly)
    (placed : self.WriterPlaced)
    {socket : SocketId}
    (isStarted : self.tryReceive socket ≠ .notStarted)
    (active : self.tryReceive socket ≠ .finished)
    (bytes_read : Nat)
    (error : Option ErrorCode) :
    (self.resumeTryPayload aead socket bytes_read
      error).SocketsOpen := by
  apply resumeTryPayload_rule
  case thrown => exact { opened with }
  case nothing =>
    intro _ _
    exact opened.giveUp orderly isStarted active
  case outside =>
    intro _
    exact { opened with }
  case chosen =>
    intro protocol header accepted _ _ _ _ _
    apply SocketsOpen.choose
    · exact { opened with }
    · exact { orderly with }
    · exact { placed with }
    · exact isStarted
    · exact active
  case unreached =>
    intro protocol header accepted _ _ _
    exact { opened with }

theorem SocketsOpen.sendTo
    (opened : self.SocketsOpen)
    (packet : List UInt8)
    (draw : SendDraw) :
    (self.sendTo aead packet draw).SocketsOpen := by
  obtain ⟨_, _, _, changed, _⟩ := sendTo_changes aead self packet draw
  rw [changed]
  exact { opened with }

theorem SocketsOpen.resumeSendTo
    (opened : self.SocketsOpen)
    (socket : SocketId)
    (error : Option ErrorCode) :
    (self.resumeSendTo socket error).SocketsOpen := by
  apply resumeSendTo_rule
  case returned => exact { opened with }
  case stopped =>
    intro _ _
    exact { opened with }
  case null =>
    intro _ _ _
    exact { opened with }
  case deselected =>
    intro current _ _ _
    exact { opened.abort current with }

theorem SocketsOpen.close
    (opened : self.SocketsOpen)
    (orderly : self.Orderly)
    (placed : self.WriterPlaced) :
    self.close.SocketsOpen := by
  apply close_rule
  case refused => exact { opened with }
  case null =>
    intro _ _
    exact { opened with }
  case closed =>
    intro socket _ current
    have released := opened.release orderly placed current
    exact { released with currentOpen := nofun }

/-- Every step keeps the sockets in use open. -/
theorem SocketsOpen.step
    {event : TcpServerEvent}
    (opened : self.SocketsOpen)
    (orderly : self.Orderly)
    (placed : self.WriterPlaced)
    (performed : TcpServer.step aead self event = some next) :
    next.SocketsOpen := by
  have tried {socket : SocketId} {pc : TryReceivePc}
      (reading : self.tryReceive socket = pc)
      (isStarted : pc ≠ .notStarted)
      (active : pc ≠ .finished) :
      (self.socket socket).is_open = true :=
    opened.triedOpen socket (reading ▸ isStarted) (reading ▸ active)
  obtain ⟨_, transition⟩ := step_transition performed
  cases transition with
  | resumeAccept _ => exact opened.resumeAccept
  | disconnect socket => exact opened.setSocket socket _ id
  | arriveTryHeader reading _ _ =>
      exact
        { opened.setTryReceive (tried reading nofun nofun) _ with }
  | arriveTryPayload reading _ _ =>
      exact
        { opened.setTryReceive (tried reading nofun nofun) _ with }
  | failTryHeader _ reading =>
      exact opened.setTryReceive (tried reading nofun nofun) _
  | failTryPayload _ reading =>
      exact opened.setTryReceive (tried reading nofun nofun) _
  | resumeTryHeader reading _ =>
      exact opened.resumeTryHeader orderly (by simp [reading])
        (by simp [reading]) _
  | resumeTryPayload reading _ =>
      exact opened.resumeTryPayload orderly placed
        (by simp [reading]) (by simp [reading]) _ _
  | wake _ => exact opened.receiveFrom
  | resumeHeader _ _ => exact opened.resumeHeader orderly placed _ _ _
  | resumePayload _ _ =>
      exact opened.receivesOnly
        (ReceivesOnly.refl.resumePayload aead _ _ _)
  | tunWritten failed _ =>
      cases failed with
      | false => exact opened.receiveFrom
      | true => exact { opened with }
  | sendTo packet draw _ => exact opened.sendTo packet draw
  | @writeSome socket frame sent length _ _ _ =>
      have written :=
        opened.setSocket socket
          { self.socket socket with
            written :=
              (self.socket socket).written ++
                (frame.drop sent).take length }
          id
      exact { written with }
  | resumeSendTo _ => exact opened.resumeSendTo _ _
  | close => exact opened.close orderly placed
  | _ => exact { opened with }

/-! ## Exceptions -/

theorem Unthrown.kept : KeptByReturning Unthrown where
  setPointers := fun _ _ _ unthrown => unthrown
  finish := fun _ _ unthrown => unthrown
  wake := fun unthrown => unthrown
  abort := fun _ unthrown => unthrown
  shut := fun _ unthrown => unthrown
  record := fun _ _ unthrown => unthrown
  nullDereference := fun _ => nofun
  setReceiveLoop := fun _ _ unthrown => unthrown
  recordReturned := fun _ unthrown => unthrown
  endReceiveLoop := fun unthrown => unthrown

theorem unthrown_sendTo
    (unthrown : self.Unthrown)
    (packet : List UInt8)
    (draw : SendDraw) :
    (self.sendTo aead packet draw).Unthrown := by
  rcases sendTo_cases aead self packet draw with
    ⟨_, faulted, rfl | ⟨rfl, _⟩⟩ | ⟨_, kept, _⟩ | ⟨_, _, writes, _⟩
  · rw [faulted]
    nofun
  · rw [faulted]
    nofun
  · rw [kept]
    exact unthrown
  · rw [writes]
    exact unthrown

/-- The `cancel` of the selected socket does not throw. -/
theorem unthrown_choose
    (unthrown : self.Unthrown)
    (opened : self.SocketsOpen)
    (orderly : self.Orderly)
    (placed : self.WriterPlaced)
    {socket : SocketId}
    (isStarted : self.tryReceive socket ≠ .notStarted)
    (active : self.tryReceive socket ≠ .finished)
    (authenticated : Bool) :
    (self.choose socket authenticated).Unthrown := by
  have replacing :=
    opened.replace orderly placed isStarted active authenticated
  apply choose_rule
  case first =>
    intro _
    apply Unthrown.kept.drop
    exact unthrown
  case null =>
    intro _ _
    exact nofun
  case cancelled =>
    intro current _ _ _
    apply Unthrown.kept.cancel
    apply Unthrown.kept.drop
    exact unthrown
  case thrown =>
    intro current _ isCurrent closed
    have isOpen :=
      replacing.currentOpen current
        (by rw [queueReplacement_connection]; exact isCurrent)
    rw [isOpen] at closed
    cases closed

/-- From its payload read on, `tryReceive` throws in three places. -/
theorem resumeTryPayload_unthrown_iff
    (unthrown : self.Unthrown)
    (opened : self.SocketsOpen)
    (orderly : self.Orderly)
    (placed : self.WriterPlaced)
    {socket : SocketId}
    {op : ReadOp}
    {error : Option ErrorCode}
    (reading : self.tryReceive socket = .readPayload op)
    (completed : op.outcome = some error) :
    (self.resumeTryPayload aead socket op.got error).Unthrown ↔
      self.resumesUnthrown (.resumeTry socket) = true := by
  obtain ⟨offset, want, got, outcome⟩ := op
  simp only at completed
  subst completed
  cases error with
  | some error =>
      refine iff_of_false (fun safe => safe rfl) ?_
      simp [resumesUnthrown, reading]
  | none =>
      unfold TcpServer.resumeTryPayload
      rw [if_neg (by simp)]
      by_cases nothing : got = 0
      · rw [if_pos nothing]
        refine iff_of_true unthrown ?_
        simp [resumesUnthrown, reading, nothing]
      · rw [if_neg nothing]
        have condition :
            self.resumesUnthrown (.resumeTry socket) = true ↔
              self.connection.tcp_acceptor_open = true ∧
                (self.socket socket).connected = true := by
          simp [resumesUnthrown, reading, nothing]
        rw [condition]
        obtain ⟨protocol, header, accepted, decrypts⟩ :
            ∃ protocol header accepted,
              self.connection.protocol.DecryptPayload aead
                  self.connection.conn_recv_buffer =
                some (protocol, header, accepted) := by
          rcases self.connection.protocol.DecryptPayload_cases aead
              self.connection.conn_recv_buffer with
              ⟨_, _, _, _, opens⟩ | rejects
          · exact ⟨_, _, _, opens⟩
          · exact ⟨_, _, _, rejects⟩
        simp only [decrypts]
        split
        · rename_i reaches
          refine iff_of_true ?_ reaches
          apply unthrown_choose
          · exact unthrown
          · exact { opened with }
          · exact { orderly with }
          · exact { placed with }
          · simp [reading]
          · simp [reading]
        · rename_i throws
          exact iff_of_false (fun safe => safe rfl) throws

/-- A step throws no exception exactly under the condition. -/
theorem step_unthrown_iff
    {event : TcpServerEvent}
    (opened : self.SocketsOpen)
    (orderly : self.Orderly)
    (placed : self.WriterPlaced)
    (performed : TcpServer.step aead self event = some next) :
    next.Unthrown ↔
      self.Unthrown ∧ self.resumesUnthrown event = true := by
  obtain ⟨running, transition⟩ := step_transition performed
  have unthrown : self.Unthrown := by
    simp [Unthrown, running]
  rw [and_iff_right unthrown]
  cases transition with
  | arriveTryOutside _ _ _ => exact iff_of_true nofun rfl
  | resumeTryHeader reading _ =>
      exact iff_of_true
        (Unthrown.kept.resumeTryHeader (by simp [reading]) _ unthrown
          (fun _ => unthrown) fun _ _ => unthrown)
        (by simp [resumesUnthrown, reading])
  | resumeTryPayload reading completed =>
      exact resumeTryPayload_unthrown_iff unthrown opened orderly
        placed reading completed
  | wake _ =>
      exact iff_of_true (Unthrown.kept.receiveFrom unthrown) rfl
  | arriveOutside _ _ _ => exact iff_of_true nofun rfl
  | resumeHeader _ _ =>
      exact iff_of_true
        (Unthrown.kept.resumeHeader _ _ _ unthrown
          fun _ _ => unthrown) rfl
  | resumePayload _ _ =>
      exact iff_of_true
        (Unthrown.kept.resumePayload _ _ _ unthrown
          fun _ _ unthrown => unthrown) rfl
  | tunWritten failed _ =>
      cases failed with
      | false =>
          exact iff_of_true (Unthrown.kept.receiveFrom unthrown) rfl
      | true => exact iff_of_true unthrown rfl
  | sendTo packet draw _ =>
      exact iff_of_true (unthrown_sendTo unthrown packet draw) rfl
  | resumeSendTo _ =>
      exact iff_of_true
        (Unthrown.kept.resumeSendTo _ _ (by exact unthrown)) rfl
  | close => exact iff_of_true (Unthrown.kept.close unthrown) rfl
  | _ => exact iff_of_true unthrown rfl

/--
In every run, no exception leaves a coroutine exactly if no `tryReceive` goes
on from a failed payload read, from a payload read on a socket without a
remote endpoint, or from one after the acceptor was closed.
-/
theorem unthrown_iff
    (aead : Aead 16)
    (conn_key : List UInt8)
    (addresses : Server)
    (events : List TcpServerEvent)
    (state : TcpServer)
    (reached :
      StepSystem.run (TcpServer.step aead)
          (TcpServer.create conn_key addresses) events =
        some state) :
    state.fault ≠ some .uncaughtException ↔
      StepSystem.Along (TcpServer.step aead)
        (fun state event => state.resumesUnthrown event = true)
        (TcpServer.create conn_key addresses) events := by
  let Invariant (server : TcpServer) : Prop :=
    server.Orderly ∧ server.WriterPlaced ∧ server.SocketsOpen
  have initially : Invariant (TcpServer.create conn_key addresses) :=
    ⟨Orderly.create _ _, WriterPlaced.create _ _,
      SocketsOpen.create _ _⟩
  have exactly :
      state.Unthrown ↔
        (TcpServer.create conn_key addresses).Unthrown ∧
          StepSystem.Along (TcpServer.step aead)
            (fun state event => state.resumesUnthrown event = true)
            (TcpServer.create conn_key addresses) events := by
    refine StepSystem.run_iff_along ?_ ?_ initially reached
    · rintro server event after ⟨orderly, placed, opened⟩ performed
      exact ⟨orderly.step performed, placed.step orderly performed,
        opened.step orderly placed performed⟩
    · rintro server event after ⟨orderly, placed, opened⟩ performed
      exact step_unthrown_iff opened orderly placed performed
  exact exactly.trans (and_iff_right nofun)

/-- A client sends the header of a frame and goes away. -/
def headerOnly : List TcpServerEvent :=
  [.incoming, .resumeAccept,
    .arriveTry 0 ((clientFrame 1).take ProtocolHeader.Size),
    .resumeTry 0,
    .failTry 0 .eof,
    .resumeTry 0]

theorem headerOnly_throws :
    (StepSystem.run (TcpServer.step Aead.checksumAead) exampleStart
        headerOnly).map TcpServer.fault =
      some (some .uncaughtException) := by
  decide +kernel

theorem unthrown_iff_headerOnly :
    ∃ state,
      StepSystem.run (TcpServer.step Aead.checksumAead) exampleStart
          headerOnly =
        some state ∧
      (state.fault ≠ some .uncaughtException ↔
        StepSystem.Along (TcpServer.step Aead.checksumAead)
          (fun state event => state.resumesUnthrown event = true)
          exampleStart headerOnly) := by
  have performed :
      (StepSystem.run (TcpServer.step Aead.checksumAead) exampleStart
        headerOnly).isSome := by
    decide +kernel
  obtain ⟨state, reached⟩ := Option.isSome_iff_exists.mp performed
  exact ⟨state, reached,
    unthrown_iff Aead.checksumAead [49] Server.exampleServer headerOnly
      state reached⟩

end

end TcpServer

end Dsvpn
