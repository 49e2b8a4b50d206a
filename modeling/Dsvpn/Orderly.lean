import Dsvpn.HandlerRules
import Dsvpn.StepSystem

namespace Dsvpn

open ProtocolHeader

/-!
# What holds in every reachable state of the server

Only sockets whose `tryReceive` has finished are current or waiting, and every
pending read is a read of a header or of what follows one.
-/

/-- A header read; without an error it completes only when it is full. -/
structure ReadOp.ReadsHeader (op : ReadOp) : Prop where
  offset : op.offset = 0
  want : op.want = Size
  full : op.outcome = some none → op.got = op.want

namespace ReadOp.ReadsHeader

theorem start : (ReadOp.start 0 Size).ReadsHeader where
  offset := rfl
  want := rfl
  full := nofun

theorem fail
    {op : ReadOp}
    (reads : op.ReadsHeader)
    (error : ErrorCode) :
    (op.fail error).ReadsHeader := by
  unfold ReadOp.fail
  split
  · exact
      { offset := reads.offset
        want := reads.want
        full := nofun }
  · exact reads

theorem receive
    {op : ReadOp}
    (reads : op.ReadsHeader)
    (piece : List UInt8) :
    (op.receive piece).ReadsHeader where
  offset := reads.offset
  want := reads.want
  full := by
    simp only [ReadOp.receive]
    intro completed
    split at completed
    · assumption
    · cases completed

end ReadOp.ReadsHeader

theorem ReadOp.fail_offset
    (op : ReadOp)
    (error : ErrorCode) :
    (op.fail error).offset = op.offset := by
  unfold ReadOp.fail
  split <;> rfl

theorem ReadOp.fail_got
    (op : ReadOp)
    (error : ErrorCode) :
    (op.fail error).got = op.got := by
  unfold ReadOp.fail
  split <;> rfl

theorem TryReceivePc.abort_eq_finished
    {pc : TryReceivePc} :
    pc.abort = .finished ↔ pc = .finished := by
  cases pc <;> simp [TryReceivePc.abort]

theorem TryReceivePc.abort_eq_notStarted
    {pc : TryReceivePc} :
    pc.abort = .notStarted ↔ pc = .notStarted := by
  cases pc <;> simp [TryReceivePc.abort]

/-- The receive loop's pending read, if any, is where it belongs. -/
structure ReceiveLoopPc.Orderly (pc : ReceiveLoopPc) : Prop where
  header :
    ∀ socket op, pc = .readHeader socket op → op.ReadsHeader
  payload :
    ∀ socket op, pc = .readPayload socket op → op.offset = Size

theorem ReceiveLoopPc.Orderly.abort
    {pc : ReceiveLoopPc}
    (orderly : pc.Orderly)
    (target : SocketId) :
    (pc.abort target).Orderly := by
  cases pc with
  | readHeader socket op =>
      have reads := orderly.header socket op rfl
      simp only [ReceiveLoopPc.abort]
      split
      · refine ⟨?_, nofun⟩
        rintro _ _ ⟨⟩
        exact reads.fail _
      · exact orderly
  | readPayload socket op =>
      have offset := orderly.payload socket op rfl
      simp only [ReceiveLoopPc.abort]
      split
      · refine ⟨nofun, ?_⟩
        rintro _ _ ⟨⟩
        exact (op.fail_offset _).trans offset
      · exact orderly
  | waitSelected woken => exact orderly
  | writeTun => exact orderly
  | ended => exact orderly

theorem ReceiveLoopPc.Orderly.wake
    {pc : ReceiveLoopPc}
    (orderly : pc.Orderly) :
    pc.wake.Orderly := by
  unfold ReceiveLoopPc.wake
  split
  · exact ⟨nofun, nofun⟩
  · exact orderly

namespace TcpServer

structure Orderly (server : TcpServer) : Prop where
  started :
    ∀ socket, server.tryReceive socket ≠ .notStarted →
      socket < server.accepted
  currentFinished :
    ∀ socket, server.connection.conn_socket = some socket →
      server.tryReceive socket = .finished
  waitingFinished :
    ∀ socket, server.connection.replace_socket = some socket →
      server.tryReceive socket = .finished
  triesHeader :
    ∀ socket op, server.tryReceive socket = .readHeader op →
      op.ReadsHeader
  reading : server.receiveLoop.Orderly

section

variable
    {aead : Aead 16}
    {self next : TcpServer}

theorem Orderly.create
    (conn_key : List UInt8)
    (addresses : Server) :
    (create conn_key addresses).Orderly where
  started := fun _ isStarted => (isStarted rfl).elim
  currentFinished := nofun
  waitingFinished := nofun
  triesHeader := nofun
  reading := ⟨nofun, nofun⟩

theorem abort_tryReceive
    (target socket : SocketId) :
    (self.abort target).tryReceive socket = self.tryReceive socket ∨
      (self.abort target).tryReceive socket =
        (self.tryReceive socket).abort := by
  by_cases same : socket = target
  · subst same
    exact Or.inr (Function.update_self _ _ _)
  · exact Or.inl (Function.update_of_ne same _ _)

theorem Orderly.abort
    (orderly : self.Orderly)
    (target : SocketId) :
    (self.abort target).Orderly where
  started := fun socket isStarted => by
    apply orderly.started
    intro notStarted
    apply isStarted
    rcases self.abort_tryReceive target socket with same | aborted
    · exact same.trans notStarted
    · exact aborted.trans
        (TryReceivePc.abort_eq_notStarted.mpr notStarted)
  currentFinished := fun socket current => by
    have finished := orderly.currentFinished socket current
    rcases self.abort_tryReceive target socket with same | aborted
    · exact same.trans finished
    · exact aborted.trans
        (TryReceivePc.abort_eq_finished.mpr finished)
  waitingFinished := fun socket waiting => by
    have finished := orderly.waitingFinished socket waiting
    rcases self.abort_tryReceive target socket with same | aborted
    · exact same.trans finished
    · exact aborted.trans
        (TryReceivePc.abort_eq_finished.mpr finished)
  triesHeader := fun socket op reading => by
    rcases self.abort_tryReceive target socket with same | aborted
    · exact orderly.triesHeader socket op (same.symm.trans reading)
    · have failed := aborted.symm.trans reading
      cases pc : self.tryReceive socket with
      | notStarted => simp [pc, TryReceivePc.abort] at failed
      | finished => simp [pc, TryReceivePc.abort] at failed
      | readPayload earlier => simp [pc, TryReceivePc.abort] at failed
      | readHeader earlier =>
          simp only [pc, TryReceivePc.abort,
            TryReceivePc.readHeader.injEq] at failed
          subst failed
          exact (orderly.triesHeader socket earlier pc).fail _
  reading := orderly.reading.abort target

theorem Orderly.closeSocket
    (orderly : self.Orderly)
    (target : SocketId) :
    (self.closeSocket target).Orderly :=
  { orderly.abort target with }

theorem Orderly.drop
    (orderly : self.Orderly)
    (target : Option SocketId) :
    (self.drop target).Orderly := by
  cases target with
  | none => exact orderly
  | some target => exact { orderly.abort target with }

/-- A read that `startRead` starts is one from its offset on. -/
theorem startRead_readsHeader (socket : SocketId) :
    (self.startRead socket 0 Size).ReadsHeader := by
  unfold startRead
  split
  · exact ReadOp.ReadsHeader.start
  · exact ReadOp.ReadsHeader.start.fail _

theorem startRead_offset
    (socket : SocketId)
    (offset want : Nat) :
    (self.startRead socket offset want).offset = offset := by
  unfold startRead
  split <;> rfl

theorem Orderly.receiveFrom
    (orderly : self.Orderly) :
    self.receiveFrom.Orderly := by
  apply receiveFrom_rule
  case null =>
    intro _ _
    exact { orderly with }
  case reads =>
    intro socket _ _
    refine { orderly with reading := ⟨?_, nofun⟩ }
    rintro _ _ ⟨⟩
    exact startRead_readsHeader _
  case sleeps =>
    intro _
    exact { orderly with reading := ⟨nofun, nofun⟩ }

theorem Orderly.endReceiveLoop
    (orderly : self.Orderly) :
    self.endReceiveLoop.Orderly :=
  { orderly with reading := ⟨nofun, nofun⟩ }

theorem Orderly.returnFrom
    (orderly : self.Orderly)
    (bytes_read : Int)
    (error : Option ErrorCode) :
    (self.returnFrom bytes_read error).Orderly := by
  have returned (action : Action) : (self.record action).Orderly :=
    { orderly with }
  refine returnFrom_rule (returned _) (fun held => held.endReceiveLoop)
    (fun held => held.receiveFrom) ?_
  intro state packet held
  exact { held with reading := ⟨nofun, nofun⟩ }

theorem Orderly.loseConnection
    (orderly : self.Orderly) :
    self.loseConnection.Orderly := by
  apply loseConnection_rule
  case null =>
    intro _
    exact { orderly with }
  case alone =>
    intro socket _ _
    apply Orderly.receiveFrom
    exact { orderly.closeSocket socket with currentFinished := nofun }
  case replaced =>
    intro socket replacement _ waiting
    apply Orderly.receiveFrom
    refine
      { orderly.closeSocket socket with
        currentFinished := ?_
        waitingFinished := nofun }
    rintro _ ⟨⟩
    exact (orderly.closeSocket socket).waitingFinished _ waiting

theorem Orderly.resumeHeader
    (orderly : self.Orderly)
    (socket : SocketId)
    (bytes_read : Nat)
    (error : Option ErrorCode) :
    (self.resumeHeader aead socket bytes_read error).Orderly := by
  cases error with
  | some error =>
      have failed : (self.record (.readFailed socket)).Orderly :=
        { orderly with }
      exact resumeHeader_failed (fun _ => failed.returnFrom _ _)
        (fun _ => failed.loseConnection) bytes_read
  | none =>
      have opened (header : PacketBuffer) :
          (self.setBuffer header).Orderly :=
        { orderly with }
      apply resumeHeader_complete
      case nothing =>
        intro _
        exact orderly.receiveFrom
      case empty =>
        intro header _
        exact (opened header).receiveFrom
      case null =>
        intro header _ _
        exact { opened header with }
      case announced =>
        intro header current payload_len _ _
        refine { opened header with reading := ⟨nofun, ?_⟩ }
        rintro _ _ ⟨⟩
        exact startRead_offset _ _ _

theorem Orderly.resumePayload
    (orderly : self.Orderly)
    (socket : SocketId)
    (bytes_read : Nat)
    (error : Option ErrorCode) :
    (self.resumePayload aead socket bytes_read error).Orderly := by
  refine resumePayload_rule { orderly with } orderly
    (fun held => { held with }) ?opened (fun held => held.receiveFrom)
    (fun _ held => held.returnFrom _ _) bytes_read
  case opened =>
    intro state protocol header held
    exact { held with }

/-- A `tryReceive` that has not finished changes its state. -/
theorem Orderly.setTryReceive
    (orderly : self.Orderly)
    {socket : SocketId}
    (active : self.tryReceive socket ≠ .finished)
    (isStarted : self.tryReceive socket ≠ .notStarted)
    (pc : TryReceivePc)
    (header : ∀ op, pc = .readHeader op → op.ReadsHeader) :
    (setTryReceive socket pc self).Orderly where
  started := fun other otherStarted => by
    by_cases same : other = socket
    · subst same
      exact orderly.started _ isStarted
    · refine orderly.started other ?_
      simpa [TcpServer.setTryReceive, same] using otherStarted
  currentFinished := fun other current => by
    have finished := orderly.currentFinished other current
    have different : other ≠ socket := by
      rintro rfl
      exact active finished
    simpa [TcpServer.setTryReceive, different] using finished
  waitingFinished := fun other waiting => by
    have finished := orderly.waitingFinished other waiting
    have different : other ≠ socket := by
      rintro rfl
      exact active finished
    simpa [TcpServer.setTryReceive, different] using finished
  triesHeader := fun other op reading => by
    by_cases same : other = socket
    · subst same
      refine header op ?_
      simpa [TcpServer.setTryReceive] using reading
    · refine orderly.triesHeader other op ?_
      simpa [TcpServer.setTryReceive, same] using reading
  reading := orderly.reading

theorem Orderly.resumeAccept
    (orderly : self.Orderly) :
    self.resumeAccept.Orderly where
  started := fun socket isStarted => by
    by_cases same : socket = self.accepted
    · rw [same]
      exact Nat.lt_succ_self _
    · have before : self.tryReceive socket ≠ .notStarted := by
        simpa [TcpServer.resumeAccept, same] using isStarted
      exact Nat.lt_succ_of_lt (orderly.started socket before)
  currentFinished := fun socket current => by
    have finished := orderly.currentFinished socket current
    have bound := orderly.started socket (by simp [finished])
    have different : socket ≠ self.accepted := Nat.ne_of_lt bound
    simpa [TcpServer.resumeAccept, different] using finished
  waitingFinished := fun socket waiting => by
    have finished := orderly.waitingFinished socket waiting
    have bound := orderly.started socket (by simp [finished])
    have different : socket ≠ self.accepted := Nat.ne_of_lt bound
    simpa [TcpServer.resumeAccept, different] using finished
  triesHeader := fun socket op reading => by
    by_cases same : socket = self.accepted
    · subst same
      simp only [TcpServer.resumeAccept, Function.update_self,
        TryReceivePc.readHeader.injEq] at reading
      subst reading
      exact ReadOp.ReadsHeader.start
    · refine orderly.triesHeader socket op ?_
      simpa [TcpServer.resumeAccept, same] using reading
  reading := orderly.reading

theorem Orderly.giveUp
    (orderly : self.Orderly)
    {socket : SocketId}
    (active : self.tryReceive socket ≠ .finished)
    (isStarted : self.tryReceive socket ≠ .notStarted) :
    (self.giveUp socket).Orderly :=
  { orderly.setTryReceive active isStarted .finished nofun with }

theorem Orderly.choose
    (orderly : self.Orderly)
    {socket : SocketId}
    (active : self.tryReceive socket ≠ .finished)
    (isStarted : self.tryReceive socket ≠ .notStarted)
    (authenticated : Bool) :
    (self.choose socket authenticated).Orderly := by
  have finished :=
    orderly.setTryReceive active isStarted .finished nofun
  have isFinished :
      Function.update self.tryReceive socket .finished socket =
        .finished :=
    Function.update_self _ _ _
  have queued :
      (self.queueReplacement socket authenticated).Orderly := by
    apply Orderly.drop
    refine { finished with waitingFinished := ?_ }
    rintro _ ⟨⟩
    exact isFinished
  apply choose_rule
  case first =>
    intro _
    apply Orderly.drop
    refine
      { finished with
        currentFinished := ?_
        reading := ?_ }
    · rintro _ ⟨⟩
      exact isFinished
    · exact orderly.reading.wake
  case null =>
    intro _ _
    exact { queued with }
  case cancelled =>
    intro current _ _ _
    exact { queued.abort _ with }
  case thrown =>
    intro current _ _ _
    exact { queued with }

theorem Orderly.resumeTryHeader
    (orderly : self.Orderly)
    {socket : SocketId}
    (active : self.tryReceive socket ≠ .finished)
    (isStarted : self.tryReceive socket ≠ .notStarted)
    (bytes_read : Nat) :
    (self.resumeTryHeader aead socket bytes_read).Orderly := by
  have givenUp := orderly.giveUp active isStarted
  apply resumeTryHeader_rule
  case nothing => exact givenUp
  case empty =>
    intro header
    exact { givenUp with }
  case announced =>
    intro header payload_len
    exact
      { orderly.setTryReceive active isStarted (.readPayload _)
          nofun with }

theorem Orderly.resumeTryPayload
    (orderly : self.Orderly)
    {socket : SocketId}
    (active : self.tryReceive socket ≠ .finished)
    (isStarted : self.tryReceive socket ≠ .notStarted)
    (bytes_read : Nat)
    (error : Option ErrorCode) :
    (self.resumeTryPayload aead socket bytes_read error).Orderly := by
  apply resumeTryPayload_rule
  case thrown => exact { orderly with }
  case nothing =>
    intro _ _
    exact orderly.giveUp active isStarted
  case outside =>
    intro _
    exact { orderly with }
  case chosen =>
    intro protocol header accepted _ _ _ _ _
    apply Orderly.choose
    · exact { orderly with }
    · exact active
    · exact isStarted
  case unreached =>
    intro protocol header accepted _ _ _
    exact { orderly with }

theorem Orderly.sendTo
    (orderly : self.Orderly)
    (packet : List UInt8)
    (draw : SendDraw) :
    (self.sendTo aead packet draw).Orderly := by
  obtain ⟨_, _, _, changed, _⟩ := sendTo_changes aead self packet draw
  rw [changed]
  exact { orderly with }

theorem Orderly.resumeSendTo
    (orderly : self.Orderly)
    (socket : SocketId)
    (error : Option ErrorCode) :
    (self.resumeSendTo socket error).Orderly := by
  apply resumeSendTo_rule
  case returned => exact { orderly with }
  case stopped =>
    intro _ _
    exact { orderly with }
  case null =>
    intro _ _ _
    exact { orderly with }
  case deselected =>
    intro current _ _ _
    exact { orderly.abort current with }

theorem Orderly.close
    (orderly : self.Orderly) :
    self.close.Orderly := by
  apply close_rule
  case refused => exact { orderly with }
  case null =>
    intro _ _
    exact { orderly with }
  case closed =>
    intro socket _ _
    exact
      { orderly.closeSocket socket with
        currentFinished := nofun }

/-- Every step keeps the server orderly. -/
theorem Orderly.step
    {event : TcpServerEvent}
    (orderly : self.Orderly)
    (performed : TcpServer.step aead self event = some next) :
    next.Orderly := by
  obtain ⟨_, transition⟩ := step_transition performed
  cases transition with
  | incoming _ => exact { orderly with }
  | resumeAccept _ => exact orderly.resumeAccept
  | disconnect _ => exact { orderly with }
  | @arriveTryHeader socket op piece reading _ _ =>
      apply Orderly.setTryReceive
      · exact { orderly with }
      · simp [setBuffer, reading]
      · simp [setBuffer, reading]
      · rintro _ ⟨⟩
        exact (orderly.triesHeader socket op reading).receive _
  | arriveTryPayload reading _ _ =>
      apply Orderly.setTryReceive
      · exact { orderly with }
      · simp [setBuffer, reading]
      · simp [setBuffer, reading]
      · nofun
  | arriveTryOutside _ _ _ => exact { orderly with }
  | @failTryHeader socket op _ reading =>
      apply Orderly.setTryReceive
      · exact orderly
      · simp [reading]
      · simp [reading]
      · rintro _ ⟨⟩
        exact (orderly.triesHeader socket op reading).fail _
  | failTryPayload _ reading =>
      apply Orderly.setTryReceive
      · exact orderly
      · simp [reading]
      · simp [reading]
      · nofun
  | resumeTryHeader reading _ =>
      exact orderly.resumeTryHeader (by simp [reading])
        (by simp [reading]) _
  | resumeTryPayload reading _ =>
      exact orderly.resumeTryPayload (by simp [reading])
        (by simp [reading]) _ _
  | wake _ => exact orderly.receiveFrom
  | @arriveHeader socket op piece reading _ _ =>
      refine { orderly with reading := ⟨?_, nofun⟩ }
      rintro _ _ ⟨⟩
      exact (orderly.reading.header socket op reading).receive _
  | @arrivePayload socket op piece reading _ _ =>
      refine { orderly with reading := ⟨nofun, ?_⟩ }
      rintro _ _ ⟨⟩
      exact orderly.reading.payload socket op reading
  | arriveOutside _ _ _ => exact { orderly with }
  | @failHeader socket op _ reading =>
      refine { orderly with reading := ⟨?_, nofun⟩ }
      rintro _ _ ⟨⟩
      exact (orderly.reading.header socket op reading).fail _
  | @failPayload socket op error reading =>
      refine { orderly with reading := ⟨nofun, ?_⟩ }
      rintro _ _ ⟨⟩
      exact (op.fail_offset error).trans
        (orderly.reading.payload socket op reading)
  | resumeHeader _ _ => exact orderly.resumeHeader _ _ _
  | resumePayload _ _ => exact orderly.resumePayload _ _ _
  | tunWritten failed _ =>
      cases failed with
      | false => exact orderly.receiveFrom
      | true => exact orderly.endReceiveLoop
  | sendTo packet draw _ => exact orderly.sendTo packet draw
  | writeSome _ _ _ => exact { orderly with }
  | writeError _ _ => exact { orderly with }
  | resumeSendTo _ => exact orderly.resumeSendTo _ _
  | close => exact orderly.close

/-- Every reachable state of the server is orderly. -/
theorem orderly_of_run
    {conn_key : List UInt8}
    {addresses : Server}
    {events : List TcpServerEvent}
    (reached :
      StepSystem.run (TcpServer.step aead)
          (TcpServer.create conn_key addresses) events =
        some next) :
    next.Orderly :=
  StepSystem.run_invariant
    (fun orderly performed => orderly.step performed)
    (Orderly.create conn_key addresses) reached

end

end TcpServer

end Dsvpn
