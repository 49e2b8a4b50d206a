import Dsvpn.Selection

namespace Dsvpn

/-!
# Torn frames

A write that fails leaves a part of a frame on its socket.  Such a socket is
retired: it may stay current for a while, but it is never selected again, so
nothing is written after the part.
-/

namespace TcpServer

/-- The writer's socket and the current one differ from the waiting one. -/
structure WriterPlaced (server : TcpServer) : Prop where
  currentNotWaiting :
    ∀ socket, server.connection.conn_socket = some socket →
      server.connection.replace_socket ≠ some socket
  writerFinished :
    ∀ socket frame sent outcome,
      server.sendLoop = .writing socket frame sent outcome →
      server.tryReceive socket = .finished
  writerNotWaiting :
    ∀ socket frame sent outcome,
      server.sendLoop = .writing socket frame sent outcome →
      server.connection.replace_socket ≠ some socket

/--
Nothing will be written to the socket again.  It can be current and selected
only until `SendTo` handles its failed write.
-/
structure Retired (server : TcpServer) (socket : SocketId) : Prop where
  finished : server.tryReceive socket = .finished
  notWaiting : server.connection.replace_socket ≠ some socket
  notWriting :
    ∀ frame sent, server.sendLoop ≠ .writing socket frame sent none
  notCurrent :
    server.connection.conn_socket = some socket →
      server.connection.selected = true →
      ∃ frame sent error,
        server.sendLoop =
          .writing socket frame sent (some (some error))

/--
What was written to the socket is complete frames and then a part of at most
one more frame.  Either that frame is being written, and goes on where it is,
or nothing is written to the socket whatever happens next.
-/
def TornFrameLast
    (aead : Aead 16)
    (key : List UInt8)
    (server : TcpServer)
    (socket : SocketId) : Prop :=
  ∃ (frames : List (List UInt8)) (torn : List UInt8),
    (server.socket socket).written = frames.flatten ++ torn ∧
      (∀ frame ∈ frames, SealedFrame aead key frame) ∧
      (torn = [] ∨
        ∃ rest, rest ≠ [] ∧ SealedFrame aead key (torn ++ rest) ∧
          (server.sendLoop =
              .writing socket (torn ++ rest) torn.length none ∨
            ∀ later final,
              StepSystem.run (TcpServer.step aead) server later =
                some final →
              (final.socket socket).written =
                (server.socket socket).written))

/--
The bytes written to the socket are the complete `frames` and then `torn`, a
part of one more frame unless it is empty.
-/
structure WrittenFrames
    (aead : Aead 16)
    (server : TcpServer)
    (socket : SocketId)
    (frames : List (List UInt8))
    (torn : List UInt8) : Prop where
  complete : ∀ frame ∈ frames, SealedFrame aead server.key frame
  written : (server.socket socket).written = frames.flatten ++ torn
  part :
    torn = [] ∨
      ∃ rest, rest ≠ [] ∧ SealedFrame aead server.key (torn ++ rest)
  writing :
    ∀ frame sent outcome,
      server.sendLoop = .writing socket frame sent outcome →
      outcome ≠ some none →
      SealedFrame aead server.key frame ∧
        sent < frame.length ∧
        torn = frame.take sent
  ended :
    torn ≠ [] →
      server.Retired socket ∨
        ∃ frame sent, server.sendLoop = .writing socket frame sent none

section

variable
    {aead : Aead 16}
    {self next : TcpServer}

theorem WriterPlaced.create
    (conn_key : List UInt8)
    (addresses : Server) :
    (create conn_key addresses).WriterPlaced where
  currentNotWaiting := nofun
  writerFinished := nofun
  writerNotWaiting := nofun

/-- The waiting socket stays the same, or is a socket that was just tried. -/
theorem SelectionStep.notWaiting
    {event : TcpServerEvent}
    (step : SelectionStep self event next)
    {socket : SocketId}
    (finished : self.tryReceive socket = .finished)
    (notWaiting : self.connection.replace_socket ≠ some socket) :
    next.connection.replace_socket ≠ some socket := by
  change next.selection.replace_socket ≠ some socket
  change self.selection.replace_socket ≠ some socket at notWaiting
  cases step with
  | unchanged same => simpa only [same] using notWaiting
  | first _ _ _ _ _ same => simpa only [same] using notWaiting
  | replacing other _ active _ _ same =>
      rw [same]
      rintro ⟨⟩
      exact active finished
  | lost _ _ same => simpa only [same] using notWaiting
  | swapped _ _ _ same => simp [same]
  | deselected _ _ _ same => simpa only [same] using notWaiting
  | refused _ same => simpa only [same] using notWaiting
  | closed _ _ same => simpa only [same] using notWaiting

/-- The current and the waiting socket stay apart. -/
theorem SelectionStep.currentNotWaiting
    {event : TcpServerEvent}
    (step : SelectionStep self event next)
    (orderly : self.Orderly)
    (placed : self.WriterPlaced)
    {socket : SocketId}
    (current : next.connection.conn_socket = some socket) :
    next.connection.replace_socket ≠ some socket := by
  change next.selection.conn_socket = some socket at current
  have apart := placed.currentNotWaiting socket
  have stillCurrent
      (isCurrent : self.connection.conn_socket = some socket) :=
    step.notWaiting (orderly.currentFinished socket isCurrent)
      (apart isCurrent)
  cases step with
  | unchanged same => exact stillCurrent (by rwa [same] at current)
  | first other _ active _ _ same =>
      rw [same] at current
      obtain rfl := Option.some.inj current
      change next.selection.replace_socket ≠ _
      rw [same]
      intro waiting
      exact active (orderly.waitingFinished _ waiting)
  | replacing _ _ _ _ _ same =>
      exact stillCurrent (by rwa [same] at current)
  | lost _ _ same => simp [same] at current
  | swapped _ _ _ same =>
      change next.selection.replace_socket ≠ _
      simp [same]
  | deselected _ _ _ same =>
      exact stillCurrent (by rwa [same] at current)
  | refused _ same => exact stillCurrent (by rwa [same] at current)
  | closed _ _ same => simp [same] at current

/-- Whoever is written to after a step was current or written to before. -/
theorem SendStep.writing_cases
    (step : SendStep aead self next)
    {socket : SocketId}
    {frame : List UInt8}
    {sent : Nat}
    {outcome : Option (Option ErrorCode)}
    (writing : next.sendLoop = .writing socket frame sent outcome) :
    (∃ earlier before,
        self.sendLoop = .writing socket frame earlier before) ∨
      self.connection.conn_socket = some socket := by
  cases step with
  | left leaves =>
      rcases leaves.sendLoop with same | ⟨_, _, _, _, before, after⟩
      · exact Or.inl ⟨_, _, same.symm.trans writing⟩
      · rw [after] at writing
        obtain ⟨rfl, rfl, rfl, _⟩ :=
          SendLoopPc.writing.inj writing
        exact Or.inl ⟨_, _, before⟩
  | accepted same _ => exact Or.inl ⟨_, _, same.symm.trans writing⟩
  | started _ _ _ _ _ current _ _ after _ =>
      rw [after] at writing
      obtain ⟨rfl, _⟩ := SendLoopPc.writing.inj writing
      exact Or.inr current
  | wrote _ _ _ _ before _ _ same =>
      rw [same] at writing
      obtain ⟨rfl, rfl, _⟩ := SendLoopPc.writing.inj writing
      exact Or.inl ⟨_, _, before⟩
  | completed _ _ _ _ after _ => simp [after] at writing
  | failed _ _ _ _ _ after _ _ => simp [after] at writing

theorem WriterPlaced.step
    {event : TcpServerEvent}
    (placed : self.WriterPlaced)
    (orderly : self.Orderly)
    (performed : TcpServer.step aead self event = some next) :
    next.WriterPlaced := by
  have selects := step_selection performed
  have keeps := step_keepsFinished orderly performed
  have writer :
      ∀ socket frame sent outcome,
        next.sendLoop = .writing socket frame sent outcome →
        self.tryReceive socket = .finished ∧
          self.connection.replace_socket ≠ some socket := by
    intro socket frame sent outcome writing
    rcases (step_sendLoop performed).writing_cases writing with
        ⟨_, _, before⟩ | current
    · exact ⟨placed.writerFinished _ _ _ _ before,
        placed.writerNotWaiting _ _ _ _ before⟩
    · exact ⟨orderly.currentFinished _ current,
        placed.currentNotWaiting _ current⟩
  exact
    { currentNotWaiting := fun socket current =>
        selects.currentNotWaiting orderly placed current
      writerFinished := fun socket frame sent outcome writing =>
        keeps.finished socket (writer _ _ _ _ writing).1
      writerNotWaiting := fun socket frame sent outcome writing =>
        selects.notWaiting (writer _ _ _ _ writing).1
          (writer _ _ _ _ writing).2 }

/-- A socket that is selected after a step was so before, or is a new one. -/
theorem SelectionStep.selectedSocket
    {event : TcpServerEvent}
    (step : SelectionStep self event next)
    {socket : SocketId}
    (finished : self.tryReceive socket = .finished)
    (notWaiting : self.connection.replace_socket ≠ some socket)
    (current : next.connection.conn_socket = some socket)
    (selected : next.connection.selected = true) :
    self.connection.conn_socket = some socket ∧
      self.connection.selected = true := by
  change next.selection.conn_socket = some socket at current
  change next.selection.selected = true at selected
  change self.selection.replace_socket ≠ some socket at notWaiting
  change
    self.selection.conn_socket = some socket ∧
      self.selection.selected = true
  cases step with
  | unchanged same => exact ⟨same ▸ current, same ▸ selected⟩
  | first _ _ active _ _ same =>
      rw [same] at current
      obtain rfl := Option.some.inj current
      exact (active finished).elim
  | replacing _ _ _ _ _ same =>
      rw [same] at current selected
      exact ⟨current, selected⟩
  | lost _ _ same => simp [same] at current
  | swapped _ _ waiting same =>
      rw [same] at current
      obtain rfl := Option.some.inj current
      exact (notWaiting waiting).elim
  | deselected _ _ _ same => simp [same] at selected
  | refused _ same =>
      rw [same] at current selected
      exact ⟨current, selected⟩
  | closed _ _ same => simp [same] at current

/--
A retired socket stays retired, and nothing is written to it.
-/
theorem Retired.step
    {event : TcpServerEvent}
    {socket : SocketId}
    (retired : self.Retired socket)
    (orderly : self.Orderly)
    (flags : self.FlagsGuard)
    (performed : TcpServer.step aead self event = some next) :
    next.Retired socket ∧
      (next.socket socket).written = (self.socket socket).written := by
  have selects := step_selection performed
  have finished :=
    (step_keepsFinished orderly performed).finished socket
      retired.finished
  have notWaiting :=
    selects.notWaiting retired.finished retired.notWaiting
  have pending
      (current : next.connection.conn_socket = some socket)
      (selected : next.connection.selected = true) :=
    have before :=
      selects.selectedSocket retired.finished retired.notWaiting
        current selected
    retired.notCurrent before.1 before.2
  cases step_sendLoop performed with
  | left leaves =>
      refine ⟨⟨finished, notWaiting, ?_, ?_⟩, leaves.written socket⟩
      · intro frame sent writing
        rcases leaves.sendLoop with same | ⟨_, _, _, _, _, after⟩
        · exact retired.notWriting frame sent (same ▸ writing)
        · simp [after] at writing
      · intro current selected
        obtain ⟨frame, sent, error, failing⟩ := pending current selected
        rcases leaves.sendLoop with same | ⟨_, _, _, _, before, _⟩
        · exact ⟨frame, sent, error, same.trans failing⟩
        · simp [before] at failing
  | accepted same sockets =>
      have bound := orderly.started socket (by simp [retired.finished])
      refine ⟨⟨finished, notWaiting, ?_, ?_⟩, ?_⟩
      · rw [same]
        exact retired.notWriting
      · rw [same]
        exact pending
      · rw [sockets, Function.update_of_ne (Nat.ne_of_lt bound)]
  | started target frame outcome reading selected current _ _ after
      sockets =>
      have different : target ≠ socket := by
        rintro rfl
        obtain ⟨_, _, _, failing⟩ := retired.notCurrent current selected
        simp [reading] at failing
      refine ⟨⟨finished, notWaiting, ?_, ?_⟩, by rw [sockets]⟩
      · intro _ _ writing
        rw [after] at writing
        exact different (SendLoopPc.writing.inj writing).1
      · intro isCurrent isSelected
        obtain ⟨_, _, _, failing⟩ := pending isCurrent isSelected
        simp [reading] at failing
  | wrote target frame sent length writing _ _ same =>
      have different : socket ≠ target := by
        rintro rfl
        exact retired.notWriting frame sent writing
      refine ⟨⟨finished, notWaiting, ?_, ?_⟩, ?_⟩
      · intro _ _ after
        rw [same] at after
        exact different (SendLoopPc.writing.inj after).1.symm
      · intro isCurrent isSelected
        obtain ⟨_, _, _, failing⟩ := pending isCurrent isSelected
        simp [writing] at failing
      · simp [same, TcpServer.writeSome, different]
  | completed _ _ _ writing after sockets =>
      refine ⟨⟨finished, notWaiting, ?_, ?_⟩, by rw [sockets]⟩
      · simp [after]
      · intro isCurrent isSelected
        obtain ⟨_, _, _, failing⟩ := pending isCurrent isSelected
        simp [writing] at failing
  | failed _ _ _ _ writing after sockets handled =>
      refine ⟨⟨finished, notWaiting, ?_, ?_⟩, by rw [sockets]⟩
      · simp [after]
      · intro isCurrent isSelected
        have before :=
          selects.selectedSocket retired.finished retired.notWaiting
            isCurrent isSelected
        rcases handled with stopped | null | unselected
        · have closed := flags.stoppedClosed stopped
          simp [closed.1] at before
        · simp [null] at isCurrent
        · simp [unselected] at isSelected

/-- Whatever happens later, nothing more is written to a retired socket. -/
theorem Retired.written_run
    {events : List TcpServerEvent}
    {socket : SocketId}
    (retired : self.Retired socket)
    (orderly : self.Orderly)
    (guard : self.PointerGuard)
    (reached :
      StepSystem.run (TcpServer.step aead) self events = some next) :
    (next.socket socket).written = (self.socket socket).written := by
  let Invariant (server : TcpServer) : Prop :=
    server.Orderly ∧ server.PointerGuard ∧ server.Retired socket ∧
      (server.socket socket).written = (self.socket socket).written
  have invariant : Invariant next := by
    refine StepSystem.run_invariant ?_
      (⟨orderly, guard, retired, rfl⟩ : Invariant self) reached
    rintro server event after ⟨orderly, guard, retired, same⟩ performed
    obtain ⟨still, untouched⟩ :=
      retired.step orderly guard.toFlagsGuard performed
    exact ⟨orderly.step performed, guard.step performed, still,
      untouched.trans same⟩
  exact invariant.2.2.2

/-! ## The bytes on a socket -/

section

variable
    {socket : SocketId}
    {frames : List (List UInt8)}
    {torn : List UInt8}

/-- Nothing was written, and what was torn stays so. -/
theorem WrittenFrames.kept
    (held : WrittenFrames aead self socket frames torn)
    (key : next.key = self.key)
    (written :
      (next.socket socket).written = (self.socket socket).written)
    (writing :
      ∀ frame sent outcome,
        next.sendLoop = .writing socket frame sent outcome →
        outcome ≠ some none →
        ∃ before, before ≠ some none ∧
          self.sendLoop = .writing socket frame sent before)
    (ended :
      torn ≠ [] →
        next.Retired socket ∨
          ∃ frame sent,
            next.sendLoop = .writing socket frame sent none) :
    WrittenFrames aead next socket frames torn where
  complete := key ▸ held.complete
  written := written.trans held.written
  part := key ▸ held.part
  writing := fun frame sent outcome after unfinished => by
    obtain ⟨before, earlier, isWriting⟩ :=
      writing frame sent outcome after unfinished
    rw [key]
    exact held.writing frame sent before isWriting earlier
  ended := ended

/-- A torn socket that is not written to is retired. -/
theorem WrittenFrames.retired
    (held : WrittenFrames aead self socket frames torn)
    (isTorn : torn ≠ [])
    (notWriting :
      ∀ frame sent, self.sendLoop ≠ .writing socket frame sent none) :
    self.Retired socket := by
  rcases held.ended isTorn with retired | ⟨frame, sent, writing⟩
  · exact retired
  · exact (notWriting frame sent writing).elim

theorem WrittenFrames.left
    (held : WrittenFrames aead self socket frames torn)
    (placed : next.WriterPlaced)
    (key : next.key = self.key)
    (retires : self.Retired socket → next.Retired socket)
    (leaves : LeavesWrites self next) :
    WrittenFrames aead next socket frames torn := by
  apply held.kept key (leaves.written socket)
  · intro frame sent outcome after unfinished
    rcases leaves.sendLoop with same | ⟨_, _, _, _, before, interrupted⟩
    · exact ⟨outcome, unfinished, same.symm.trans after⟩
    · rw [interrupted] at after
      obtain ⟨rfl, rfl, rfl, _⟩ := SendLoopPc.writing.inj after
      exact ⟨none, nofun, before⟩
  · intro isTorn
    rcases held.ended isTorn with retired | ⟨frame, sent, writing⟩
    · exact Or.inl (retires retired)
    · rcases leaves.sendLoop with same | ⟨_, _, _, _, before, after⟩
      · exact Or.inr ⟨frame, sent, same.trans writing⟩
      · rw [before] at writing
        obtain ⟨rfl, rfl, rfl, _⟩ := SendLoopPc.writing.inj writing
        refine Or.inl
          { finished := placed.writerFinished _ _ _ _ after
            notWaiting := placed.writerNotWaiting _ _ _ _ after
            notWriting := by simp [after]
            notCurrent := fun _ _ => ⟨_, _, _, after⟩ }

/-- The part on the socket is the part of the frame that is being sent. -/
theorem WrittenFrames.wrote
    (held : WrittenFrames aead self socket frames torn)
    {frame : List UInt8}
    {sent length : Nat}
    (writing : self.sendLoop = .writing socket frame sent none)
    (room : sent + length ≤ frame.length) :
    ∃ frames torn,
      WrittenFrames aead (self.writeSome socket frame sent length)
        socket frames torn := by
  obtain ⟨isFrame, _, rfl⟩ := held.writing frame sent none writing nofun
  have sofar :
      ((self.writeSome socket frame sent length).socket
          socket).written =
        frames.flatten ++ frame.take (sent + length) := by
    simp [TcpServer.writeSome, held.written, List.take_add]
  by_cases full : sent + length = frame.length
  · refine ⟨frames ++ [frame], [], ?_⟩
    exact
      { complete := by
          intro other member
          rcases List.mem_append.mp member with earlier | last
          · exact held.complete other earlier
          · obtain rfl := List.mem_singleton.mp last
            exact isFrame
        written := by
          rw [sofar, full, List.take_length]
          simp
        part := Or.inl rfl
        writing := by
          intro _ _ outcome after unfinished
          obtain ⟨_, _, _, rfl⟩ := SendLoopPc.writing.inj after
          simp [full] at unfinished
        ended := fun isTorn => (isTorn rfl).elim }
  · have short : sent + length < frame.length :=
      Nat.lt_of_le_of_ne room full
    refine ⟨frames, frame.take (sent + length), ?_⟩
    exact
      { complete := held.complete
        written := sofar
        part := Or.inr
          ⟨frame.drop (sent + length), by simp [short],
            by rw [List.take_append_drop]; exact isFrame⟩
        writing := by
          intro _ _ outcome after _
          obtain ⟨_, rfl, rfl, _⟩ := SendLoopPc.writing.inj after
          exact ⟨isFrame, short, rfl⟩
        ended := fun _ =>
          Or.inr ⟨frame, sent + length,
            by simp [TcpServer.writeSome, full]⟩ }

end

/-- Each step keeps complete frames and at most one torn one on a socket. -/
theorem WrittenFrames.step
    {event : TcpServerEvent}
    {socket : SocketId}
    {frames : List (List UInt8)}
    {torn : List UInt8}
    (held : WrittenFrames aead self socket frames torn)
    (orderly : self.Orderly)
    (flags : self.FlagsGuard)
    (placed : self.WriterPlaced)
    (performed : TcpServer.step aead self event = some next) :
    ∃ frames torn, WrittenFrames aead next socket frames torn := by
  have key := step_key performed
  have retires (retired : self.Retired socket) :=
    (retired.step orderly flags performed).1
  cases step_sendLoop performed with
  | left leaves =>
      exact ⟨frames, torn,
        held.left (placed.step orderly performed) key retires leaves⟩
  | accepted same sockets =>
      by_cases isNew : socket = self.accepted
      · refine ⟨[], [], ?_⟩
        exact
          { complete := nofun
            written := by simp [sockets, isNew]
            part := Or.inl rfl
            writing := by
              intro frame sent outcome writing _
              have finished :=
                placed.writerFinished _ _ _ _ (same.symm.trans writing)
              have bound :=
                orderly.started socket (by simp [finished])
              exact (Nat.ne_of_lt bound isNew).elim
            ended := fun isTorn => (isTorn rfl).elim }
      · refine ⟨frames, torn, held.kept key ?_ ?_ ?_⟩
        · rw [sockets, Function.update_of_ne isNew]
        · intro frame sent outcome writing unfinished
          exact ⟨outcome, unfinished, same.symm.trans writing⟩
        · intro isTorn
          rcases held.ended isTorn with retired | writing
          · exact Or.inl (retires retired)
          · rw [same]
            exact Or.inr writing
  | started target frame outcome reading selected current isFrame _
      after sockets =>
      have notTorn (isTorn : torn ≠ []) : self.Retired socket :=
        held.retired isTorn (by simp [reading])
      by_cases isTarget : socket = target
      · subst isTarget
        have whole : torn = [] := by
          by_contra isTorn
          obtain ⟨_, _, _, failing⟩ :=
            (notTorn isTorn).notCurrent current selected
          simp [reading] at failing
        subst whole
        refine ⟨frames, [], ?_⟩
        exact
          { complete := key ▸ held.complete
            written := by rw [sockets, held.written]
            part := Or.inl rfl
            writing := by
              intro _ _ _ writing _
              rw [after] at writing
              obtain ⟨_, rfl, rfl, _⟩ := SendLoopPc.writing.inj writing
              exact ⟨key ▸ isFrame, isFrame.length_pos, rfl⟩
            ended := fun isTorn => (isTorn rfl).elim }
      · refine ⟨frames, torn, held.kept key (by rw [sockets]) ?_ ?_⟩
        · intro _ _ _ writing _
          rw [after] at writing
          exact (isTarget (SendLoopPc.writing.inj writing).1.symm).elim
        · exact fun isTorn => Or.inl (retires (notTorn isTorn))
  | wrote target frame sent length writing _ room same =>
      by_cases isTarget : socket = target
      · subst isTarget
        rw [same]
        exact held.wrote writing room
      · refine ⟨frames, torn, held.kept key ?_ ?_ ?_⟩
        · simp [same, TcpServer.writeSome, isTarget]
        · intro _ _ _ after _
          rw [same] at after
          exact (isTarget (SendLoopPc.writing.inj after).1.symm).elim
        · intro isTorn
          refine Or.inl (retires (held.retired isTorn ?_))
          intro _ _ isWriting
          rw [writing] at isWriting
          exact isTarget (SendLoopPc.writing.inj isWriting).1.symm
  | completed target frame sent writing after sockets =>
      refine ⟨frames, torn, held.kept key (by rw [sockets]) ?_ ?_⟩
      · simp [after]
      · exact fun isTorn =>
          Or.inl (retires (held.retired isTorn (by simp [writing])))
  | failed target frame sent error writing after sockets _ =>
      refine ⟨frames, torn, held.kept key (by rw [sockets]) ?_ ?_⟩
      · simp [after]
      · exact fun isTorn =>
          Or.inl (retires (held.retired isTorn (by simp [writing])))

theorem WrittenFrames.create
    (conn_key : List UInt8)
    (addresses : Server)
    (socket : SocketId) :
    WrittenFrames aead (create conn_key addresses) socket [] [] where
  complete := nofun
  written := rfl
  part := Or.inl rfl
  writing := nofun
  ended := fun isTorn => (isTorn rfl).elim

/-- In every reachable state a socket has complete frames and one part. -/
theorem writtenFrames_of_run
    {conn_key : List UInt8}
    {addresses : Server}
    {events : List TcpServerEvent}
    (reached :
      StepSystem.run (TcpServer.step aead)
          (TcpServer.create conn_key addresses) events =
        some next)
    (socket : SocketId) :
    next.PointerGuard ∧ next.key = AES256GCM.keyOf conn_key ∧
      ∃ frames torn, WrittenFrames aead next socket frames torn := by
  let Invariant (server : TcpServer) : Prop :=
    server.Orderly ∧ server.PointerGuard ∧ server.WriterPlaced ∧
      server.key = AES256GCM.keyOf conn_key ∧
      ∃ frames torn, WrittenFrames aead server socket frames torn
  have initially : Invariant (TcpServer.create conn_key addresses) :=
    ⟨Orderly.create _ _, PointerGuard.create _ _,
      WriterPlaced.create _ _, rfl, [], [],
      WrittenFrames.create _ _ _⟩
  have invariant : Invariant next := by
    refine StepSystem.run_invariant ?_ initially reached
    rintro server event after ⟨orderly, guard, placed, key, _, _, held⟩
      performed
    exact
      ⟨orderly.step performed, guard.step performed,
        placed.step orderly performed,
        (step_key performed).trans key,
        held.step orderly guard.toFlagsGuard placed performed⟩
  exact ⟨invariant.2.1, invariant.2.2.2.1, invariant.2.2.2.2⟩

/-- In every run, no torn frame on a socket is followed by another byte. -/
theorem nothing_after_torn_frame
    (aead : Aead 16)
    (conn_key : List UInt8)
    (addresses : Server)
    (events : List TcpServerEvent)
    (state : TcpServer)
    (reached :
      StepSystem.run (TcpServer.step aead)
          (TcpServer.create conn_key addresses) events =
        some state)
    (socket : SocketId) :
    TornFrameLast aead (AES256GCM.keyOf conn_key) state socket := by
  obtain ⟨guard, key, frames, torn, held⟩ :=
    writtenFrames_of_run reached socket
  refine ⟨frames, torn, held.written, key ▸ held.complete, ?_⟩
  by_cases whole : torn = []
  · exact Or.inl whole
  · refine Or.inr ?_
    rcases held.ended whole with retired | ⟨frame, sent, writing⟩
    · obtain ⟨rest, more, isFrame⟩ := held.part.resolve_left whole
      refine ⟨rest, more, key ▸ isFrame, Or.inr ?_⟩
      intro later final continues
      exact retired.written_run (orderly_of_run reached) guard continues
    · obtain ⟨isFrame, short, rfl⟩ :=
        held.writing frame sent none writing nofun
      refine ⟨frame.drop sent, by simp [short], ?_, Or.inl ?_⟩
      · rw [List.take_append_drop]
        exact key ▸ isFrame
      · rw [List.take_append_drop, List.length_take,
          Nat.min_eq_left (Nat.le_of_lt short)]
        exact writing

/-- A frame of which ten bytes are written when the write fails. -/
def tornWrite : List TcpServerEvent :=
  connects 0 1 ++
    [.resume,
      .sendTo toClient (SendDraw.constant 9),
      .writeSome 10,
      .writeError .connection_reset]

theorem nothing_after_torn_frame_tornWrite :
    ∃ state,
      StepSystem.run (TcpServer.step Aead.checksumAead) exampleStart
          tornWrite =
        some state ∧
      (state.socket 0).written.length = 10 ∧
      TornFrameLast Aead.checksumAead (AES256GCM.keyOf [49]) state 0 := by
  have performed :
      (StepSystem.run (TcpServer.step Aead.checksumAead) exampleStart
          tornWrite).map (fun state => (state.socket 0).written.length) =
        some 10 := by
    decide +kernel
  obtain ⟨state, reached, length⟩ :=
    Option.map_eq_some_iff.mp performed
  exact ⟨state, reached, length,
    nothing_after_torn_frame Aead.checksumAead [49]
      Server.exampleServer tornWrite state reached 0⟩

end

end TcpServer

end Dsvpn
