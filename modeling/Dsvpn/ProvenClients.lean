import Dsvpn.HandshakeFrames

namespace Dsvpn

open ProtocolHeader

/-!
# Which clients are selected

A connection is selected once its first frame has been received; whether the
payload authenticates is not looked at, and all handshakes share one buffer
with `ReceiveFrom`.  As long as nothing that is written to the buffer changes a
byte that another handshake still needs, and no handshake goes on with a frame
that is incomplete or not authentic, every selected connection is proven.
-/

namespace TcpServer

/-- These handshakes hold the bytes of their sockets. -/
structure HandshakesHold
    (aead : Aead 16)
    (conn_key : List UInt8)
    (bytes : SocketId → List UInt8)
    (range : SocketId → Prop)
    (server : TcpServer) : Prop where
  frame :
    ∀ socket, range socket →
      HoldsFrame aead conn_key server.connection.conn_recv_buffer
        (bytes socket) (server.tryReceive socket)

section

variable
    {aead : Aead 16}
    {conn_key : List UInt8}
    {bytes : SocketId → List UInt8}
    {range : SocketId → Prop}
    {self next : TcpServer}
    {event : TcpServerEvent}

theorem HandshakesHold.kept :
    KeptByReturning (HandshakesHold aead conn_key bytes range) where
  setPointers := fun connection _ same holds =>
    { frame := fun socket inRange => by
        have buffer :=
          congrArg IConnection.conn_recv_buffer same
        simp only at buffer ⊢
        rw [buffer]
        exact holds.frame socket inRange }
  finish := fun target _ holds =>
    { frame := fun socket inRange => by
        simp only [setTryReceive]
        by_cases same : socket = target
        · subst same
          rw [Function.update_self]
          exact .finished
        · rw [Function.update_of_ne same]
          exact holds.frame socket inRange }
  wake := fun holds => { holds with }
  abort := fun {server} target holds =>
    { frame := fun socket inRange => by
        have before := holds.frame socket inRange
        rcases server.abort_tryReceive target socket with same | aborted
        · rw [same]
          exact before
        · rw [aborted]
          exact before.abort }
  shut := fun _ holds => { holds with }
  record := fun _ _ holds => { holds with }
  nullDereference := fun holds => { holds with }
  setReceiveLoop := fun _ _ holds => { holds with }
  recordReturned := fun _ holds => { holds with }
  endReceiveLoop := fun holds => { holds with }

/-- What an event writes spares the handshakes it does not belong to. -/
theorem spared_of_handshakesApart
    (orderly : self.Orderly)
    (apart : self.handshakesApart aead event = true)
    {offset : Nat}
    {data : List UInt8}
    (writes : self.overwrites aead event = some (offset, data))
    {socket : SocketId}
    (other : event.isTry socket = false) :
    ∀ index < data.length,
      (self.tryReceive socket).stillNeeded
          (PAYLOAD_LENGTH self.connection.conn_recv_buffer)
          (offset + index) =
        true →
      data.getD index 0 =
        self.connection.conn_recv_buffer.get (offset + index) := by
  intro index inside needed
  have started : socket < self.accepted := by
    apply orderly.started
    intro notStarted
    simp [notStarted, TryReceivePc.stillNeeded] at needed
  simp only [handshakesApart, writes, Bool.and_eq_true,
    List.all_eq_true, List.mem_range] at apart
  have spared := apart.1 socket started
  simp only [other, Bool.false_or, spares, List.all_eq_true,
    List.mem_range] at spared
  simpa [needed] using spared index inside

theorem HandshakesHold.overwrite
    (orderly : self.Orderly)
    (apart : self.handshakesApart aead event = true)
    {offset : Nat}
    {data : List UInt8}
    (writes : self.overwrites aead event = some (offset, data))
    (holds : self.HandshakesHold aead conn_key bytes fun _ => True) :
    (self.setBuffer
        (self.connection.conn_recv_buffer.overwrite
          offset data)).HandshakesHold aead conn_key bytes
      fun socket => event.isTry socket = false where
  frame := fun socket other =>
    (holds.frame socket trivial).overwrite
      (spared_of_handshakesApart orderly apart writes other)

theorem HandshakesHold.mono
    {smaller : SocketId → Prop}
    (holds : self.HandshakesHold aead conn_key bytes range)
    (included : ∀ socket, smaller socket → range socket) :
    self.HandshakesHold aead conn_key bytes smaller where
  frame := fun socket inRange =>
    holds.frame socket (included socket inRange)

/-- `DecryptHeader` spares the other handshakes. -/
theorem HandshakesHold.openHeader
    (orderly : self.Orderly)
    (apart : self.handshakesApart aead event = true)
    (writes : self.overwrites aead event = self.openedLengths aead)
    (holds : self.HandshakesHold aead conn_key bytes fun _ => True) :
    (self.openHeader aead).HandshakesHold aead conn_key bytes
      fun socket => event.isTry socket = false := by
  cases outcome :
      aead.decrypt self.connection.protocol.key
        (NONCE self.connection.conn_recv_buffer)
        (lengthFields self.connection.conn_recv_buffer)
        (LEN_TAG self.connection.conn_recv_buffer) with
  | none =>
      rw [TcpServer.openHeader, Protocol.DecryptHeader_reject outcome]
      exact { holds.mono fun _ _ => trivial with }
  | some len =>
      rw [TcpServer.openHeader, Protocol.DecryptHeader_accept outcome]
      refine HandshakesHold.overwrite orderly apart ?_ holds
      rw [writes, openedLengths, outcome]
      rfl

/-- So does `DecryptPayload`. -/
theorem HandshakesHold.openPayload
    (orderly : self.Orderly)
    (apart : self.handshakesApart aead event = true)
    (writes : self.overwrites aead event = self.openedPayload aead)
    (holds : self.HandshakesHold aead conn_key bytes fun _ => True)
    {protocol : Protocol}
    {header : PacketBuffer}
    {accepted : Bool}
    (opens :
      self.connection.protocol.DecryptPayload aead
          self.connection.conn_recv_buffer =
        some (protocol, header, accepted)) :
    (self.setBuffer header).HandshakesHold aead conn_key bytes
      fun socket => event.isTry socket = false := by
  rcases self.connection.protocol.DecryptPayload_cases aead
      self.connection.conn_recv_buffer with
      ⟨plaintext, fits, _, authentic, accepts⟩ | rejects
  · rw [accepts] at opens
    cases opens
    refine HandshakesHold.overwrite orderly apart ?_ holds
    rw [writes, openedPayload, if_pos fits, authentic]
    rfl
  · rw [rejects] at opens
    cases opens
    exact { holds.mono fun _ _ => trivial with }

/-- A read that has just started has nothing, and is not complete. -/
theorem startRead_fresh
    (self : TcpServer)
    (socket : SocketId)
    (offset want : Nat) :
    (self.startRead socket offset want).offset = offset ∧
      (self.startRead socket offset want).want = want ∧
      (self.startRead socket offset want).got = 0 ∧
      (self.startRead socket offset want).outcome ≠ some none := by
  unfold startRead
  split
  · exact ⟨rfl, rfl, rfl, nofun⟩
  · exact ⟨rfl, rfl, rfl, by simp [ReadOp.start, ReadOp.fail]⟩

theorem received_append
    (past : List TcpServerEvent)
    (event : TcpServerEvent)
    (socket : SocketId) :
    received (past ++ [event]) socket =
      received past socket ++ event.tried socket := by
  simp [received]

/-- Another state of a handshake, and the buffer as it is. -/
theorem HandshakesHold.setTryReceive
    (holds : self.HandshakesHold aead conn_key bytes range)
    {target : SocketId}
    {pc : TryReceivePc}
    (frame :
      HoldsFrame aead conn_key self.connection.conn_recv_buffer
        (bytes target) pc) :
    (setTryReceive target pc self).HandshakesHold aead conn_key bytes
      range where
  frame := fun socket inRange => by
    simp only [TcpServer.setTryReceive]
    by_cases same : socket = target
    · subst same
      rw [Function.update_self]
      exact frame
    · rw [Function.update_of_ne same]
      exact holds.frame socket inRange

/-- A new connection has not brought any bytes yet. -/
theorem HandshakesHold.resumeAccept
    (orderly : self.Orderly)
    (holds : self.HandshakesHold aead conn_key bytes range) :
    self.resumeAccept.HandshakesHold aead conn_key bytes range where
  frame := fun socket inRange => by
    simp only [TcpServer.resumeAccept]
    by_cases same : socket = self.accepted
    · subst same
      rw [Function.update_self]
      have notStarted : self.tryReceive self.accepted = .notStarted :=
        Decidable.byContradiction fun started =>
          Nat.lt_irrefl _ (orderly.started _ started)
      have frame := holds.frame _ inRange
      rw [notStarted] at frame
      cases frame with
      | notStarted empty =>
          rw [empty]
          exact .readHeader _ rfl
            fun _ inside => absurd inside (Nat.not_lt_zero _)
    · rw [Function.update_of_ne same]
      exact holds.frame socket inRange

/-- A piece for one handshake spares the others. -/
theorem HandshakesHold.arriveTry
    {past : List TcpServerEvent}
    {target : SocketId}
    {piece data : List UInt8}
    {offset : Nat}
    {pc : TryReceivePc}
    (orderly : self.Orderly)
    (apart : self.handshakesApart aead (.arriveTry target piece) = true)
    (writes :
      self.overwrites aead (.arriveTry target piece) =
        some (offset, data))
    (holds :
      self.HandshakesHold aead conn_key (received past) fun _ => True)
    (frame :
      HoldsFrame aead conn_key
        (self.connection.conn_recv_buffer.overwrite offset data)
        (received past target ++ piece) pc) :
    (TcpServer.setTryReceive target pc
        (self.setBuffer
          (self.connection.conn_recv_buffer.overwrite
            offset data))).HandshakesHold aead conn_key
      (received (past ++ [.arriveTry target piece])) fun _ => True where
  frame := fun socket _ => by
    have others := holds.overwrite orderly apart writes
    rw [received_append]
    simp only [TcpServer.setTryReceive, TcpServerEvent.tried]
    by_cases same : socket = target
    · subst same
      rw [Function.update_self, if_pos rfl]
      exact frame
    · rw [Function.update_of_ne same, if_neg (Ne.symm same),
        List.append_nil]
      exact others.frame socket rfl

/-- The handshake that is resumed joins those that are not. -/
theorem HandshakesHold.resumed
    {target : SocketId}
    {pc : TryReceivePc}
    (others :
      self.HandshakesHold aead conn_key bytes
        fun socket =>
          (TcpServerEvent.resumeTry target).isTry socket = false)
    (own :
      HoldsFrame aead conn_key self.connection.conn_recv_buffer
        (bytes target) pc) :
    (TcpServer.setTryReceive target pc self).HandshakesHold aead conn_key
      bytes fun _ => True where
  frame := fun socket _ => by
    simp only [TcpServer.setTryReceive]
    by_cases same : socket = target
    · subst same
      rw [Function.update_self]
      exact own
    · rw [Function.update_of_ne same]
      exact others.frame socket
        (by simp [TcpServerEvent.isTry, Ne.symm same])

theorem HandshakesHold.resumeTryHeader
    {socket : SocketId}
    {op : ReadOp}
    (orderly : self.Orderly)
    (key : self.key = AES256GCM.keyOf conn_key)
    (apart : self.handshakesApart aead (.resumeTry socket) = true)
    (holds : self.HandshakesHold aead conn_key bytes fun _ => True)
    (reading : self.tryReceive socket = .readHeader op) :
    (self.resumeTryHeader aead socket op.got).HandshakesHold
      aead conn_key bytes fun _ => True := by
  unfold TcpServer.resumeTryHeader
  split
  · exact HandshakesHold.kept.giveUp (by simp [reading]) holds
  · rename_i something
    have others :=
      holds.openHeader orderly apart
        (by simp [overwrites, reading, something])
    simp only
    split
    · exact HandshakesHold.resumed
        (HandshakesHold.kept.shut socket others) .finished
    · rename_i positive
      refine HandshakesHold.resumed others ?_
      have frame := holds.frame socket trivial
      rw [reading] at frame
      refine frame.open ?_ key rfl positive (self.startRead_fresh _ _ _)
      simp only [handshakesApart, reading, Bool.and_eq_true,
        Bool.or_eq_true, beq_iff_eq] at apart
      exact (apart.2.resolve_right positive).resolve_left something

/-- An exception stops every coroutine, so only the others matter. -/
theorem HandshakesHold.resumeTryPayload
    {socket : SocketId}
    {op : ReadOp}
    {error : Option ErrorCode}
    (orderly : self.Orderly)
    (apart : self.handshakesApart aead (.resumeTry socket) = true)
    (holds : self.HandshakesHold aead conn_key bytes fun _ => True)
    (reading : self.tryReceive socket = .readPayload op)
    (completed : op.outcome = some error)
    (running :
      (self.resumeTryPayload aead socket op.got error).fault = none) :
    (self.resumeTryPayload aead socket op.got error).HandshakesHold
      aead conn_key bytes fun _ => True := by
  unfold TcpServer.resumeTryPayload at running ⊢
  split
  · rename_i fails
    rw [if_pos fails] at running
    cases running
  · rename_i complete
    rw [Option.not_isSome_iff_eq_none] at complete
    subst complete
    split
    · exact HandshakesHold.kept.giveUp (by simp [reading]) holds
    · rename_i something
      split
      · exact { holds with }
      · rename_i protocol header accepted opens
        have others :=
          holds.openPayload orderly apart
            (by simp [overwrites, reading, something, completed]) opens
        simp only
        split
        · apply HandshakesHold.kept.chosen fun hold => { hold with }
          apply HandshakesHold.resumed
          · exact { others with }
          · exact .finished
        · rename_i unreached
          simp [something, opens, unreached, setFault] at running

/-- A piece for `ReceiveFrom` spares all handshakes. -/
theorem HandshakesHold.arrive
    {offset : Nat}
    {piece : List UInt8}
    {pc : ReceiveLoopPc}
    (orderly : self.Orderly)
    (apart : self.handshakesApart aead (.arrive piece) = true)
    (writes :
      self.overwrites aead (.arrive piece) = some (offset, piece))
    (holds : self.HandshakesHold aead conn_key bytes fun _ => True) :
    (setReceiveLoop pc
        (self.setBuffer
          (self.connection.conn_recv_buffer.overwrite
            offset piece))).HandshakesHold aead conn_key bytes
      fun _ => True := by
  have spared := holds.overwrite orderly apart writes
  exact { spared.mono fun _ _ => rfl with }

/-- `SendTo` works on the other packet buffer. -/
theorem HandshakesHold.sendTo
    (holds : self.HandshakesHold aead conn_key bytes range)
    (packet : List UInt8)
    (draw : SendDraw) :
    (self.sendTo aead packet draw).HandshakesHold aead conn_key bytes
      range := by
  obtain ⟨_, _, _, changed, _, same⟩ :=
    sendTo_changes aead self packet draw
  rw [changed]
  refine ⟨fun socket inRange => ?_⟩
  simp only [same]
  exact holds.frame socket inRange

theorem HandshakesHold.step
    {past : List TcpServerEvent}
    (orderly : self.Orderly)
    (key : self.key = AES256GCM.keyOf conn_key)
    (apart : self.handshakesApart aead event = true)
    (holds :
      self.HandshakesHold aead conn_key (received past) fun _ => True)
    (performed : TcpServer.step aead self event = some next)
    (running : next.fault = none) :
    next.HandshakesHold aead conn_key (received (past ++ [event]))
      fun _ => True := by
  have idle (nothing : ∀ socket, event.tried socket = []) :
      received (past ++ [event]) = received past := by
    funext socket
    rw [received_append, nothing, List.append_nil]
  obtain ⟨_, transition⟩ := step_transition performed
  cases transition with
  | resumeAccept _ =>
      rw [idle fun _ => rfl]
      exact holds.resumeAccept orderly
  | @arriveTryHeader socket op piece reading _ _ =>
      have frame := holds.frame socket trivial
      rw [reading] at frame
      exact holds.arriveTry orderly apart
        (by simp [overwrites, reading])
        (frame.receiveHeader (orderly.triesHeader socket op reading) piece)
  | @arriveTryPayload socket op piece reading _ _ =>
      have frame := holds.frame socket trivial
      rw [reading] at frame
      exact holds.arriveTry orderly apart
        (by simp [overwrites, reading]) (frame.receivePayload piece)
  | arriveTryOutside _ _ _ => cases running
  | @failTryHeader socket op error reading =>
      rw [idle fun _ => rfl]
      have frame := holds.frame socket trivial
      rw [reading] at frame
      exact holds.setTryReceive (frame.failHeader error)
  | @failTryPayload socket op error reading =>
      rw [idle fun _ => rfl]
      have frame := holds.frame socket trivial
      rw [reading] at frame
      exact holds.setTryReceive (frame.failPayload error)
  | resumeTryHeader reading _ =>
      rw [idle fun _ => rfl]
      exact holds.resumeTryHeader orderly key apart reading
  | resumeTryPayload reading completed =>
      rw [idle fun _ => rfl]
      exact holds.resumeTryPayload orderly apart reading completed running
  | wake _ =>
      rw [idle fun _ => rfl]
      exact HandshakesHold.kept.receiveFrom holds
  | arriveHeader reading _ _ =>
      rw [idle fun _ => rfl]
      exact holds.arrive orderly apart (by simp [overwrites, reading])
  | arrivePayload reading _ _ =>
      rw [idle fun _ => rfl]
      exact holds.arrive orderly apart (by simp [overwrites, reading])
  | arriveOutside _ _ _ => cases running
  | resumeHeader reading completed =>
      rw [idle fun _ => rfl]
      refine HandshakesHold.kept.resumeHeader _ _ _ holds
        fun complete something => ?_
      have opened :=
        holds.openHeader orderly apart
          (by simp [overwrites, reading, completed, complete, something])
      exact opened.mono fun _ _ => rfl
  | resumePayload reading _ =>
      rw [idle fun _ => rfl]
      refine HandshakesHold.kept.resumePayload _ _ _ holds
        fun something opens _ => ?_
      have opened :=
        holds.openPayload orderly apart
          (by simp [overwrites, reading, something]) opens
      exact { opened.mono fun _ _ => rfl with }
  | tunWritten failed _ =>
      rw [idle fun _ => rfl]
      cases failed with
      | false => exact HandshakesHold.kept.receiveFrom holds
      | true => exact HandshakesHold.kept.endReceiveLoop holds
  | sendTo packet draw _ =>
      rw [idle fun _ => rfl]
      exact holds.sendTo packet draw
  | resumeSendTo _ =>
      rw [idle fun _ => rfl]
      exact HandshakesHold.kept.resumeSendTo _ _ { holds with }
  | close =>
      rw [idle fun _ => rfl]
      exact HandshakesHold.kept.close holds
  | _ =>
      rw [idle fun _ => rfl]
      exact { holds with }

/-- The socket is the current one, or waits to replace it. -/
def Selected (self : TcpServer) (socket : SocketId) : Prop :=
  self.connection.conn_socket = some socket ∨
    self.connection.replace_socket = some socket

theorem Orderly.selectedFinished
    (orderly : self.Orderly)
    {socket : SocketId}
    (selected : self.Selected socket) :
    self.tryReceive socket = .finished :=
  selected.elim (orderly.currentFinished socket)
    (orderly.waitingFinished socket)

/-- A selected socket was selected before, or has just been chosen. -/
theorem SelectionStep.selected
    (step : SelectionStep self event next)
    {socket : SocketId}
    (selected : next.Selected socket) :
    self.Selected socket ∨ event = .resumeTry socket := by
  have current
      (same :
        next.selection.conn_socket = self.selection.conn_socket)
      (isCurrent : next.connection.conn_socket = some socket) :
      self.Selected socket :=
    Or.inl (same.symm.trans isCurrent)
  have waiting
      (same :
        next.selection.replace_socket = self.selection.replace_socket)
      (isWaiting : next.connection.replace_socket = some socket) :
      self.Selected socket :=
    Or.inr (same.symm.trans isWaiting)
  have keeps
      (sameCurrent :
        next.selection.conn_socket = self.selection.conn_socket)
      (sameWaiting :
        next.selection.replace_socket = self.selection.replace_socket) :
      self.Selected socket :=
    selected.elim (current sameCurrent) (waiting sameWaiting)
  cases step with
  | unchanged same => exact Or.inl (keeps (by rw [same]) (by rw [same]))
  | first chosen isEvent active unselected _ same =>
      rcases selected with isCurrent | isWaiting
      · change next.selection.conn_socket = some socket at isCurrent
        rw [same] at isCurrent
        obtain rfl := Option.some.inj isCurrent
        exact Or.inr isEvent
      · exact Or.inl (waiting (by rw [same]) isWaiting)
  | replacing chosen isEvent active isSelected _ same =>
      rcases selected with isCurrent | isWaiting
      · exact Or.inl (current (by rw [same]) isCurrent)
      · change next.selection.replace_socket = some socket at isWaiting
        rw [same] at isWaiting
        obtain rfl := Option.some.inj isWaiting
        exact Or.inr isEvent
  | lost stopped none same =>
      rcases selected with isCurrent | isWaiting
      · change next.selection.conn_socket = some socket at isCurrent
        rw [same] at isCurrent
        cases isCurrent
      · exact Or.inl (waiting (by rw [same]) isWaiting)
  | swapped other stopped isWaiting same =>
      rcases selected with isCurrent | later
      · change next.selection.conn_socket = some socket at isCurrent
        rw [same] at isCurrent
        obtain rfl := Option.some.inj isCurrent
        exact Or.inl (Or.inr isWaiting)
      · change next.selection.replace_socket = some socket at later
        rw [same] at later
        cases later
  | deselected other stopped isCurrent same =>
      exact Or.inl (keeps (by rw [same]) (by rw [same]))
  | refused closes same =>
      exact Or.inl (keeps (by rw [same]) (by rw [same]))
  | closed closes isSelected same =>
      rcases selected with isCurrent | isWaiting
      · change next.selection.conn_socket = some socket at isCurrent
        rw [same] at isCurrent
        cases isCurrent
      · exact Or.inl (waiting (by rw [same]) isWaiting)

/-- A selected socket brings no more bytes for its handshake. -/
theorem tried_finished
    {socket : SocketId}
    (finished : self.tryReceive socket = .finished)
    (performed : TcpServer.step aead self event = some next) :
    event.tried socket = [] := by
  obtain ⟨_, transition⟩ := step_transition performed
  have different
      {other : SocketId}
      (active : self.tryReceive other ≠ .finished) :
      other ≠ socket :=
    fun same => active (same ▸ finished)
  cases transition with
  | arriveTryHeader reading _ _ =>
      exact if_neg (different (by simp [reading]))
  | arriveTryPayload reading _ _ =>
      exact if_neg (different (by simp [reading]))
  | arriveTryOutside reading _ _ =>
      refine if_neg (different ?_)
      rcases reading with reading | reading
      · simp [reading]
      · simp [reading]
  | _ => rfl

/-- The handshake ends with a choice only after a payload read. -/
theorem chosen_resumeTryPayload
    {socket : SocketId}
    {bytes_read : Nat}
    {error : Option ErrorCode}
    (changed :
      (self.resumeTryPayload aead socket bytes_read error).selection ≠
        self.selection) :
    error = none ∧ bytes_read ≠ 0 ∧
      self.connection.tcp_acceptor_open = true ∧
      (self.socket socket).connected = true := by
  unfold TcpServer.resumeTryPayload at changed
  split at changed
  · exact (changed rfl).elim
  · rename_i complete
    split at changed
    · exact (changed rfl).elim
    · rename_i something
      split at changed
      · exact (changed rfl).elim
      · simp only at changed
        split at changed
        · rename_i reaches
          exact ⟨Option.not_isSome_iff_eq_none.mp complete, something,
            reaches⟩
        · exact (changed rfl).elim

/-- The frames of all selected clients are proven. -/
def SelectedProven
    (aead : Aead 16)
    (conn_key : List UInt8)
    (past : List TcpServerEvent)
    (server : TcpServer) : Prop :=
  ∀ socket, server.Selected socket →
    ∃ header payload_len,
      ProvenFrame aead conn_key (received past socket) header payload_len

theorem SelectedProven.step
    {past : List TcpServerEvent}
    (orderly : self.Orderly)
    (key : self.key = AES256GCM.keyOf conn_key)
    (apart : self.handshakesApart aead event = true)
    (holds :
      self.HandshakesHold aead conn_key (received past) fun _ => True)
    (proven : self.SelectedProven aead conn_key past)
    (performed : TcpServer.step aead self event = some next) :
    next.SelectedProven aead conn_key (past ++ [event]) := by
  intro socket selected
  rw [received_append]
  by_cases already : self.Selected socket
  · rw [tried_finished (orderly.selectedFinished already) performed,
      List.append_nil]
    exact proven socket already
  · obtain rfl :=
      ((step_selection performed).selected selected).resolve_left already
    have changed : next.selection ≠ self.selection := by
      intro same
      apply already
      exact selected.imp
        (congrArg Selection.conn_socket same).symm.trans
        (congrArg Selection.replace_socket same).symm.trans
    have nothing : (TcpServerEvent.resumeTry socket).tried socket = [] :=
      rfl
    rw [nothing, List.append_nil]
    obtain ⟨_, transition⟩ := step_transition performed
    cases transition with
    | resumeTryHeader _ _ =>
        exact (changed (selection_resumeTryHeader _ _)).elim
    | @resumeTryPayload _ op error reading completed =>
        obtain ⟨rfl, something, open_, connected⟩ :=
          chosen_resumeTryPayload changed
        have frame := holds.frame socket trivial
        rw [reading] at frame
        simp only [handshakesApart, reading, completed, open_, connected,
          Bool.and_eq_true, Bool.or_eq_true, beq_iff_eq, bne_self_eq_false,
          something, Bool.and_self, Bool.not_true, decide_eq_true_eq,
          false_or, Bool.false_eq_true] at apart
        exact frame.proven key completed apart.2.1 apart.2.2

/--
In every run in which the handshakes stay apart, a socket is selected only if
the first frame received on it passed both decryptions under the key.
-/
theorem selected_proven
    (aead : Aead 16)
    (conn_key : List UInt8)
    (addresses : Server)
    (events : List TcpServerEvent)
    (state : TcpServer)
    (apart :
      StepSystem.Along (TcpServer.step aead)
        (fun state event => state.handshakesApart aead event = true)
        (TcpServer.create conn_key addresses) events)
    (reached :
      StepSystem.run (TcpServer.step aead)
          (TcpServer.create conn_key addresses) events =
        some state)
    (socket : SocketId)
    (selected :
      state.connection.conn_socket = some socket ∨
        state.connection.replace_socket = some socket) :
    ∃ header payload_len,
      ProvenFrame aead conn_key (received events socket) header
        payload_len := by
  let Invariant
      (past : List TcpServerEvent)
      (server : TcpServer) : Prop :=
    server.Orderly ∧
      server.key = AES256GCM.keyOf conn_key ∧
      (server.fault = none →
        server.HandshakesHold aead conn_key (received past)
          fun _ => True) ∧
      server.SelectedProven aead conn_key past
  have initially : Invariant [] (TcpServer.create conn_key addresses) :=
    ⟨Orderly.create conn_key addresses, rfl,
      fun _ => ⟨fun _ _ => .notStarted rfl⟩,
      fun _ selected => by rcases selected with ⟨⟨⟩⟩ | ⟨⟨⟩⟩⟩
  have invariant :
      Invariant ([] ++ events.flatMap fun event => [event]) state := by
    refine StepSystem.run_invariant_observing ?_ initially apart
      (List.prefix_refl _) reached
    intro past server event next invariant apart _ performed
    obtain ⟨orderly, key, holds, proven⟩ := invariant
    have running := holds (step_transition performed).1
    exact ⟨orderly.step performed, (step_key performed).trans key,
      running.step orderly key apart performed,
      proven.step orderly key apart running performed⟩
  have proven := invariant.2.2.2 socket selected
  simpa using proven

theorem selected_proven_connects :
    ∃ state,
      StepSystem.run (TcpServer.step Aead.checksumAead) exampleStart
          (connects 0 1) =
        some state ∧
      ∃ header payload_len,
        ProvenFrame Aead.checksumAead [49] (received (connects 0 1) 0)
          header payload_len := by
  have performed :
      (StepSystem.run (TcpServer.step Aead.checksumAead) exampleStart
          (connects 0 1)).map
            (fun state => state.connection.conn_socket) =
        some (some 0) := by
    decide +kernel
  obtain ⟨state, reached, selected⟩ :=
    Option.map_eq_some_iff.mp performed
  refine ⟨state, reached,
    selected_proven Aead.checksumAead [49] Server.exampleServer
      (connects 0 1) state ?_ reached 0 (Or.inl selected)⟩
  decide +kernel

/-- A header of a client, sent again with other bytes behind it. -/
def replayedHeader : List TcpServerEvent :=
  [.incoming, .resumeAccept,
    .arriveTry 0 ((clientFrame 1).take Size),
    .resumeTry 0,
    .arriveTry 0 (List.replicate 270 0),
    .resumeTry 0]

theorem replayedHeader_selected :
    ∃ state,
      StepSystem.run (TcpServer.step Aead.checksumAead) exampleStart
          replayedHeader =
        some state ∧
      state.connection.conn_socket = some 0 ∧
      ¬ ∃ header payload_len,
        ProvenFrame Aead.checksumAead [49] (received replayedHeader 0)
          header payload_len := by
  have performed :
      (StepSystem.run (TcpServer.step Aead.checksumAead) exampleStart
          replayedHeader).map
            (fun state => state.connection.conn_socket) =
        some (some 0) := by
    decide +kernel
  have rejected :
      (Protocol.create [49]).acceptsPayload Aead.checksumAead
        ((Protocol.create [49]).DecryptHeader Aead.checksumAead
          (Buffer.ofBytes (received replayedHeader 0))).1 =
      false := by
    decide +kernel
  obtain ⟨state, reached, selected⟩ :=
    Option.map_eq_some_iff.mp performed
  refine ⟨state, reached, selected, ?_⟩
  rintro ⟨header, payload_len, proven⟩
  rw [proven.opens, proven.authentic] at rejected
  cases rejected

end

end TcpServer

end Dsvpn
