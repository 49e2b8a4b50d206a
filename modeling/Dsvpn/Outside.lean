import Dsvpn.ServerStream

namespace Dsvpn

open ProtocolHeader

/-!
# The same server with other outsiders

Every accepted connection reads its first header into the buffer that
`ReceiveFrom` uses.  A server is put beside one with other connections in
their handshakes, in which the settled connections and the bytes that
`ReceiveFrom` still needs are the same: what `ReceiveFrom` does is the same in
both.
-/

def TcpServerEvent.ofOutsiders
    (settled : SocketId → Bool) : TcpServerEvent → Bool
  | .incoming => true
  | .resumeAccept => true
  | .disconnect socket => !settled socket
  | .arriveTry socket _ => !settled socket
  | .failTry socket _ => !settled socket
  | .resumeTry socket => !settled socket
  | _ => false

/--
The bytes of the header space that `ReceiveFrom` has received and will look
at: all of a header that is being read, and of an opened header the nonce, the
payload tag and the payload length.
-/
def ReceiveLoopPc.stillNeeded
    (pc : ReceiveLoopPc)
    (index : Nat) : Bool :=
  match pc with
  | .readHeader _ op =>
      index < op.got
  | .readPayload _ _ =>
      index < 12 || (28 ≤ index && index < 48)
  | _ =>
      false

namespace TcpServer

/-- The connections whose `tryReceive` has finished. -/
def settled (self : TcpServer) (socket : SocketId) : Bool :=
  self.tryReceive socket = .finished

/--
A piece for a `tryReceive` changes no byte that `ReceiveFrom` still needs, and
a header that a `tryReceive` finds in the buffer does not authenticate.
-/
def outsidersHarmless
    (aead : Aead 16)
    (self : TcpServer)
    (event : TcpServerEvent) : Bool :=
  match event with
  | .arriveTry socket piece =>
      match self.tryReceive socket with
      | .readHeader op =>
          (List.range piece.length).all fun index =>
            !self.receiveLoop.stillNeeded (op.got + index) ||
              piece.getD index 0 ==
                self.connection.conn_recv_buffer.get (op.got + index)
      | _ => true
  | .resumeTry socket =>
      match self.tryReceive socket with
      | .readHeader op =>
          op.got == 0 ||
            (aead.decrypt self.connection.protocol.key
              (NONCE self.connection.conn_recv_buffer)
              (lengthFields self.connection.conn_recv_buffer)
              (LEN_TAG self.connection.conn_recv_buffer)).isNone
      | _ => true
  | _ => true

/-- What the other connections work on. -/
structure Outside where
  buffer : PacketBuffer
  acceptor : AcceptPc
  accepted : Nat
  socket : SocketId → Socket
  tryReceive : SocketId → TryReceivePc

/-- The server with these other connections in place of its own. -/
def withOutside (self : TcpServer) (outside : Outside) : TcpServer :=
  { self with
    connection :=
      { self.connection with conn_recv_buffer := outside.buffer }
    acceptor := outside.acceptor
    accepted := outside.accepted
    socket := outside.socket
    tryReceive := outside.tryReceive }

section

variable
    (self : TcpServer)
    (outside : Outside)

@[simp] theorem withOutside_protocol :
    (self.withOutside outside).connection.protocol =
      self.connection.protocol :=
  rfl

@[simp] theorem withOutside_selected :
    (self.withOutside outside).connection.selected =
      self.connection.selected :=
  rfl

@[simp] theorem withOutside_conn_socket :
    (self.withOutside outside).connection.conn_socket =
      self.connection.conn_socket :=
  rfl

@[simp] theorem withOutside_replace_socket :
    (self.withOutside outside).connection.replace_socket =
      self.connection.replace_socket :=
  rfl

@[simp] theorem withOutside_stopped :
    (self.withOutside outside).connection.stopped =
      self.connection.stopped :=
  rfl

@[simp] theorem withOutside_async_tasks_running :
    (self.withOutside outside).connection.async_tasks_running =
      self.connection.async_tasks_running :=
  rfl

@[simp] theorem withOutside_conn_recv_buffer :
    (self.withOutside outside).connection.conn_recv_buffer =
      outside.buffer :=
  rfl

@[simp] theorem withOutside_addresses :
    (self.withOutside outside).addresses = self.addresses :=
  rfl

@[simp] theorem withOutside_socket :
    (self.withOutside outside).socket = outside.socket :=
  rfl

theorem withOutside_record (action : Action) :
    (self.withOutside outside).record action =
      (self.record action).withOutside outside :=
  rfl

end

/-- What `ReceiveFrom` may look at: the bytes it needs and all payload bytes. -/
def Visible (self : TcpServer) (index : Nat) : Prop :=
  Size ≤ index ∨ self.receiveLoop.stillNeeded index = true

/--
The settled connections and the bytes `ReceiveFrom` may look at are the same,
and the receive loop and the TUN loop deal with settled connections only.
-/
structure Mirrors
    (settled : SocketId → Bool)
    (server : TcpServer)
    (outside : Outside) : Prop where
  settledFinished :
    ∀ socket, settled socket = true →
      server.tryReceive socket = .finished
  currentSettled :
    ∀ socket, server.connection.conn_socket = some socket →
      settled socket = true
  waitingSettled :
    ∀ socket, server.connection.replace_socket = some socket →
      settled socket = true
  noPayload :
    ∀ socket op, server.tryReceive socket ≠ .readPayload op
  sameSocket :
    ∀ socket, settled socket = true →
      outside.socket socket = server.socket socket
  sameBytes :
    Buffer.AgreeOn server.Visible outside.buffer
      server.connection.conn_recv_buffer

/-- A part of the server does the same to `self` and to its mirror image. -/
def MirrorsAfter
    (settled : SocketId → Bool)
    (next mirrored : TcpServer) : Prop :=
  ∃ outside,
    mirrored = next.withOutside outside ∧ Mirrors settled next outside

section

variable
    {aead : Aead 16}
    {settled : SocketId → Bool}
    {self next : TcpServer}
    {outside : Outside}

theorem Mirrors.record
    (mirrors : Mirrors settled self outside)
    (action : Action) :
    Mirrors settled (self.record action) outside :=
  { mirrors with }

theorem Mirrors.settledIdle
    (mirrors : Mirrors settled self outside)
    {socket : SocketId}
    (isSettled : settled socket = true)
    {op : ReadOp} :
    self.tryReceive socket ≠ .readHeader op := by
  rw [mirrors.settledFinished socket isSettled]
  nofun

/-- The bytes behind the header are always the same. -/
theorem Mirrors.sameBehind
    (mirrors : Mirrors settled self outside) :
    Buffer.AgreeOn (fun index => Size ≤ index) outside.buffer
      self.connection.conn_recv_buffer :=
  mirrors.sameBytes.mono fun _ behind => Or.inl behind

/-- Aborting a read changes nothing `ReceiveFrom` needs. -/
theorem stillNeeded_abort
    (pc : ReceiveLoopPc)
    (target : SocketId) :
    (pc.abort target).stillNeeded = pc.stillNeeded := by
  funext index
  cases pc with
  | waitSelected woken => rfl
  | writeTun => rfl
  | ended => rfl
  | readHeader socket op =>
      by_cases same : socket = target
      · simp [ReceiveLoopPc.abort, ReceiveLoopPc.stillNeeded, same,
          ReadOp.fail_got]
      · simp [ReceiveLoopPc.abort, same]
  | readPayload socket op =>
      by_cases same : socket = target
      · simp [ReceiveLoopPc.abort, ReceiveLoopPc.stillNeeded, same]
      · simp [ReceiveLoopPc.abort, same]

theorem Mirrors.abort
    (mirrors : Mirrors settled self outside)
    (target : SocketId) :
    MirrorsAfter settled (self.abort target)
      ((self.withOutside outside).abort target) := by
  refine
    ⟨{ outside with
        tryReceive :=
          Function.update outside.tryReceive target
            (outside.tryReceive target).abort }, rfl, ?_⟩
  exact
    { mirrors with
      settledFinished := fun socket isSettled => by
        have finished := mirrors.settledFinished socket isSettled
        rcases self.abort_tryReceive target socket with same | aborted
        · exact same.trans finished
        · exact aborted.trans
            (TryReceivePc.abort_eq_finished.mpr finished)
      noPayload := fun socket op reading => by
        rcases self.abort_tryReceive target socket with same | aborted
        · exact mirrors.noPayload socket op (same.symm.trans reading)
        · have failed := aborted.symm.trans reading
          cases pc : self.tryReceive socket with
          | notStarted => simp [pc, TryReceivePc.abort] at failed
          | finished => simp [pc, TryReceivePc.abort] at failed
          | readHeader earlier =>
              simp [pc, TryReceivePc.abort] at failed
          | readPayload earlier =>
              exact mirrors.noPayload socket earlier pc
      sameBytes := by
        refine mirrors.sameBytes.mono fun index visible => ?_
        rcases visible with behind | needed
        · exact Or.inl behind
        · refine Or.inr ?_
          rw [← stillNeeded_abort self.receiveLoop target]
          exact needed }

theorem Mirrors.shut
    (mirrors : Mirrors settled self outside)
    (target : SocketId) :
    MirrorsAfter settled (self.shut target)
      ((self.withOutside outside).shut target) := by
  refine
    ⟨{ outside with
        socket :=
          Function.update outside.socket target
            { outside.socket target with is_open := false } }, rfl, ?_⟩
  exact
    { mirrors with
      sameSocket := fun socket isSettled => by
        have same := mirrors.sameSocket socket isSettled
        by_cases isTarget : socket = target
        · subst isTarget
          simp [TcpServer.shut, same]
        · simpa [TcpServer.shut, isTarget] using same }

theorem Mirrors.closeSocket
    (mirrors : Mirrors settled self outside)
    (target : SocketId) :
    MirrorsAfter settled (self.closeSocket target)
      ((self.withOutside outside).closeSocket target) := by
  obtain ⟨aborted, abortedEq, mirrorsAborted⟩ := mirrors.abort target
  obtain ⟨shut, shutEq, mirrorsShut⟩ := mirrorsAborted.shut target
  refine ⟨shut, ?_, mirrorsShut.record _⟩
  unfold TcpServer.closeSocket
  rw [abortedEq, shutEq]
  rfl

theorem Mirrors.cancel
    (mirrors : Mirrors settled self outside)
    (target : SocketId) :
    MirrorsAfter settled (self.cancel target)
      ((self.withOutside outside).cancel target) := by
  obtain ⟨aborted, abortedEq, mirrorsAborted⟩ := mirrors.abort target
  refine ⟨aborted, ?_, mirrorsAborted.record _⟩
  unfold TcpServer.cancel
  rw [abortedEq]
  rfl

/-- A read of the current socket starts in the same way. -/
theorem Mirrors.startRead
    (mirrors : Mirrors settled self outside)
    {socket : SocketId}
    (current : self.connection.conn_socket = some socket)
    (offset want : Nat) :
    (self.withOutside outside).startRead socket offset want =
      self.startRead socket offset want := by
  have same :=
    mirrors.sameSocket socket (mirrors.currentSettled socket current)
  unfold TcpServer.startRead
  rw [withOutside_socket, same]

/-- Once `ReceiveFrom` needs no byte of the header, fewer bytes matter. -/
theorem Mirrors.setReceiveLoop
    (mirrors : Mirrors settled self outside)
    (pc : ReceiveLoopPc)
    (fresh : ∀ index, pc.stillNeeded index = false) :
    Mirrors settled { self with receiveLoop := pc } outside :=
  { mirrors with
    sameBytes := by
      refine mirrors.sameBehind.mono fun index visible => ?_
      rcases visible with behind | needed
      · exact behind
      · rw [fresh index] at needed
        cases needed }

theorem Mirrors.receiveFrom
    (mirrors : Mirrors settled self outside) :
    MirrorsAfter settled self.receiveFrom
      (self.withOutside outside).receiveFrom := by
  refine ⟨outside, ?_, ?_⟩
  · unfold TcpServer.receiveFrom
    by_cases selected : self.connection.selected = true
    · have mirrored :
          (self.withOutside outside).connection.selected = true :=
        selected
      rw [if_pos selected, if_pos mirrored, withOutside_conn_socket]
      cases current : self.connection.conn_socket with
      | none => rfl
      | some socket =>
          simp only [mirrors.startRead current]
          rfl
    · have mirrored :
          ¬ (self.withOutside outside).connection.selected = true :=
        selected
      rw [if_neg selected, if_neg mirrored]
      rfl
  · unfold TcpServer.receiveFrom
    split
    · split
      · exact { mirrors with }
      · apply mirrors.setReceiveLoop
        intro index
        have got (socket : SocketId) :
            (self.startRead socket 0 Size).got = 0 := by
          unfold TcpServer.startRead
          split <;> rfl
        simp [ReceiveLoopPc.stillNeeded, got]
    · exact mirrors.setReceiveLoop _ fun _ => rfl

theorem Mirrors.endReceiveLoop
    (mirrors : Mirrors settled self outside) :
    Mirrors settled self.endReceiveLoop outside :=
  { mirrors.setReceiveLoop .ended fun _ => rfl with }

/-- The packet that is returned lies behind the header. -/
theorem Mirrors.returnFrom
    (mirrors : Mirrors settled self outside)
    (bytes_read : Int)
    (error : Option ErrorCode) :
    MirrorsAfter settled (self.returnFrom bytes_read error)
      ((self.withOutside outside).returnFrom bytes_read error) := by
  have packet :
      outside.buffer.slice Size bytes_read.toNat =
        self.connection.conn_recv_buffer.slice
          Size bytes_read.toNat :=
    mirrors.sameBehind.slice fun _ behind _ => behind
  have decision :
      self.addresses.tunWrite bytes_read outside.buffer =
        self.addresses.tunWrite bytes_read
          self.connection.conn_recv_buffer :=
    self.addresses.tunWrite_congr bytes_read mirrors.sameBehind
  have recorded :=
    mirrors.record (.returned ⟨bytes_read, error,
      self.connection.conn_recv_buffer.slice Size bytes_read.toNat⟩)
  unfold TcpServer.returnFrom
  simp only [withOutside_conn_recv_buffer, withOutside_addresses,
    packet, decision]
  split
  · exact ⟨outside, rfl, recorded.endReceiveLoop⟩
  · split
    · exact ⟨outside, rfl, recorded.endReceiveLoop⟩
    · split
      · exact recorded.receiveFrom
      · exact ⟨outside, rfl,
          (recorded.record _).setReceiveLoop _ fun _ => rfl⟩

theorem Mirrors.loseConnection
    (mirrors : Mirrors settled self outside) :
    MirrorsAfter settled self.loseConnection
      (self.withOutside outside).loseConnection := by
  unfold TcpServer.loseConnection
  rw [withOutside_conn_socket]
  cases current : self.connection.conn_socket with
  | none => exact ⟨outside, rfl, { mirrors with }⟩
  | some socket =>
      obtain ⟨closed, closedEq, mirrorsClosed⟩ :=
        mirrors.closeSocket socket
      simp only [closedEq, withOutside_replace_socket]
      cases waiting :
          (self.closeSocket socket).connection.replace_socket with
      | none =>
          apply Mirrors.receiveFrom
          exact
            { mirrorsClosed with
              currentSettled := nofun
              waitingSettled := nofun }
      | some replacement =>
          apply Mirrors.receiveFrom
          refine
            { mirrorsClosed with
              currentSettled := ?_
              waitingSettled := nofun }
          rintro _ ⟨⟩
          exact mirrorsClosed.waitingSettled replacement waiting

/-- A full header was needed, so it is the same in both buffers. -/
theorem Mirrors.sameBuffer
    (mirrors : Mirrors settled self outside)
    {socket : SocketId}
    {op : ReadOp}
    (reading : self.receiveLoop = .readHeader socket op)
    (full : op.got = Size) :
    outside.buffer = self.connection.conn_recv_buffer := by
  refine mirrors.sameBytes.eq fun index => ?_
  rcases Nat.lt_or_ge index Size with inHeader | behind
  · refine Or.inr ?_
    rw [reading]
    simpa [ReceiveLoopPc.stillNeeded, full] using inHeader
  · exact Or.inl behind

/-- `ReceiveFrom` behind an opened header. -/
def readBody (self : TcpServer) (payload_len : Nat) : TcpServer :=
  match self.connection.conn_socket with
  | none =>
      self.setFault .nullDereference
  | some socket =>
      { self with
        receiveLoop :=
          .readPayload socket
            (self.startRead socket Size payload_len) }

theorem resumeHeader_full
    (socket : SocketId)
    {bytes_read : Nat}
    (nonzero : bytes_read ≠ 0) :
    self.resumeHeader aead socket bytes_read none =
      let (header, payload_len) :=
        self.connection.protocol.DecryptHeader aead
          self.connection.conn_recv_buffer
      if payload_len = 0 then
        (self.setBuffer header).receiveFrom
      else
        (self.setBuffer header).readBody payload_len := by
  unfold TcpServer.resumeHeader
  simp only [Option.isSome_none, Bool.false_eq_true, if_false, nonzero]
  rfl

theorem Mirrors.readBody
    (mirrors : Mirrors settled self outside)
    (sameBuffer : outside.buffer = self.connection.conn_recv_buffer)
    (payload_len : Nat) :
    MirrorsAfter settled (self.readBody payload_len)
      ((self.withOutside outside).readBody payload_len) := by
  unfold TcpServer.readBody
  rw [withOutside_conn_socket]
  cases current : self.connection.conn_socket with
  | none =>
      exact ⟨outside, rfl, { mirrors with }⟩
  | some socket =>
      simp only [mirrors.startRead current]
      refine ⟨outside, rfl, { mirrors with sameBytes := ?_ }⟩
      intro index _
      rw [sameBuffer]

/-- `ReceiveFrom` after a header read, which failed or is full. -/
theorem Mirrors.resumeHeader
    (orderly : self.Orderly)
    (mirrors : Mirrors settled self outside)
    {socket : SocketId}
    {op : ReadOp}
    (reading : self.receiveLoop = .readHeader socket op)
    {error : Option ErrorCode}
    (completed : op.outcome = some error) :
    MirrorsAfter settled (self.resumeHeader aead socket op.got error)
      ((self.withOutside outside).resumeHeader aead socket
        op.got error) := by
  cases error with
  | some error =>
      have recorded := mirrors.record (.readFailed socket)
      unfold TcpServer.resumeHeader
      simp only [Option.isSome_some, if_true]
      rw [withOutside_record]
      generalize self.record (.readFailed socket) = failed
        at recorded ⊢
      by_cases stopped : failed.connection.stopped = true
      · have mirrored :
            (failed.withOutside outside).connection.stopped = true :=
          stopped
        rw [if_pos stopped, if_pos mirrored]
        exact recorded.returnFrom _ _
      · have mirrored :
            ¬ (failed.withOutside outside).connection.stopped = true :=
          stopped
        rw [if_neg stopped, if_neg mirrored]
        exact recorded.loseConnection
  | none =>
      have header := orderly.reading.header socket op reading
      have full : op.got = Size :=
        (header.full completed).trans header.want
      have nonzero : op.got ≠ 0 := by simp [full, Size]
      rw [resumeHeader_full socket nonzero,
        resumeHeader_full socket nonzero, withOutside_protocol,
        withOutside_conn_recv_buffer, mirrors.sameBuffer reading full]
      generalize
        self.connection.protocol.DecryptHeader aead
          self.connection.conn_recv_buffer = decrypted
      obtain ⟨opened, payload_len⟩ := decrypted
      have mirrorsOpened :
          Mirrors settled (self.setBuffer opened)
            { outside with buffer := opened } :=
        { mirrors with sameBytes := fun _ _ => rfl }
      by_cases empty : payload_len = 0
      · simp only [empty, if_true]
        exact mirrorsOpened.receiveFrom
      · simp only [empty, if_false]
        exact mirrorsOpened.readBody rfl payload_len

/-- `ReceiveFrom` decodes what its second read left in the buffer. -/
def decodeBody
    (aead : Aead 16)
    (self : TcpServer)
    (bytes_read : Nat)
    (error : Option ErrorCode) : TcpServer :=
  if bytes_read = 0 then
    self.receiveFrom
  else
    match self.connection.protocol.DecryptPayload aead
        self.connection.conn_recv_buffer with
    | none =>
        self.setFault .outOfBounds
    | some (protocol, header, accepted) =>
        let opened : TcpServer :=
          { self with
            connection :=
              { self.connection with
                protocol := protocol
                conn_recv_buffer := header } }
        if accepted then
          opened.returnFrom (PAYLOAD_LENGTH header) error
        else
          opened.receiveFrom

theorem Mirrors.decodeBody
    (mirrors : Mirrors settled self outside)
    {socket : SocketId}
    {op : ReadOp}
    (reading : self.receiveLoop = .readPayload socket op)
    (bytes_read : Nat)
    (error : Option ErrorCode) :
    MirrorsAfter settled (self.decodeBody aead bytes_read error)
      ((self.withOutside outside).decodeBody aead bytes_read error) := by
  have sameSlice {offset length : Nat}
      (needed :
        ∀ index, offset ≤ index → index < offset + length →
          index < 12 ∨ 28 ≤ index ∧ index < 48) :
      outside.buffer.slice offset length =
        self.connection.conn_recv_buffer.slice offset length := by
    refine mirrors.sameBytes.slice fun index starts ends => Or.inr ?_
    rw [reading]
    simpa [ReceiveLoopPc.stillNeeded] using needed index starts ends
  have sameLength :
      PAYLOAD_LENGTH outside.buffer =
        PAYLOAD_LENGTH self.connection.conn_recv_buffer :=
    congrArg ofWord32 (sameSlice fun _ _ _ => by omega)
  have sameCiphertext :
      payloadCiphertext outside.buffer =
        payloadCiphertext self.connection.conn_recv_buffer := by
    rw [payloadCiphertext, payloadCiphertext, sameLength]
    exact mirrors.sameBehind.slice fun _ behind _ => behind
  unfold TcpServer.decodeBody
  by_cases nothing : bytes_read = 0
  · simp only [nothing, if_true]
    exact mirrors.receiveFrom
  · simp only [nothing, if_false, withOutside_protocol,
      withOutside_conn_recv_buffer]
    rcases self.connection.protocol.DecryptPayload_congr aead
        (sameSlice fun _ _ _ => by omega)
        (sameSlice fun _ _ _ => by omega) sameLength sameCiphertext with
        ⟨protocol, plaintext, accepts, mirrored⟩ | ⟨rejects, mirrored⟩
    · -- the plaintext replaces the ciphertext in both buffers
      simp only [accepts, mirrored, if_true]
      have returnedLength :
          PAYLOAD_LENGTH (outside.buffer.overwrite Size plaintext) =
            PAYLOAD_LENGTH
              (self.connection.conn_recv_buffer.overwrite
                Size plaintext) := by
        rw [PAYLOAD_LENGTH, PAYLOAD_LENGTH,
          Buffer.slice_overwrite_disjoint _ (Or.inl (by simp [Size])),
          Buffer.slice_overwrite_disjoint _ (Or.inl (by simp [Size]))]
        exact sameLength
      rw [returnedLength]
      have mirrorsOpened :
          Mirrors settled
            { self with
              connection :=
                { self.connection with
                  protocol := protocol
                  conn_recv_buffer :=
                    self.connection.conn_recv_buffer.overwrite
                      Size plaintext } }
            { outside with
              buffer := outside.buffer.overwrite Size plaintext } :=
        { mirrors with
          sameBytes :=
            (mirrors.sameBytes.overwrite Size plaintext).mono
              fun _ visible => Or.inl visible }
      exact mirrorsOpened.returnFrom _ _
    · simp only [rejects, mirrored, Bool.false_eq_true, if_false]
      exact mirrors.receiveFrom

/-- `ReceiveFrom` after its second read, which may have failed half way. -/
theorem Mirrors.resumePayload
    (mirrors : Mirrors settled self outside)
    {socket : SocketId}
    {op : ReadOp}
    (reading : self.receiveLoop = .readPayload socket op)
    (bytes_read : Nat)
    (error : Option ErrorCode) :
    MirrorsAfter settled
      (self.resumePayload aead socket bytes_read error)
      ((self.withOutside outside).resumePayload aead socket
        bytes_read error) := by
  cases error with
  | some error =>
      have recorded := mirrors.record (.readFailed socket)
      exact recorded.decodeBody reading bytes_read (some error)
  | none => exact mirrors.decodeBody reading bytes_read none

end

end TcpServer

end Dsvpn
