import Dsvpn.ConnSocket
import Dsvpn.ReceiveStream

namespace Dsvpn

open ProtocolHeader

/-!
# The server reads a stream of frames

`ReceiveFrom` on a selected socket, while no other connection is open.  The
TUN loop may send packets at the same time.
-/

def ReceiveLoopPc.phase : ReceiveLoopPc → ReadPhase
  | .readHeader _ op => .header op
  | .readPayload _ op => .payload op
  | _ => .between

/-- What a returned call of `ReceiveFrom` returned. -/
def Action.returned? : Action → Option Returned
  | .returned result => some result
  | _ => none

namespace TcpServerEvent

/-- The bytes that arrive for `ReceiveFrom`. -/
def bytes : TcpServerEvent → List UInt8
  | .arrive piece => piece
  | _ => []

/--
The selected connection and the TUN device work, no other connection is
accepted, and packets from the TUN device fit the scratch array.
-/
def undisturbed : TcpServerEvent → Bool
  | .resumeAccept => false
  | .fail _ => false
  | .writeError _ => false
  | .tunWritten failed => !failed
  | .sendTo packet _ => packet.length ≤ MAX_BUFFSIZE
  | .close => false
  | _ => true

end TcpServerEvent

namespace TcpServer

/-- The packets `ReceiveFrom` has returned so far. -/
def packets (self : TcpServer) : List Returned :=
  self.log.filterMap Action.returned?

/-- `owner` is selected and works, and no other connection is open. -/
structure Serves
    (key : List UInt8)
    (owner : SocketId)
    (server : TcpServer) : Prop where
  noFault : server.fault = none
  sameKey : server.connection.protocol.key = key
  selected : server.connection.selected = true
  current : server.connection.conn_socket = some owner
  ownerOpen : (server.socket owner).is_open = true
  alone :
    ∀ socket op,
      server.tryReceive socket ≠ .readHeader op ∧
        server.tryReceive socket ≠ .readPayload op
  looping :
    server.receiveLoop ≠ .ended ∧
      server.receiveLoop ≠ .waitSelected false
  writes :
    ∀ socket frame sent error,
      server.sendLoop ≠ .writing socket frame sent (some (some error))

/-- The packets the intact ones of the complete frames stand for. -/
def delivered
    (aead : Aead 16)
    (key : List UInt8)
    (complete : List WireFrame) : List Returned :=
  (complete.filter fun frame => frame.PayloadIntact aead key).map
    (WireFrame.delivery aead key)

/--
The receive loop has been given the bytes `past` of the frames, and has
returned the packets of the intact ones among the complete frames.
-/
structure Reads
    (aead : Aead 16)
    (key : List UInt8)
    (before : List Returned)
    (complete remaining : List WireFrame)
    (past : List UInt8)
    (server : TcpServer) : Prop where
  inStream :
    InStream server.connection.conn_recv_buffer
      server.receiveLoop.phase complete remaining past
  returned :
    server.packets = before ++ delivered aead key complete

section

variable
    {aead : Aead 16}
    {key : List UInt8}
    {owner : SocketId}
    {before : List Returned}
    {frames complete remaining : List WireFrame}
    {past : List UInt8}
    {self next : TcpServer}

@[simp] theorem delivered_append
    (frame : WireFrame) :
    delivered aead key (complete ++ [frame]) =
      delivered aead key complete ++
        if frame.PayloadIntact aead key then
          [frame.delivery aead key]
        else
          [] := by
  unfold delivered
  rw [List.filter_append, List.map_append]
  congr 1
  by_cases intact : frame.PayloadIntact aead key <;> simp [intact]

/-- The outer loop of `ReceiveFrom` goes on with the next header. -/
theorem Serves.receiveFrom_eq
    (serves : self.Serves key owner) :
    self.receiveFrom =
      { self with
        receiveLoop := .readHeader owner (ReadOp.start 0 Size) } := by
  unfold receiveFrom startRead
  simp only [serves.selected, if_true, serves.current,
    serves.ownerOpen]

theorem Serves.setReceiveLoop
    (serves : self.Serves key owner)
    {pc : ReceiveLoopPc}
    (notEnded : pc ≠ .ended)
    (notWaiting : pc ≠ .waitSelected false) :
    Serves key owner { self with receiveLoop := pc } :=
  { serves with looping := ⟨notEnded, notWaiting⟩ }

/-- A complete header leads to the read of exactly what follows it. -/
theorem Serves.resumeHeader_eq
    (serves : self.Serves key owner)
    (correct : aead.Correct)
    (intact : ∀ frame ∈ remaining, frame.HeaderIntact aead key)
    {op : ReadOp}
    (inStream :
      InStream self.connection.conn_recv_buffer (.header op)
        complete remaining past)
    {error : Option ErrorCode}
    (completed : op.outcome = some error)
    (socket : SocketId) :
    ∃ frame later,
      remaining = frame :: later ∧
        InStream
          (self.connection.conn_recv_buffer.overwrite 44
            (lengthsOf frame.payload frame.draw))
          (.payload
            (ReadOp.start Size (bodyLength frame.payload frame.draw)))
          complete remaining past ∧
        self.resumeHeader aead socket op.got error =
          { self with
            connection :=
              { self.connection with
                conn_recv_buffer :=
                  self.connection.conn_recv_buffer.overwrite 44
                    (lengthsOf frame.payload frame.draw) }
            receiveLoop :=
              .readPayload owner
                (ReadOp.start Size
                  (bodyLength frame.payload frame.draw)) } := by
  have header : HeaderRead _ op remaining := inStream.reading
  obtain ⟨full, rfl⟩ := header.filling.outcome_eq_some completed
  have nonzero : op.got ≠ 0 := by
    rw [full, header.want]
    simp [Size]
  obtain ⟨frame, later, split, opens, positive, opened⟩ :=
    inStream.completeHeader correct
      (fun frame member => by
        rw [serves.sameKey]
        exact intact frame member)
      full
  refine ⟨frame, later, split, opened, ?_⟩
  unfold resumeHeader startRead
  simp only [Option.isSome_none, Bool.false_eq_true, if_false,
    nonzero, opens, Nat.ne_of_gt positive, serves.current,
    serves.ownerOpen, if_true]

/-- The server after an intact frame, before `ReceiveFrom` returns. -/
def afterFrame (self : TcpServer) (frame : WireFrame) : TcpServer :=
  { self with
    connection :=
      { self.connection with
        protocol :=
          { self.connection.protocol with
            decryptedData :=
              self.connection.protocol.decryptedData.overwrite 0
                frame.payload }
        conn_recv_buffer :=
          self.connection.conn_recv_buffer.overwrite Size
            frame.payload } }

/--
A packet is returned: the receive loop writes it to the TUN device, or goes
on with the next header at once.
-/
theorem Serves.returnFrom_eq
    (serves : self.Serves key owner)
    (length : Nat) :
    ∃ pc log,
      (pc.phase = .between ∨
          pc.phase = .header (ReadOp.start 0 Size)) ∧
        (pc ≠ .ended ∧ pc ≠ .waitSelected false) ∧
        log.filterMap Action.returned? = [] ∧
        self.returnFrom length none =
          { self with
            receiveLoop := pc
            log :=
              self.log ++
                .returned ⟨length, none,
                    self.connection.conn_recv_buffer.slice
                      Size length⟩ ::
                  log } := by
  unfold returnFrom
  simp only [Option.isSome_none, Bool.false_eq_true, if_false,
    Int.toNat_natCast]
  rw [if_neg (by omega)]
  split
  · have recorded :
        (self.record (.returned ⟨length, none,
          self.connection.conn_recv_buffer.slice
            Size length⟩)).Serves key owner :=
      { serves with }
    refine ⟨.readHeader owner (ReadOp.start 0 Size), [],
      Or.inr rfl, by simp, rfl, ?_⟩
    rw [recorded.receiveFrom_eq]
    rfl
  · rename_i packet _
    refine ⟨.writeTun, [.tunWritten packet],
      Or.inl rfl, by simp, rfl, ?_⟩
    simp [record]

/-- A complete frame is returned, or skipped when it was altered. -/
theorem Serves.resumePayload_eq
    (serves : self.Serves key owner)
    (correct : aead.Correct)
    (intact : ∀ frame ∈ remaining, frame.HeaderIntact aead key)
    (rejected :
      ∀ frame ∈ remaining, frame.AlterationRejected aead key)
    {op : ReadOp}
    (inStream :
      InStream self.connection.conn_recv_buffer (.payload op)
        complete remaining past)
    {error : Option ErrorCode}
    (completed : op.outcome = some error)
    (socket : SocketId) :
    ∃ frame later,
      remaining = frame :: later ∧
        (∀ final : PacketBuffer,
          InStream final .between (complete ++ [frame]) later past) ∧
        if frame.PayloadIntact aead key then
          (self.afterFrame frame).connection.conn_recv_buffer.slice
              Size frame.payload.length =
            frame.payload ∧
          self.resumePayload aead socket op.got error =
            (self.afterFrame frame).returnFrom
              frame.payload.length none
        else
          self.resumePayload aead socket op.got error =
            self.receiveFrom := by
  obtain ⟨current, rest, rfl, payload⟩ := inStream.reading
  obtain ⟨full, rfl⟩ := payload.filling.outcome_eq_some completed
  have nonzero : op.got ≠ 0 := by
    rw [full, payload.want]
    exact Nat.ne_of_gt
      (intact current List.mem_cons_self).bodyLength_pos
  obtain ⟨frame, later, split, boundary, decoded⟩ :=
    inStream.completePayload correct
      (fun frame member => by
        rw [serves.sameKey]
        exact intact frame member)
      (fun frame member => by
        rw [serves.sameKey]
        exact rejected frame member)
      full
  rw [serves.sameKey] at decoded
  refine ⟨frame, later, split, boundary, ?_⟩
  by_cases payloadIntact : frame.PayloadIntact aead key
  · rw [if_pos payloadIntact] at decoded ⊢
    obtain ⟨decrypted, length, packet⟩ := decoded
    refine ⟨packet, ?_⟩
    unfold resumePayload
    simp only [Option.isSome_none, Bool.false_eq_true, if_false,
      nonzero, decrypted, if_true, length]
    rfl
  · rw [if_neg payloadIntact] at decoded ⊢
    unfold resumePayload
    simp only [Option.isSome_none, Bool.false_eq_true, if_false,
      nonzero, decoded]

/--
`owner` is served, and the receive loop is somewhere in the stream of frames.
-/
structure Delivers
    (aead : Aead 16)
    (key : List UInt8)
    (owner : SocketId)
    (before : List Returned)
    (frames : List WireFrame)
    (past : List UInt8)
    (server : TcpServer) : Prop where
  serves : Serves key owner server
  position :
    ∃ complete remaining,
      frames = complete ++ remaining ∧
        Reads aead key before complete remaining past server

/-- What leaves buffer, receive loop and log alone does not move the reader. -/
theorem Delivers.unmoved
    (delivers : Delivers aead key owner before frames past self)
    (serves : next.Serves key owner)
    (sameBuffer :
      next.connection.conn_recv_buffer =
        self.connection.conn_recv_buffer)
    (sameLoop : next.receiveLoop = self.receiveLoop)
    (sameLog : next.log = self.log) :
    Delivers aead key owner before frames past next where
  serves := serves
  position := by
    obtain ⟨complete, remaining, split, reads⟩ := delivers.position
    refine ⟨complete, remaining, split, ?_, ?_⟩
    · rw [sameBuffer, sameLoop]
      exact reads.inStream
    · rw [packets, sameLog]
      exact reads.returned

/-- The receive loop goes on at a frame boundary. -/
theorem Delivers.receiveFrom
    (delivers : Delivers aead key owner before frames past self)
    (boundary : self.receiveLoop.phase = .between) :
    Delivers aead key owner before frames past self.receiveFrom ∧
      self.receiveFrom.receiveLoop.phase.due = 0 := by
  obtain ⟨complete, remaining, split, reads⟩ := delivers.position
  rw [delivers.serves.receiveFrom_eq]
  refine ⟨?_, rfl⟩
  exact
    { serves := delivers.serves.setReceiveLoop
        (by simp) (by simp)
      position := by
        refine ⟨complete, remaining, split, ?_, reads.returned⟩
        have inStream := reads.inStream
        rw [boundary] at inStream
        exact inStream.startHeader }

/-- A piece for the header read. -/
theorem Delivers.arriveHeader
    (delivers : Delivers aead key owner before frames past self)
    {socket : SocketId}
    {op : ReadOp}
    (reading : self.receiveLoop = .readHeader socket op)
    {piece : List UInt8}
    (whole : past ++ piece <+: wireBytes frames)
    (accepts : op.Accepts piece) :
    Delivers aead key owner before frames (past ++ piece)
      (TcpServer.setReceiveLoop (.readHeader socket (op.receive piece))
        (self.setBuffer
          (self.connection.conn_recv_buffer.overwrite
            (op.offset + op.got) piece))) := by
  obtain ⟨complete, remaining, rfl, reads⟩ := delivers.position
  have inStream := reads.inStream
  rw [reading] at inStream
  obtain ⟨_, received⟩ := inStream.receiveHeader accepts whole
  exact
    { serves :=
        { delivers.serves with looping := ⟨by simp [
            TcpServer.setReceiveLoop], by simp [
            TcpServer.setReceiveLoop]⟩ }
      position :=
        ⟨complete, remaining, rfl, received, reads.returned⟩ }

/-- A piece for the read of what follows the header. -/
theorem Delivers.arrivePayload
    (intact : ∀ frame ∈ frames, frame.HeaderIntact aead key)
    (delivers : Delivers aead key owner before frames past self)
    {socket : SocketId}
    {op : ReadOp}
    (reading : self.receiveLoop = .readPayload socket op)
    {piece : List UInt8}
    (whole : past ++ piece <+: wireBytes frames)
    (accepts : op.Accepts piece) :
    Delivers aead key owner before frames (past ++ piece)
      (TcpServer.setReceiveLoop (.readPayload socket (op.receive piece))
        (self.setBuffer
          (self.connection.conn_recv_buffer.overwrite
            (op.offset + op.got) piece))) := by
  obtain ⟨complete, remaining, rfl, reads⟩ := delivers.position
  have inStream := reads.inStream
  rw [reading] at inStream
  have fits :
      ∀ frame ∈ remaining, frame.payload.length ≤ MAX_BUFFSIZE :=
    fun frame member =>
      (intact frame (List.mem_append_right _ member)).fits
  obtain ⟨_, received⟩ := inStream.receivePayload fits accepts whole
  exact
    { serves :=
        { delivers.serves with looping := ⟨by simp [
            TcpServer.setReceiveLoop], by simp [
            TcpServer.setReceiveLoop]⟩ }
      position :=
        ⟨complete, remaining, rfl, received, reads.returned⟩ }

/-- No piece of the stream leaves the buffer. -/
theorem Delivers.arriveInside
    (intact : ∀ frame ∈ frames, frame.HeaderIntact aead key)
    (delivers : Delivers aead key owner before frames past self)
    {socket : SocketId}
    {op : ReadOp}
    (reading :
      self.receiveLoop = .readHeader socket op ∨
        self.receiveLoop = .readPayload socket op)
    {piece : List UInt8}
    (accepts : op.Accepts piece) :
    op.offset + op.got + piece.length ≤ 2000 := by
  obtain ⟨complete, remaining, rfl, reads⟩ := delivers.position
  obtain ⟨_, _, room⟩ := accepts
  have inStream := reads.inStream
  rcases reading with reading | reading
  · rw [reading] at inStream
    have header : HeaderRead _ op remaining := inStream.reading
    rw [header.want] at room
    rw [header.offset]
    simp only [Size] at room
    omega
  · rw [reading] at inStream
    obtain ⟨frame, later, rfl, payload⟩ := inStream.reading
    have bound :=
      bodyLength_le frame.draw
        (intact frame (List.mem_append_right _ List.mem_cons_self)).fits
    rw [payload.want] at room
    rw [payload.offset]
    simp only [Size, MAX_BUFFSIZE] at *
    omega

/-- A complete header. -/
theorem Delivers.resumeHeader
    (correct : aead.Correct)
    (intact : ∀ frame ∈ frames, frame.HeaderIntact aead key)
    (delivers : Delivers aead key owner before frames past self)
    {socket : SocketId}
    {op : ReadOp}
    (reading : self.receiveLoop = .readHeader socket op)
    {error : Option ErrorCode}
    (completed : op.outcome = some error) :
    Delivers aead key owner before frames past
        (self.resumeHeader aead socket op.got error) ∧
      (self.resumeHeader aead socket op.got
        error).receiveLoop.phase.due ≤ 1 := by
  obtain ⟨complete, remaining, rfl, reads⟩ := delivers.position
  have inStream := reads.inStream
  rw [reading] at inStream
  obtain ⟨frame, later, _, opened, resumed⟩ :=
    delivers.serves.resumeHeader_eq correct
      (fun frame member =>
        intact frame (List.mem_append_right _ member))
      inStream completed socket
  rw [resumed]
  refine ⟨?_, Nat.zero_le 1⟩
  exact
    { serves := { delivers.serves with looping := by simp }
      position :=
        ⟨complete, remaining, rfl, opened, reads.returned⟩ }

/-- A complete frame is returned, or skipped when it was altered. -/
theorem Delivers.resumePayload
    (correct : aead.Correct)
    (intact : ∀ frame ∈ frames, frame.HeaderIntact aead key)
    (rejected : ∀ frame ∈ frames, frame.AlterationRejected aead key)
    (delivers : Delivers aead key owner before frames past self)
    {socket : SocketId}
    {op : ReadOp}
    (reading : self.receiveLoop = .readPayload socket op)
    {error : Option ErrorCode}
    (completed : op.outcome = some error) :
    Delivers aead key owner before frames past
        (self.resumePayload aead socket op.got error) ∧
      (self.resumePayload aead socket op.got
        error).receiveLoop.phase.due ≤ 1 := by
  obtain ⟨complete, remaining, rfl, reads⟩ := delivers.position
  have inStream := reads.inStream
  rw [reading] at inStream
  obtain ⟨frame, later, rfl, boundary, resumed⟩ :=
    delivers.serves.resumePayload_eq correct
      (fun frame member =>
        intact frame (List.mem_append_right _ member))
      (fun frame member =>
        rejected frame (List.mem_append_right _ member))
      inStream completed socket
  by_cases payloadIntact : frame.PayloadIntact aead key
  · rw [if_pos payloadIntact] at resumed
    obtain ⟨packet, resumed⟩ := resumed
    rw [resumed]
    have serves : (self.afterFrame frame).Serves key owner :=
      { delivers.serves with }
    obtain ⟨pc, log, quiet, loop, silent, returned⟩ :=
      serves.returnFrom_eq frame.payload.length
    rw [returned]
    refine ⟨⟨{ serves with looping := loop },
      complete ++ [frame], later, by simp, ?_, ?_⟩, ?_⟩
    · rcases quiet with between | start
      · simp only [between]
        exact boundary _
      · simp only [start]
        exact (boundary _).startHeader
    · have earlier := reads.returned
      simp only [packets] at earlier ⊢
      rw [List.filterMap_append, List.filterMap_cons, silent, packet]
      simp [afterFrame, earlier, payloadIntact, Action.returned?,
        WireFrame.delivery]
    · rcases quiet with between | start
      · simp [between, ReadPhase.due]
      · simp [start, ReadPhase.due, ReadOp.start]
  · rw [if_neg payloadIntact] at resumed
    rw [resumed, delivers.serves.receiveFrom_eq]
    refine ⟨?_, Nat.zero_le 1⟩
    exact
      { serves := delivers.serves.setReceiveLoop (by simp) (by simp)
        position :=
          ⟨complete ++ [frame], later, by simp,
            (boundary _).startHeader, by
              simpa [packets, payloadIntact] using reads.returned⟩ }

/--
The TUN loop sends a packet: it may start a write to `owner`, and leaves the
receive buffer alone.
-/
theorem Delivers.sendTo
    (delivers : Delivers aead key owner before frames past self)
    {packet : List UInt8}
    (fits : packet.length ≤ MAX_BUFFSIZE)
    (draw : SendDraw) :
    Delivers aead key owner before frames past
      (self.sendTo aead packet draw) := by
  have serves := delivers.serves
  obtain ⟨buffer, result, staged, sends, sameKey, sameBuffer⟩ :=
    self.connection.Send_readTun aead packet draw fits serves.current
  unfold TcpServer.sendTo
  simp only [staged]
  split
  · have sendsTo :=
      TCPConnection.SendTo_of_selected sends serves.selected
    simp only [sendsTo, serves.ownerOpen, if_true]
    refine delivers.unmoved ?_ sameBuffer rfl rfl
    exact
      { serves with
        sameKey := sameKey.trans serves.sameKey
        writes := fun _ _ _ _ writing => by
          simp at writing }
  · refine delivers.unmoved ?_ rfl rfl rfl
    exact { serves with }

/-- The write completes. -/
theorem Delivers.resumeSendTo
    (delivers : Delivers aead key owner before frames past self)
    {socket : SocketId}
    {frame : List UInt8}
    {sent : Nat}
    {error : Option ErrorCode}
    (writing : self.sendLoop = .writing socket frame sent (some error)) :
    Delivers aead key owner before frames past
      (self.resumeSendTo socket error) := by
  cases error with
  | some error =>
      exact (delivers.serves.writes socket frame sent error writing).elim
  | none =>
      unfold TcpServer.resumeSendTo
      simp only [Option.isSome_none, Bool.false_eq_true, if_false]
      refine delivers.unmoved ?_ rfl rfl rfl
      exact
        { delivers.serves with
          writes := fun _ _ _ _ isWriting => by cases isWriting }

/-- Every undisturbed step keeps the reader in the stream. -/
theorem Delivers.step
    (correct : aead.Correct)
    (intact : ∀ frame ∈ frames, frame.HeaderIntact aead key)
    (rejected : ∀ frame ∈ frames, frame.AlterationRejected aead key)
    {event : TcpServerEvent}
    (delivers : Delivers aead key owner before frames past self)
    (undisturbed : event.undisturbed = true)
    (whole : past ++ event.bytes <+: wireBytes frames)
    (performed : TcpServer.step aead self event = some next) :
    Delivers aead key owner before frames (past ++ event.bytes) next := by
  have serves := delivers.serves
  obtain ⟨_, transition⟩ := step_transition performed
  cases transition with
  | incoming _ =>
      simp only [TcpServerEvent.bytes, List.append_nil]
      exact delivers.unmoved { serves with } rfl rfl rfl
  | resumeAccept _ =>
      cases undisturbed
  | disconnect socket =>
      simp only [TcpServerEvent.bytes, List.append_nil]
      refine delivers.unmoved ?_ rfl rfl rfl
      refine { serves with ownerOpen := ?_ }
      by_cases same : owner = socket
      · subst same
        simpa using serves.ownerOpen
      · simpa [same] using serves.ownerOpen
  | @arriveTryHeader socket op piece reading _ _ =>
      exact ((serves.alone socket op).1 reading).elim
  | @arriveTryPayload socket op piece reading _ _ =>
      exact ((serves.alone socket op).2 reading).elim
  | @arriveTryOutside socket op piece reading _ _ =>
      rcases reading with reading | reading
      · exact ((serves.alone socket op).1 reading).elim
      · exact ((serves.alone socket op).2 reading).elim
  | @failTryHeader socket op _ reading =>
      exact ((serves.alone socket op).1 reading).elim
  | @failTryPayload socket op _ reading =>
      exact ((serves.alone socket op).2 reading).elim
  | @resumeTryHeader socket op _ reading _ =>
      exact ((serves.alone socket op).1 reading).elim
  | @resumeTryPayload socket op _ reading _ =>
      exact ((serves.alone socket op).2 reading).elim
  | wake waiting =>
      simp only [TcpServerEvent.bytes, List.append_nil]
      exact (delivers.receiveFrom (by rw [waiting]; rfl)).1
  | arriveHeader reading accepts _ =>
      exact delivers.arriveHeader reading whole accepts
  | arrivePayload reading accepts _ =>
      exact delivers.arrivePayload intact reading whole accepts
  | arriveOutside reading accepts outside =>
      have inside := delivers.arriveInside intact reading accepts
      omega
  | failHeader _ _ =>
      cases undisturbed
  | failPayload _ _ =>
      cases undisturbed
  | resumeHeader reading completed =>
      simp only [TcpServerEvent.bytes, List.append_nil]
      exact (delivers.resumeHeader correct intact reading completed).1
  | resumePayload reading completed =>
      simp only [TcpServerEvent.bytes, List.append_nil]
      exact (delivers.resumePayload correct intact rejected reading
        completed).1
  | tunWritten failed writing =>
      simp only [TcpServerEvent.bytes, List.append_nil]
      simp only [TcpServerEvent.undisturbed, Bool.not_eq_eq_eq_not,
        Bool.not_true] at undisturbed
      subst undisturbed
      exact (delivers.receiveFrom (by rw [writing]; rfl)).1
  | sendTo packet draw _ =>
      simp only [TcpServerEvent.bytes, List.append_nil]
      exact delivers.sendTo (of_decide_eq_true undisturbed) draw
  | @writeSome socket frame sent length _ _ _ =>
      simp only [TcpServerEvent.bytes, List.append_nil]
      refine delivers.unmoved ?_ rfl rfl rfl
      refine
        { serves with
          ownerOpen := ?_
          writes := fun _ _ _ _ isWriting => ?_ }
      · by_cases same : owner = socket
        · subst same
          simpa [writeSome] using serves.ownerOpen
        · simpa [writeSome, same] using serves.ownerOpen
      · simp only [writeSome, SendLoopPc.writing.injEq] at isWriting
        obtain ⟨_, _, _, outcome⟩ := isWriting
        split at outcome <;> cases outcome
  | writeError _ _ =>
      cases undisturbed
  | resumeSendTo writing =>
      simp only [TcpServerEvent.bytes, List.append_nil]
      exact delivers.resumeSendTo writing
  | close =>
      cases undisturbed

/-! ## The stream can always be read to its end -/

/-- Some event brings the receive loop closer to the end of the stream. -/
def Progresses
    (aead : Aead 16)
    (frames : List WireFrame)
    (past : List UInt8)
    (self : TcpServer) : Prop :=
  StepSystem.Progresses (TcpServer.step aead)
    (fun event => event.undisturbed = true)
    TcpServerEvent.bytes (wireBytes frames)
    (fun past server => workLeft frames past server.receiveLoop.phase)
    past self

theorem progresses_silently
    {event : TcpServerEvent}
    (performed : TcpServer.step aead self event = some next)
    (sofar : past <+: wireBytes frames)
    (undisturbed : event.undisturbed = true)
    (silent : event.bytes = [])
    (less :
      next.receiveLoop.phase.due < self.receiveLoop.phase.due) :
    Progresses aead frames past self := by
  refine ⟨event, next, undisturbed, ?_, performed, ?_⟩
  · simpa [silent] using sofar
  · simp only [workLeft, silent, List.append_nil]
    omega

theorem progresses_arrive
    {op : ReadOp}
    {byte : UInt8}
    (resumed : TcpServer → TcpServer)
    (whole : past ++ [byte] <+: wireBytes frames)
    (accepts : op.Accepts [byte])
    (performed :
      TcpServer.step aead self (.arrive [byte]) =
        self.receivePiece op [byte] resumed) :
    Progresses aead frames past self := by
  have arrives :
      ∃ next, self.receivePiece op [byte] resumed = some next := by
    unfold receivePiece
    rw [if_pos accepts]
    split
    · exact ⟨_, rfl⟩
    · exact ⟨_, rfl⟩
  obtain ⟨next, arrived⟩ := arrives
  exact ⟨.arrive [byte], next, rfl, whole, performed.trans arrived,
    workLeft_arrive whole _ _⟩

/-- As long as bytes or a hand-over are due, some event leaves less to do. -/
theorem Delivers.progresses
    (correct : aead.Correct)
    (intact : ∀ frame ∈ frames, frame.HeaderIntact aead key)
    (rejected : ∀ frame ∈ frames, frame.AlterationRejected aead key)
    (delivers : Delivers aead key owner before frames past self)
    (sofar : past <+: wireBytes frames)
    (unfinished :
      ¬ (past = wireBytes frames ∧ self.receiveLoop.phase.Quiet)) :
    Progresses aead frames past self := by
  have serves := delivers.serves
  have running : ¬ self.fault.isSome := by simp [serves.noFault]
  obtain ⟨complete, remaining, split, reads⟩ := delivers.position
  have inStream := reads.inStream
  cases reading : self.receiveLoop with
  | waitSelected woken =>
      cases woken with
      | false => exact (serves.looping.2 reading).elim
      | true =>
          have performed :
              TcpServer.step aead self .resume =
                some self.receiveFrom := by
            simp [TcpServer.step, running, stepReceiveLoop, reading]
          refine progresses_silently performed sofar rfl rfl ?_
          rw [(delivers.receiveFrom (by rw [reading]; rfl)).2, reading]
          exact Nat.zero_lt_one
  | writeTun =>
      have performed :
          TcpServer.step aead self (.tunWritten false) =
            some self.receiveFrom := by
        simp [TcpServer.step, running, stepReceiveLoop, reading]
      refine progresses_silently performed sofar rfl rfl ?_
      rw [(delivers.receiveFrom (by rw [reading]; rfl)).2, reading]
      exact Nat.zero_lt_one
  | ended =>
      exact (serves.looping.1 reading).elim
  | readHeader socket op =>
      rw [reading] at inStream unfinished
      have header : HeaderRead _ op remaining := inStream.reading
      cases outcome : op.outcome with
      | none =>
          rcases next_byte sofar with all | ⟨byte, whole⟩
          · exact (unfinished ⟨all, outcome⟩).elim
          · refine progresses_arrive
              (setReceiveLoop (.readHeader socket (op.receive [byte])))
              whole (header.filling.accepts_one outcome byte) ?_
            simp [TcpServer.step, running, stepReceiveLoop, reading]
      | some error =>
          have performed :
              TcpServer.step aead self .resume =
                some (self.resumeHeader aead socket op.got error) := by
            simp [TcpServer.step, running, stepReceiveLoop, reading,
              outcome]
          refine progresses_silently performed sofar rfl rfl ?_
          have waiting : self.receiveLoop.phase.due = 2 := by
            simp [reading, ReceiveLoopPc.phase, ReadPhase.due, outcome]
          rw [waiting]
          exact Nat.lt_succ_of_le
            (delivers.resumeHeader correct intact reading outcome).2
  | readPayload socket op =>
      rw [reading] at inStream unfinished
      obtain ⟨frame, later, _, payload⟩ := inStream.reading
      cases outcome : op.outcome with
      | none =>
          rcases next_byte sofar with all | ⟨byte, whole⟩
          · exact (unfinished ⟨all, outcome⟩).elim
          · refine progresses_arrive
              (setReceiveLoop (.readPayload socket (op.receive [byte])))
              whole (payload.filling.accepts_one outcome byte) ?_
            simp [TcpServer.step, running, stepReceiveLoop, reading]
      | some error =>
          have performed :
              TcpServer.step aead self .resume =
                some (self.resumePayload aead socket op.got error) := by
            simp [TcpServer.step, running, stepReceiveLoop, reading,
              outcome]
          refine progresses_silently performed sofar rfl rfl ?_
          have waiting : self.receiveLoop.phase.due = 2 := by
            simp [reading, ReceiveLoopPc.phase, ReadPhase.due, outcome]
          rw [waiting]
          exact Nat.lt_succ_of_le
            (delivers.resumePayload correct intact rejected reading
              outcome).2

/-- `ReceiveFrom` is about to read the header of the next frame. -/
def AtBoundary (self : TcpServer) : Prop :=
  self.receiveLoop.phase = .between ∨
    self.receiveLoop.phase = .header (ReadOp.start 0 Size)

theorem Delivers.atBoundary
    (serves : self.Serves key owner)
    (boundary : self.AtBoundary)
    (frames : List WireFrame) :
    Delivers aead key owner self.packets frames [] self where
  serves := serves
  position := by
    have between :
        InStream self.connection.conn_recv_buffer .between
          [] frames [] :=
      { consumed := by simp [wireBytes, ReadPhase.held]
        reading := trivial }
    refine ⟨[], frames, rfl, ?_, by simp [delivered]⟩
    rcases boundary with isBetween | isStart
    · rw [isBetween]
      exact between
    · rw [isStart]
      exact between.startHeader

/-- After every undisturbed run, the receive loop is somewhere in the stream. -/
theorem run_delivers
    (correct : aead.Correct)
    (intact : ∀ frame ∈ frames, frame.HeaderIntact aead key)
    (rejected : ∀ frame ∈ frames, frame.AlterationRejected aead key)
    (serves : self.Serves key owner)
    (boundary : self.AtBoundary)
    {events : List TcpServerEvent}
    (undisturbed : ∀ event ∈ events, event.undisturbed = true)
    (whole : events.flatMap TcpServerEvent.bytes <+: wireBytes frames)
    (reached :
      StepSystem.run (TcpServer.step aead) self events = some next) :
    Delivers aead key owner self.packets frames
      (events.flatMap TcpServerEvent.bytes) next :=
  StepSystem.run_invariant_observing
    (fun delivers undisturbed whole performed =>
      delivers.step correct intact rejected undisturbed whole performed)
    (Delivers.atBoundary serves boundary frames)
    (StepSystem.along_of_forall undisturbed) whole reached

/-- Wherever the receive loop is, the rest of the stream can be read. -/
theorem Delivers.exists_run
    (correct : aead.Correct)
    (intact : ∀ frame ∈ frames, frame.HeaderIntact aead key)
    (rejected : ∀ frame ∈ frames, frame.AlterationRejected aead key)
    (delivers : Delivers aead key owner before frames past self)
    (sofar : past <+: wireBytes frames) :
    ∃ events final,
      (∀ event ∈ events, event.undisturbed = true) ∧
        StepSystem.run (TcpServer.step aead) self events = some final ∧
        past ++ events.flatMap TcpServerEvent.bytes =
          wireBytes frames ∧
        final.receiveLoop.phase.Quiet := by
  obtain ⟨events, final, undisturbed, _, reached, all, quiet⟩ :=
    StepSystem.exists_run_of_progress
      (fun past server => workLeft frames past server.receiveLoop.phase)
      (fun delivers undisturbed whole performed =>
        delivers.step correct intact rejected undisturbed whole performed)
      (fun delivers sofar unfinished =>
        delivers.progresses correct intact rejected sofar unfinished)
      delivers sofar
  exact ⟨events, final, undisturbed, reached, all, quiet⟩

/-- Once everything has arrived and was handed over, every frame was read. -/
theorem Delivers.packets_eq
    (intact : ∀ frame ∈ frames, frame.HeaderIntact aead key)
    (delivers :
      Delivers aead key owner before frames (wireBytes frames) self)
    (quiet : self.receiveLoop.phase.Quiet) :
    self.packets = before ++ delivered aead key frames := by
  obtain ⟨complete, remaining, rfl, reads⟩ := delivers.position
  obtain rfl :=
    reads.inStream.remaining_eq_nil
      (fun frame member =>
        intact frame (List.mem_append_right _ member))
      rfl quiet
  rw [List.append_nil]
  exact reads.returned

end

end TcpServer

end Dsvpn
