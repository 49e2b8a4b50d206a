import Dsvpn.Handlers
import Dsvpn.SendRun

namespace Dsvpn

open ProtocolHeader

/-!
# A client's frames up to its selection and behind it

A TCP client connects to a server that accepts no other connection, and sends
packets.  Its stream is read by two coroutines in turn: `tryReceive` reads the
first frame and selects the connection, and `ReceiveFrom` reads what follows.
-/

namespace WireFrame

/-- The frame as `Send` writes it. -/
def sent
    (aead : Aead 16)
    (key : List UInt8)
    (packet : List UInt8)
    (draw : SendDraw) : WireFrame where
  payload := packet
  draw := draw
  bytes := frameBytes aead key packet draw

variable
    {aead : Aead 16}
    {key packet : List UInt8}
    {draw : SendDraw}

theorem sent_headerIntact
    (nonempty : 1 ≤ packet.length)
    (fits : packet.length ≤ MAX_BUFFSIZE) :
    (sent aead key packet draw).HeaderIntact aead key where
  nonempty := nonempty
  fits := fits
  length := rfl
  nonceAndLenTag := rfl
  lengthFields := rfl

theorem sent_payloadIntact :
    (sent aead key packet draw).PayloadIntact aead key :=
  Prod.ext (frameBytes_ciphertext aead key packet draw)
    (frameBytes_payloadTag aead key packet draw)

end WireFrame

/-- One packet of the TUN device, with the draw of its `Send`. -/
structure OutgoingPacket where
  bytes : List UInt8
  draw : SendDraw

/-- The size of a packet that `Send` can send. -/
def OutgoingPacket.Sendable (packet : OutgoingPacket) : Prop :=
  1 ≤ packet.bytes.length ∧ packet.bytes.length ≤ MAX_BUFFSIZE

/-- What `ReceiveFrom` returns for a packet. -/
def OutgoingPacket.delivery (packet : OutgoingPacket) : Returned :=
  ⟨packet.bytes.length, none, packet.bytes⟩

/-- The frames that `Send` writes for the packets. -/
def sentFrames
    (aead : Aead 16)
    (key : List UInt8)
    (packets : List OutgoingPacket) : List WireFrame :=
  packets.map fun packet =>
    WireFrame.sent aead key packet.bytes packet.draw

/-- `Send` for one packet after the other; the bytes on the connection. -/
def TCPConnection.sendAll
    (aead : Aead 16)
    (self : TCPConnection) :
    List OutgoingPacket → Except Fault (TCPConnection × List UInt8)
  | [] =>
      .ok (self, [])
  | packet :: rest =>
      match self.readTun packet.bytes with
      | none =>
          .error .outOfBounds
      | some ready =>
          match ready.Send aead packet.bytes.length packet.draw with
          | .error fault =>
              .error fault
          | .ok (sent, _, frame) =>
              match sent.sendAll aead rest with
              | .error fault =>
                  .error fault
              | .ok (after, later) =>
                  .ok (after, frame ++ later)

section

variable
    {aead : Aead 16}
    {key : List UInt8}
    {packets : List OutgoingPacket}

theorem TCPConnection.sendAll_eq
    (aead : Aead 16)
    (sendable : ∀ packet ∈ packets, packet.Sendable)
    {self : TCPConnection}
    {socket : SocketId}
    (connected : self.conn_socket = some socket) :
    ∃ after,
      self.sendAll aead packets =
        .ok (after,
          wireBytes (sentFrames aead self.protocol.key packets)) := by
  induction packets generalizing self with
  | nil => exact ⟨self, rfl⟩
  | cons packet rest inductionHypothesis =>
      obtain ⟨buffer, result, staged, sends, sameKey, _⟩ :=
        self.Send_readTun aead packet.bytes packet.draw
          (sendable packet List.mem_cons_self).2 connected
      have stillConnected :
          ({ self with toIConnection := result } :
            TCPConnection).conn_socket = some socket :=
        connected
      obtain ⟨after, later⟩ :=
        inductionHypothesis
          (fun other member =>
            sendable other (List.mem_cons_of_mem _ member))
          stillConnected
      refine ⟨after, ?_⟩
      simp only [sendAll, staged, sends, later, sentFrames,
        List.map_cons, wireBytes_cons, sameKey]
      rfl

/-- Every frame arrives as it was sent. -/
theorem sentFrames_intact
    (sendable : ∀ packet ∈ packets, packet.Sendable) :
    ∀ frame ∈ sentFrames aead key packets,
      frame.HeaderIntact aead key ∧ frame.PayloadIntact aead key := by
  intro frame member
  obtain ⟨packet, inPackets, rfl⟩ := List.mem_map.mp member
  obtain ⟨nonempty, fits⟩ := sendable packet inPackets
  exact ⟨WireFrame.sent_headerIntact nonempty fits,
    WireFrame.sent_payloadIntact⟩

theorem delivered_sentFrames :
    TcpServer.delivered aead key (sentFrames aead key packets) =
      packets.map OutgoingPacket.delivery := by
  induction packets with
  | nil => rfl
  | cons packet rest inductionHypothesis =>
      have intact :
          (WireFrame.sent aead key packet.bytes
            packet.draw).PayloadIntact aead key :=
        WireFrame.sent_payloadIntact
      have split :
          TcpServer.delivered aead key
              (sentFrames aead key (packet :: rest)) =
            (WireFrame.sent aead key packet.bytes
                packet.draw).delivery aead key ::
              TcpServer.delivered aead key
                (sentFrames aead key rest) := by
        simp [TcpServer.delivered, sentFrames, intact]
      rw [split, inductionHypothesis, List.map_cons,
        WireFrame.delivery, if_pos intact]
      rfl

end

/-! ## The server's side -/

def TryReceivePc.phase : TryReceivePc → ReadPhase
  | .readHeader op => .header op
  | .readPayload op => .payload op
  | _ => .between

/-- The bytes of the client that an event brings. -/
def TcpServerEvent.clientBytes : TcpServerEvent → List UInt8
  | .arriveTry _ piece => piece
  | .arrive piece => piece
  | _ => []

namespace TcpServer

/--
The first connection is the only one; it stays until it is selected, it does
not break, and packets from the TUN device fit the scratch array.
-/
def onlyConnection
    (self : TcpServer)
    (event : TcpServerEvent) : Bool :=
  match event with
  | .resumeAccept => self.accepted == 0
  | .disconnect _ => self.connection.selected
  | .failTry _ _ => false
  | event => event.undisturbed

/-- No completed read waits to be handed over. -/
def Settled (self : TcpServer) : Prop :=
  (self.tryReceive 0).phase.Quiet ∧ self.receiveLoop.phase.Quiet

/--
Nothing is selected yet: the connection is still to come, or its handshake has
been given the bytes `past` of the frames.
-/
structure Unselected
    (key : List UInt8)
    (frames : List WireFrame)
    (past : List UInt8)
    (server : TcpServer) : Prop where
  noFault : server.fault = none
  sameKey : server.connection.protocol.key = key
  acceptorOpen : server.connection.tcp_acceptor_open = true
  unselected : server.connection.selected = false
  noSocket : server.connection.conn_socket = none
  waiting : server.receiveLoop = .waitSelected false
  noWrite : server.sendLoop = .readTun
  silent : server.packets = []
  strangers :
    ∀ socket, socket ≠ 0 → (server.tryReceive socket).phase = .between
  stage :
    (server.accepted = 0 ∧
        server.acceptor ≠ .ended ∧
        (server.tryReceive 0).phase = .between) ∨
      (server.accepted = 1 ∧
        (server.socket 0).is_open = true ∧
        (server.socket 0).connected = true ∧
        (server.tryReceive 0).phase ≠ .between)
  inStream :
    InStream server.connection.conn_recv_buffer
      (server.tryReceive 0).phase [] frames past

/--
The connection is still to be selected, or `ReceiveFrom` reads the frames
behind the first.
-/
inductive Starts
    (aead : Aead 16)
    (key : List UInt8)
    (frames : List WireFrame)
    (past : List UInt8)
    (server : TcpServer) : Prop where
  | unselected :
      Unselected key frames past server →
      Starts aead key frames past server
  | served
      (first : WireFrame)
      (later : List WireFrame)
      (rest : List UInt8) :
      frames = first :: later →
      past = first.bytes ++ rest →
      server.accepted = 1 →
      Delivers aead key 0 [] later rest server →
      Starts aead key frames past server

section

variable
    {aead : Aead 16}
    {key : List UInt8}
    {frames : List WireFrame}
    {past : List UInt8}
    {self next : TcpServer}

theorem phase_eq_between
    {pc : TryReceivePc}
    (idle : ∀ op, pc ≠ .readHeader op ∧ pc ≠ .readPayload op) :
    pc.phase = .between := by
  cases pc with
  | notStarted => rfl
  | finished => rfl
  | readHeader op => exact ((idle op).1 rfl).elim
  | readPayload op => exact ((idle op).2 rfl).elim

/-- Only the first connection is in its handshake. -/
theorem Unselected.active
    (unselected : Unselected key frames past self)
    {socket : SocketId}
    (reading : (self.tryReceive socket).phase ≠ .between) :
    socket = 0 ∧
      self.accepted = 1 ∧
      (self.socket 0).is_open = true ∧
      (self.socket 0).connected = true := by
  have isFirst : socket = 0 := by
    by_contra stranger
    exact reading (unselected.strangers socket stranger)
  subst isFirst
  rcases unselected.stage with
      ⟨_, _, idle⟩ | ⟨accepted, isOpen, connected, _⟩
  · exact (reading idle).elim
  · exact ⟨rfl, accepted, isOpen, connected⟩

/-- The handshake goes on, with other bytes in the buffer. -/
theorem Unselected.setTryReceive
    (unselected : Unselected key frames past self)
    {socket : SocketId}
    (reading : (self.tryReceive socket).phase ≠ .between)
    {pc : TryReceivePc}
    {buffer : PacketBuffer}
    {sofar : List UInt8}
    (goesOn : pc.phase ≠ .between)
    (inStream : InStream buffer pc.phase [] frames sofar) :
    Unselected key frames sofar
      (TcpServer.setTryReceive socket pc (self.setBuffer buffer)) := by
  obtain ⟨rfl, accepted, isOpen, connected⟩ := unselected.active reading
  exact
    { unselected with
      strangers := fun other stranger => by
        simp only [TcpServer.setTryReceive,
          Function.update_of_ne stranger]
        exact unselected.strangers other stranger
      stage := Or.inr ⟨accepted, isOpen, connected, by
        simpa [TcpServer.setTryReceive] using goesOn⟩
      inStream := by
        simp only [TcpServer.setTryReceive, Function.update_self]
        exact inStream }

theorem Unselected.sendTo
    (unselected : Unselected key frames past self)
    {packet : List UInt8}
    (fits : packet.length ≤ MAX_BUFFSIZE)
    (draw : SendDraw) :
    Unselected key frames past (self.sendTo aead packet draw) := by
  obtain ⟨buffer, _, staged, _⟩ :=
    self.connection.toIConnection.readTun_encryptFrame aead packet draw
      fits
  let ready : TCPConnection :=
    { self.connection with
      toIConnection :=
        { self.connection.toIConnection with
          tun_recv_buffer := buffer } }
  have isStaged : self.connection.readTun packet = some ready := by
    simp only [TCPConnection.readTun, staged]
    rfl
  have dropped :
      ready.SendTo aead packet.length draw = .ok (ready, none) :=
    if_neg (by simp [ready, unselected.unselected])
  unfold TcpServer.sendTo
  simp only [isStaged, dropped]
  split
  · exact { unselected with }
  · exact { unselected with }

/-- The connection comes. -/
theorem Unselected.resumeAccept
    (unselected : Unselected key frames past self)
    (first : self.accepted = 0) :
    Unselected key frames past self.resumeAccept := by
  have idle : (self.tryReceive 0).phase = .between := by
    rcases unselected.stage with ⟨_, _, idle⟩ | ⟨accepted, _⟩
    · exact idle
    · omega
  have inStream := unselected.inStream
  rw [idle] at inStream
  unfold TcpServer.resumeAccept
  rw [first]
  exact
    { unselected with
      strangers := fun other stranger => by
        simp only [Function.update_of_ne stranger]
        exact unselected.strangers other stranger
      stage := Or.inr (by simp [TryReceivePc.phase])
      inStream := by
        simpa [TryReceivePc.phase] using inStream.startHeader }

/-- A complete header leads to the read of exactly what follows it. -/
theorem Unselected.resumeTryHeader
    (correct : aead.Correct)
    (intact : ∀ frame ∈ frames, frame.HeaderIntact aead key)
    (unselected : Unselected key frames past self)
    {socket : SocketId}
    {op : ReadOp}
    {error : Option ErrorCode}
    (reading : self.tryReceive socket = .readHeader op)
    (completed : op.outcome = some error) :
    Unselected key frames past
        (self.resumeTryHeader aead socket op.got) ∧
      ∃ length,
        0 < length ∧
          (self.resumeTryHeader aead socket op.got).tryReceive 0 =
            .readPayload (ReadOp.start Size length) := by
  have isReading : (self.tryReceive socket).phase = .header op := by
    rw [reading]
    rfl
  have active : (self.tryReceive socket).phase ≠ .between := by
    rw [isReading]
    exact nofun
  obtain ⟨rfl, _, isOpen, _⟩ := unselected.active active
  have inStream := unselected.inStream
  rw [isReading] at inStream
  have header : HeaderRead _ op frames := inStream.reading
  obtain ⟨full, _⟩ := header.filling.outcome_eq_some completed
  have nonzero : op.got ≠ 0 := by
    rw [full, header.want]
    simp [Size]
  obtain ⟨frame, later, _, opens, positive, opened⟩ :=
    inStream.completeHeader correct
      (fun frame member => by
        rw [unselected.sameKey]
        exact intact frame member)
      full
  have resumed :
      self.resumeTryHeader aead 0 op.got =
        TcpServer.setTryReceive 0
          (.readPayload
            (ReadOp.start Size (bodyLength frame.payload frame.draw)))
          (self.setBuffer
            (self.connection.conn_recv_buffer.overwrite 44
              (lengthsOf frame.payload frame.draw))) := by
    unfold TcpServer.resumeTryHeader startRead
    simp only [nonzero, if_false, opens, Nat.ne_of_gt positive, isOpen,
      if_true]
    rfl
  rw [resumed]
  exact ⟨unselected.setTryReceive active nofun opened,
    _, positive, by simp [TcpServer.setTryReceive]⟩

/-- A choice while there is no current socket. -/
theorem choose_first
    {socket : SocketId}
    {authenticated : Bool}
    (unselected : self.connection.selected = false)
    (noSocket : self.connection.conn_socket = none) :
    self.choose socket authenticated =
      { self with
        connection :=
          { self.connection with
            selected := true
            conn_socket := some socket }
        tryReceive := Function.update self.tryReceive socket .finished
        receiveLoop := self.receiveLoop.wake
        log := self.log ++ [.chosen socket authenticated] } := by
  unfold choose
  simp only
  split
  · rename_i selected
    have isSelected : self.connection.selected = true := selected
    rw [unselected] at isSelected
    cases isSelected
  · simp only [record, noSocket, drop]

/-- The first frame is authentic, and selects the connection. -/
theorem Unselected.resumeTryPayload
    (correct : aead.Correct)
    (intact :
      ∀ frame ∈ frames,
        frame.HeaderIntact aead key ∧ frame.PayloadIntact aead key)
    (unselected : Unselected key frames past self)
    {socket : SocketId}
    {op : ReadOp}
    {error : Option ErrorCode}
    (reading : self.tryReceive socket = .readPayload op)
    (completed : op.outcome = some error) :
    Starts aead key frames past
        (self.resumeTryPayload aead socket op.got error) ∧
      (self.resumeTryPayload aead socket op.got
        error).connection.selected = true ∧
      (self.resumeTryPayload aead socket op.got
        error).receiveLoop.phase = .between := by
  have isReading : (self.tryReceive socket).phase = .payload op := by
    rw [reading]
    rfl
  have active : (self.tryReceive socket).phase ≠ .between := by
    rw [isReading]
    exact nofun
  obtain ⟨rfl, accepted, isOpen, connected⟩ := unselected.active active
  have inStream := unselected.inStream
  rw [isReading] at inStream
  obtain ⟨current, later, rfl, payload⟩ := inStream.reading
  obtain ⟨full, rfl⟩ := payload.filling.outcome_eq_some completed
  have nonzero : op.got ≠ 0 := by
    rw [full, payload.want]
    exact Nat.ne_of_gt
      (intact current List.mem_cons_self).1.bodyLength_pos
  obtain ⟨frame, rest, split, boundary, decoded⟩ :=
    inStream.completePayload correct
      (fun frame member => by
        rw [unselected.sameKey]
        exact (intact frame member).1)
      (fun frame member altered => by
        rw [unselected.sameKey] at altered
        exact (altered (intact frame member).2).elim)
      full
  obtain ⟨rfl, rfl⟩ := List.cons.inj split
  rw [unselected.sameKey,
    if_pos (intact current List.mem_cons_self).2] at decoded
  obtain ⟨decrypted, _, _⟩ := decoded
  let selectedServer : TcpServer :=
    { self with
      connection :=
        { (self.afterFrame current).connection with
          selected := true
          conn_socket := some 0 }
      tryReceive := Function.update self.tryReceive 0 .finished
      receiveLoop := .waitSelected true
      log := self.log ++ [.chosen 0 true] }
  have resumed :
      self.resumeTryPayload aead 0 op.got none = selectedServer := by
    unfold TcpServer.resumeTryPayload
    simp only [Option.isSome_none, Bool.false_eq_true, if_false,
      nonzero, decrypted]
    rw [if_pos ⟨unselected.acceptorOpen, connected⟩,
      choose_first (by exact unselected.unselected)
        (by exact unselected.noSocket)]
    simp only [unselected.waiting]
    rfl
  have serves : selectedServer.Serves key 0 :=
    { noFault := unselected.noFault
      sameKey := unselected.sameKey
      selected := rfl
      current := rfl
      ownerOpen := isOpen
      alone := fun socket op => by
        by_cases same : socket = 0
        · subst same
          simp [selectedServer]
        · have idle := unselected.strangers socket same
          simp only [selectedServer, Function.update_of_ne same]
          constructor
          · intro reads
            rw [reads] at idle
            cases idle
          · intro reads
            rw [reads] at idle
            cases idle
      looping := ⟨nofun, nofun⟩
      writes := fun _ _ _ _ writing => by
        have none : SendLoopPc.readTun = .writing _ _ _ _ :=
          unselected.noWrite.symm.trans writing
        cases none }
  have silent : selectedServer.packets = [] := by
    have earlier := unselected.silent
    simp only [packets] at earlier
    simp [packets, selectedServer, earlier, Action.returned?]
  have delivers :
      Delivers aead key 0 selectedServer.packets later []
        selectedServer :=
    Delivers.atBoundary serves (Or.inl rfl) later
  rw [silent] at delivers
  have consumed := (boundary self.connection.conn_recv_buffer).consumed
  rw [resumed]
  refine ⟨.served current later [] rfl ?_ accepted delivers, rfl, rfl⟩
  rw [consumed]
  simp [ReadPhase.held, wireBytes]

theorem accepted_kept (count : Nat) :
    KeptByReturning fun next => next.accepted = count where
  setPointers _ _ _ same := same
  finish _ _ same := same
  wake same := same
  abort _ same := same
  shut _ same := same
  record _ _ same := same
  nullDereference same := same
  setReceiveLoop _ _ same := same
  recordReturned _ same := same
  endReceiveLoop same := same

/-- Only the accept loop counts connections. -/
theorem step_accepted
    {event : TcpServerEvent}
    (other : event ≠ .resumeAccept)
    (performed : step aead self event = some next) :
    next.accepted = self.accepted := by
  have kept := accepted_kept self.accepted
  obtain ⟨_, transition⟩ := step_transition performed
  cases transition with
  | incoming _ => rfl
  | resumeAccept _ => exact (other rfl).elim
  | disconnect _ => rfl
  | arriveTryHeader _ _ _ => rfl
  | arriveTryPayload _ _ _ => rfl
  | arriveTryOutside _ _ _ => rfl
  | failTryHeader _ _ => rfl
  | failTryPayload _ _ => rfl
  | resumeTryHeader reading _ =>
      exact kept.resumeTryHeader (by rw [reading]; exact nofun) _ rfl
        (fun _ => rfl) (fun _ _ => rfl)
  | resumeTryPayload reading _ =>
      exact kept.resumeTryPayload (by rw [reading]; exact nofun) _ _
        (fun same => same) rfl (fun _ _ _ => rfl)
  | wake _ => exact kept.receiveFrom rfl
  | arriveHeader _ _ _ => rfl
  | arrivePayload _ _ _ => rfl
  | arriveOutside _ _ _ => rfl
  | failHeader _ _ => rfl
  | failPayload _ _ => rfl
  | resumeHeader _ _ =>
      exact kept.resumeHeader _ _ _ rfl (fun _ _ => rfl)
  | resumePayload _ _ =>
      exact kept.resumePayload _ _ _ rfl (fun _ _ same => same)
  | tunWritten failed _ =>
      split
      · rfl
      · exact kept.receiveFrom rfl
  | sendTo packet draw _ =>
      obtain ⟨_, _, _, changed, _⟩ :=
        sendTo_changes aead self packet draw
      rw [changed]
  | writeSome _ _ _ => rfl
  | writeError _ _ => rfl
  | resumeSendTo _ => exact kept.resumeSendTo _ _ rfl
  | close => exact kept.close rfl

/-- Once the connection is served, its bytes are for `ReceiveFrom` alone. -/
theorem Serves.clientBytes_eq
    {owner : SocketId}
    {event : TcpServerEvent}
    (serves : self.Serves key owner)
    (performed : step aead self event = some next) :
    event.clientBytes = event.bytes := by
  obtain ⟨_, transition⟩ := step_transition performed
  cases transition with
  | @arriveTryHeader socket op _ reading _ _ =>
      exact ((serves.alone socket op).1 reading).elim
  | @arriveTryPayload socket op _ reading _ _ =>
      exact ((serves.alone socket op).2 reading).elim
  | @arriveTryOutside socket op _ reading _ _ =>
      rcases reading with reading | reading
      · exact ((serves.alone socket op).1 reading).elim
      · exact ((serves.alone socket op).2 reading).elim
  | _ => rfl

theorem onlyConnection_undisturbed
    {event : TcpServerEvent}
    (allowed : self.onlyConnection event = true)
    (accepted : self.accepted = 1) :
    event.undisturbed = true ∧ event ≠ .resumeAccept := by
  cases event with
  | resumeAccept => simp [onlyConnection, accepted] at allowed
  | disconnect _ => exact ⟨rfl, nofun⟩
  | failTry _ _ => cases allowed
  | _ => exact ⟨allowed, nofun⟩

/-- The steps before the selection. -/
theorem Unselected.step
    (correct : aead.Correct)
    (intact :
      ∀ frame ∈ frames,
        frame.HeaderIntact aead key ∧ frame.PayloadIntact aead key)
    {event : TcpServerEvent}
    (unselected : Unselected key frames past self)
    (allowed : self.onlyConnection event = true)
    (whole : past ++ event.clientBytes <+: wireBytes frames)
    (performed : TcpServer.step aead self event = some next) :
    Starts aead key frames (past ++ event.clientBytes) next := by
  have headers :
      ∀ frame ∈ frames, frame.HeaderIntact aead key :=
    fun frame member => (intact frame member).1
  have waits {pc : ReceiveLoopPc} (reached : self.receiveLoop = pc) :
      pc = .waitSelected false :=
    reached.symm.trans unselected.waiting
  have notWriting
      {socket : SocketId} {frame : List UInt8} {sent : Nat}
      {outcome : Option (Option ErrorCode)} :
      self.sendLoop ≠ .writing socket frame sent outcome := by
    rw [unselected.noWrite]
    exact nofun
  obtain ⟨_, transition⟩ := step_transition performed
  cases transition with
  | incoming _ =>
      simp only [TcpServerEvent.clientBytes, List.append_nil]
      refine .unselected { unselected with stage := ?_ }
      rcases unselected.stage with ⟨none, _, idle⟩ | handshake
      · exact Or.inl ⟨none, nofun, idle⟩
      · exact Or.inr handshake
  | resumeAccept _ =>
      simp only [TcpServerEvent.clientBytes, List.append_nil]
      exact .unselected
        (unselected.resumeAccept (by simpa [onlyConnection] using allowed))
  | disconnect socket =>
      simp only [onlyConnection, unselected.unselected] at allowed
      cases allowed
  | arriveTryHeader reading accepts _ =>
      have inStream := unselected.inStream
      have active := unselected.active (by rw [reading]; exact nofun)
      obtain ⟨rfl, _⟩ := active
      rw [reading] at inStream
      exact .unselected
        (unselected.setTryReceive (by rw [reading]; exact nofun) nofun
          (inStream.receiveHeader accepts whole).2)
  | arriveTryPayload reading accepts _ =>
      have inStream := unselected.inStream
      have active := unselected.active (by rw [reading]; exact nofun)
      obtain ⟨rfl, _⟩ := active
      rw [reading] at inStream
      exact .unselected
        (unselected.setTryReceive (by rw [reading]; exact nofun) nofun
          (inStream.receivePayload
            (fun frame member => (headers frame member).fits)
            accepts whole).2)
  | arriveTryOutside reading accepts outside =>
      have inStream := unselected.inStream
      rcases reading with reading | reading
      · have active := unselected.active (by rw [reading]; exact nofun)
        obtain ⟨rfl, _⟩ := active
        rw [reading] at inStream
        have stored := (inStream.receiveHeader accepts whole).1
        have inside := (Buffer.store?_eq_some_iff.mp stored).1
        omega
      · have active := unselected.active (by rw [reading]; exact nofun)
        obtain ⟨rfl, _⟩ := active
        rw [reading] at inStream
        have stored :=
          (inStream.receivePayload
            (fun frame member => (headers frame member).fits)
            accepts whole).1
        have inside := (Buffer.store?_eq_some_iff.mp stored).1
        omega
  | failTryHeader _ _ => cases allowed
  | failTryPayload _ _ => cases allowed
  | resumeTryHeader reading completed =>
      simp only [TcpServerEvent.clientBytes, List.append_nil]
      exact .unselected
        (unselected.resumeTryHeader correct headers reading completed).1
  | resumeTryPayload reading completed =>
      simp only [TcpServerEvent.clientBytes, List.append_nil]
      exact (unselected.resumeTryPayload correct intact reading
        completed).1
  | wake waiting => cases waits waiting
  | arriveHeader reading _ _ => cases waits reading
  | arrivePayload reading _ _ => cases waits reading
  | arriveOutside reading _ _ =>
      rcases reading with reading | reading
      · cases waits reading
      · cases waits reading
  | failHeader _ _ => cases allowed
  | failPayload _ _ => cases allowed
  | resumeHeader reading _ => cases waits reading
  | resumePayload reading _ => cases waits reading
  | tunWritten _ writing => cases waits writing
  | sendTo packet draw _ =>
      simp only [TcpServerEvent.clientBytes, List.append_nil]
      exact .unselected
        (unselected.sendTo (of_decide_eq_true allowed) draw)
  | writeSome writing _ _ => exact (notWriting writing).elim
  | writeError _ _ => cases allowed
  | resumeSendTo writing => exact (notWriting writing).elim
  | close => cases allowed

/-- Every step, before and after the selection. -/
theorem Starts.step
    (correct : aead.Correct)
    (intact :
      ∀ frame ∈ frames,
        frame.HeaderIntact aead key ∧ frame.PayloadIntact aead key)
    {event : TcpServerEvent}
    (starts : Starts aead key frames past self)
    (allowed : self.onlyConnection event = true)
    (whole : past ++ event.clientBytes <+: wireBytes frames)
    (performed : TcpServer.step aead self event = some next) :
    Starts aead key frames (past ++ event.clientBytes) next := by
  cases starts with
  | unselected unselected =>
      exact unselected.step correct intact allowed whole performed
  | served first later rest split isPast accepted delivers =>
      subst split isPast
      obtain ⟨undisturbed, other⟩ :=
        onlyConnection_undisturbed allowed accepted
      rw [delivers.serves.clientBytes_eq performed] at whole ⊢
      have wholeRest : rest ++ event.bytes <+: wireBytes later := by
        rw [wireBytes_cons, List.append_assoc,
          List.prefix_append_right_inj] at whole
        exact whole
      have behind (frame : WireFrame) (member : frame ∈ later) :=
        intact frame (List.mem_cons_of_mem first member)
      exact .served first later (rest ++ event.bytes) rfl
        (List.append_assoc _ _ _)
        ((step_accepted other performed).trans accepted)
        (delivers.step correct
          (fun frame member => (behind frame member).1)
          (fun frame member altered =>
            (altered (behind frame member).2).elim)
          undisturbed wholeRest performed)

end

end TcpServer

end Dsvpn
