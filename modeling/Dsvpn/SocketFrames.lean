import Dsvpn.ClientStream
import Dsvpn.TornFrames

namespace Dsvpn

open ProtocolHeader
open IpPacket

/-!
# What the server puts on each of its sockets

`SendTo` writes to whichever socket is the connection's when a packet comes
from the TUN device.  In every run each socket carries, in order, the frames
of the packets that came while it was selected; only the last may be missing
or torn, and only once the socket is not the selected one any more.
-/

namespace TcpServer

/-- The packet for the client that `SendTo` writes to the socket. -/
def packetsTo
    (socket : SocketId)
    (self : TcpServer) :
    TcpServerEvent → List OutgoingPacket
  | .sendTo packet draw =>
      if
          self.connection.selected = true ∧
            self.connection.conn_socket = some socket ∧
            self.addresses.admitsToClient packet = true then
        [⟨packet, draw⟩]
      else
        []
  | _ => []

/-- Every read from the TUN device brings a whole packet that fits. -/
def ReadsPackets : TcpServerEvent → Prop
  | .sendTo packet _ =>
      WholePacket packet ∧ packet.length ≤ MAX_BUFFSIZE
  | _ => True

instance (event : TcpServerEvent) : Decidable (ReadsPackets event) :=
  match event with
  | .sendTo _ _ => inferInstanceAs (Decidable (_ ∧ _))
  | .incoming | .resumeAccept | .disconnect _ | .arriveTry _ _
  | .failTry _ _ | .resumeTry _ | .arrive _ | .fail _ | .resume
  | .tunWritten _ | .writeSome _ | .writeError _ | .resumeSendTo
  | .close =>
      inferInstanceAs (Decidable True)

/--
How far the writes to the socket are with the frames of `packets`: through,
inside the last one, or given up.
-/
inductive WriteStage
    (aead : Aead 16)
    (key : List UInt8)
    (socket : SocketId)
    (packets : List OutgoingPacket)
    (server : TcpServer) : Prop where
  | through :
      (server.socket socket).written =
        wireBytes (sentFrames aead key packets) →
      (∀ frame sent outcome,
        server.sendLoop = .writing socket frame sent outcome →
        outcome = some none) →
      WriteStage aead key socket packets server
  | inside
      (earlier : List OutgoingPacket)
      (last : OutgoingPacket)
      (sent : Nat) :
      packets = earlier ++ [last] →
      server.sendLoop =
        .writing socket (frameBytes aead key last.bytes last.draw) sent
          none →
      sent < (frameBytes aead key last.bytes last.draw).length →
      (server.socket socket).written =
        wireBytes (sentFrames aead key earlier) ++
          (frameBytes aead key last.bytes last.draw).take sent →
      WriteStage aead key socket packets server
  | givenUp :
      (server.socket socket).written <+:
        wireBytes (sentFrames aead key packets) →
      server.Retired socket →
      WriteStage aead key socket packets server

/-- The socket in a run that has read `packets` for it. -/
structure Carries
    (aead : Aead 16)
    (key : List UInt8)
    (socket : SocketId)
    (packets : List OutgoingPacket)
    (server : TcpServer) : Prop where
  orderly : server.Orderly
  guard : server.PointerGuard
  placed : server.WriterPlaced
  sameKey : server.key = key
  sendable :
    ∀ packet ∈ packets, packet.Sendable ∧ Complete packet.bytes
  used : packets ≠ [] → server.tryReceive socket = .finished
  stage : WriteStage aead key socket packets server

section

variable
    {aead : Aead 16}
    {key : List UInt8}
    {socket : SocketId}
    {packets : List OutgoingPacket}
    {self next : TcpServer}

theorem wireBytes_sentFrames_append
    (earlier : List OutgoingPacket)
    (last : OutgoingPacket) :
    wireBytes (sentFrames aead key (earlier ++ [last])) =
      wireBytes (sentFrames aead key earlier) ++
        frameBytes aead key last.bytes last.draw := by
  rw [sentFrames, sentFrames, List.map_append, wireBytes_append]
  simp [wireBytes, WireFrame.sent]

/--
A packet for the client starts a write to the selected socket; every other
packet is dropped.
-/
theorem sendTo_packet
    (aead : Aead 16)
    (self : TcpServer)
    (packet : TunPacket)
    (draw : SendDraw)
    (fits : packet.bytes.length ≤ MAX_BUFFSIZE) :
    ∃ members,
      members.protocol.key = self.key ∧
        self.sendTo aead packet.bytes draw =
          if
              self.addresses.admitsToClient packet.bytes = true ∧
                self.connection.selected = true then
            match self.connection.conn_socket with
            | none =>
                self.setFault .nullDereference
            | some socket =>
                { self with
                  connection :=
                    { self.connection with toIConnection := members }
                  sendLoop :=
                    .writing socket
                      (frameBytes aead self.key packet.bytes draw) 0
                      (if (self.socket socket).is_open then
                        none
                      else
                        some (some .bad_descriptor)) }
          else
            { self with
              connection :=
                { self.connection with toIConnection := members } } := by
  obtain ⟨buffer, result, staged, encrypted, sameKey, _⟩ :=
    self.connection.toIConnection.readTun_encryptFrame aead packet.bytes
      draw fits
  obtain ⟨same, isSame, held⟩ := IConnection.readTun_staged staged
  obtain rfl : buffer = same :=
    congrArg IConnection.tun_recv_buffer isSame
  have decision :
      self.addresses.forwardsToClient buffer =
        self.addresses.admitsToClient packet.bytes :=
    self.addresses.forwardsToClient_tun held
  by_cases sends :
      self.addresses.admitsToClient packet.bytes = true ∧
        self.connection.selected = true
  · refine ⟨result, sameKey, ?_⟩
    rw [if_pos sends]
    unfold TcpServer.sendTo
    simp only [TCPConnection.readTun, staged, Option.bind_eq_bind,
      Option.bind_some, decision, sends.1, if_true, TCPConnection.SendTo,
      sends.2, TCPConnection.Send, encrypted]
    cases self.connection.conn_socket with
    | none => rfl
    | some socket => rfl
  · refine
      ⟨{ self.connection.toIConnection with tun_recv_buffer := buffer },
        rfl, ?_⟩
    rw [if_neg sends]
    unfold TcpServer.sendTo
    simp only [TCPConnection.readTun, staged, Option.bind_eq_bind,
      Option.bind_some, decision]
    by_cases admitted :
        self.addresses.admitsToClient packet.bytes = true
    · have unselected : self.connection.selected ≠ true :=
        fun selected => sends ⟨admitted, selected⟩
      simp only [admitted, if_true, TCPConnection.SendTo,
        if_neg unselected]
    · simp only [admitted, if_false, Bool.false_eq_true]

/-- Only a packet from the TUN device ends the wait for one. -/
theorem readTun_kept :
    KeptByReturning
      (fun next : TcpServer => next.sendLoop = .readTun) where
  setPointers := fun _ _ _ reading => reading
  finish := fun _ _ reading => reading
  wake := fun reading => reading
  abort := fun {server} target reading => by
    change server.sendLoop.abort target = .readTun
    rw [reading]
    rfl
  shut := fun _ reading => reading
  record := fun _ _ reading => reading
  nullDereference := fun reading => reading
  setReceiveLoop := fun _ _ reading => reading
  recordReturned := fun _ reading => reading
  endReceiveLoop := fun reading => reading

theorem step_readTun
    {event : TcpServerEvent}
    (reading : self.sendLoop = .readTun)
    (other : ∀ packet draw, event ≠ .sendTo packet draw)
    (performed : TcpServer.step aead self event = some next) :
    next.sendLoop = .readTun := by
  obtain ⟨_, transition⟩ := step_transition performed
  cases transition with
  | resumeTryHeader isReading _ =>
      exact readTun_kept.resumeTryHeader (by simp [isReading]) _ reading
        (fun _ => reading) fun _ _ => reading
  | resumeTryPayload isReading _ =>
      exact readTun_kept.resumeTryPayload (by simp [isReading]) _ _
        (fun reading => reading) reading fun _ _ _ => reading
  | wake => exact readTun_kept.receiveFrom reading
  | resumeHeader =>
      exact readTun_kept.resumeHeader _ _ _ reading fun _ _ => reading
  | resumePayload =>
      exact readTun_kept.resumePayload _ _ _ reading
        fun _ _ reading => reading
  | tunWritten failed =>
      cases failed with
      | false => exact readTun_kept.receiveFrom reading
      | true => exact reading
  | sendTo packet draw => exact (other packet draw rfl).elim
  | writeSome writing => simp [reading] at writing
  | writeError _ writing => simp [reading] at writing
  | resumeSendTo writing => simp [reading] at writing
  | close => exact readTun_kept.close reading
  | _ => exact reading

/-- A failing write leaves its part of a frame on a retired socket. -/
theorem WriteStage.interrupted
    {earlier : List OutgoingPacket}
    {last : OutgoingPacket}
    {frame : List UInt8}
    {sent : Nat}
    {error : ErrorCode}
    (placed : next.WriterPlaced)
    (failing :
      next.sendLoop = .writing socket frame sent (some (some error)))
    (written :
      (next.socket socket).written =
        wireBytes (sentFrames aead key earlier) ++
          (frameBytes aead key last.bytes last.draw).take sent) :
    WriteStage aead key socket (earlier ++ [last]) next := by
  refine .givenUp ?_
    { finished := placed.writerFinished _ _ _ _ failing
      notWaiting := placed.writerNotWaiting _ _ _ _ failing
      notWriting := by simp [failing]
      notCurrent := fun _ _ => ⟨_, _, _, failing⟩ }
  rw [written, wireBytes_sentFrames_append,
    List.prefix_append_right_inj]
  exact List.take_prefix _ _

theorem WriteStage.left
    (stage : WriteStage aead key socket packets self)
    (placed : next.WriterPlaced)
    (retires : self.Retired socket → next.Retired socket)
    (leaves : LeavesWrites self next) :
    WriteStage aead key socket packets next := by
  cases stage with
  | through written finished =>
      refine .through ((leaves.written socket).trans written) ?_
      intro frame sent outcome writing
      rcases leaves.sendLoop with same | ⟨_, _, _, _, before, after⟩
      · exact finished frame sent outcome (same.symm.trans writing)
      · rw [after] at writing
        obtain ⟨rfl, rfl, rfl, _⟩ := SendLoopPc.writing.inj writing
        cases finished _ _ _ before
  | inside earlier last sent isLast writing short written =>
      have sameWritten := (leaves.written socket).trans written
      rcases leaves.sendLoop with same | ⟨_, _, _, _, before, after⟩
      · exact .inside earlier last sent isLast (same.trans writing) short
          sameWritten
      · rw [before] at writing
        obtain ⟨rfl, rfl, rfl, _⟩ := SendLoopPc.writing.inj writing
        rw [isLast]
        exact .interrupted placed after sameWritten
  | givenUp part retired =>
      exact .givenUp ((leaves.written socket).symm ▸ part)
        (retires retired)

/-- The network takes bytes of the frame on the socket. -/
theorem WriteStage.wrote
    (stage : WriteStage aead key socket packets self)
    {frame : List UInt8}
    {sent length : Nat}
    (writing : self.sendLoop = .writing socket frame sent none)
    (room : sent + length ≤ frame.length) :
    WriteStage aead key socket packets
      (self.writeSome socket frame sent length) := by
  cases stage with
  | through _ finished => cases finished _ _ _ writing
  | givenUp _ retired => exact (retired.notWriting _ _ writing).elim
  | inside earlier last _ isLast before _ written =>
      rw [writing] at before
      obtain ⟨_, rfl, rfl, _⟩ := SendLoopPc.writing.inj before
      have sofar :
          ((self.writeSome socket
              (frameBytes aead key last.bytes last.draw) sent
              length).socket socket).written =
            wireBytes (sentFrames aead key earlier) ++
              (frameBytes aead key last.bytes last.draw).take
                (sent + length) := by
        simp [TcpServer.writeSome, written, List.take_add]
      by_cases full :
          sent + length =
            (frameBytes aead key last.bytes last.draw).length
      · refine .through ?_ ?_
        · rw [sofar, full, List.take_length, isLast,
            wireBytes_sentFrames_append]
        · intro _ _ outcome after
          obtain ⟨_, _, _, rfl⟩ := SendLoopPc.writing.inj after
          rw [if_pos full]
      · refine .inside earlier last (sent + length) isLast ?_
          (Nat.lt_of_le_of_ne room full) sofar
        simp only [TcpServer.writeSome, if_neg full]

/-- The writer works on another socket, or on none. -/
theorem WriteStage.elsewhere
    (stage : WriteStage aead key socket packets self)
    (retires : self.Retired socket → next.Retired socket)
    (written :
      (next.socket socket).written = (self.socket socket).written)
    (notInside :
      ∀ frame sent, self.sendLoop ≠ .writing socket frame sent none)
    (finished :
      ∀ frame sent outcome,
        next.sendLoop = .writing socket frame sent outcome →
        outcome = some none) :
    WriteStage aead key socket packets next := by
  cases stage with
  | through whole _ => exact .through (written.trans whole) finished
  | inside _ _ _ _ writing => exact (notInside _ _ writing).elim
  | givenUp part retired =>
      exact .givenUp (written.symm ▸ part) (retires retired)

/-- A new socket has nothing on it, and nothing has been read for it. -/
theorem Carries.accepted
    (carries : Carries aead key socket packets self)
    (retires : self.Retired socket → next.Retired socket)
    (same : next.sendLoop = self.sendLoop)
    (sockets :
      next.socket =
        Function.update self.socket self.accepted ⟨true, true, []⟩) :
    WriteStage aead key socket packets next := by
  have known (finished : self.tryReceive socket = .finished) :
      (next.socket socket).written = (self.socket socket).written := by
    have bound := carries.orderly.started socket (by simp [finished])
    rw [sockets, Function.update_of_ne (Nat.ne_of_lt bound)]
  cases carries.stage with
  | through written finished =>
      refine .through ?_ (same ▸ finished)
      by_cases none : packets = []
      · by_cases isNew : socket = self.accepted
        · simp [sockets, isNew, none, sentFrames, wireBytes]
        · rw [sockets, Function.update_of_ne isNew]
          exact written
      · exact (known (carries.used none)).trans written
  | inside earlier last sent isLast writing short written =>
      have finished :=
        carries.placed.writerFinished _ _ _ _ writing
      exact .inside earlier last sent isLast (same.trans writing) short
        ((known finished).trans written)
  | givenUp part retired =>
      exact .givenUp ((known retired.finished).symm ▸ part)
        (retires retired)

/-- Without a packet from the device the stage moves on by itself. -/
theorem Carries.moves
    {event : TcpServerEvent}
    (carries : Carries aead key socket packets self)
    (other : ∀ packet draw, event ≠ .sendTo packet draw)
    (performed : TcpServer.step aead self event = some next) :
    WriteStage aead key socket packets next := by
  have retires (retired : self.Retired socket) :=
    (retired.step carries.orderly carries.guard.toFlagsGuard performed).1
  cases step_sendLoop performed with
  | left leaves =>
      exact carries.stage.left
        (carries.placed.step carries.orderly performed) retires leaves
  | accepted same sockets => exact carries.accepted retires same sockets
  | started _ _ _ reading _ _ _ _ after _ =>
      have still := step_readTun reading other performed
      rw [after] at still
      cases still
  | wrote target frame sent length writing _ room same =>
      by_cases isTarget : socket = target
      · subst isTarget
        rw [same]
        exact carries.stage.wrote writing room
      · refine carries.stage.elsewhere retires ?_ ?_ ?_
        · simp [same, TcpServer.writeSome, isTarget]
        · intro _ _ before
          rw [writing] at before
          exact isTarget (SendLoopPc.writing.inj before).1.symm
        · intro _ _ _ after
          rw [same] at after
          exact (isTarget (SendLoopPc.writing.inj after).1.symm).elim
  | completed target frame sent writing after sockets =>
      refine carries.stage.elsewhere retires (by rw [sockets]) ?_ ?_
      · simp [writing]
      · simp [after]
  | failed target frame sent error writing after sockets _ =>
      refine carries.stage.elsewhere retires (by rw [sockets]) ?_ ?_
      · simp [writing]
      · simp [after]

/-- The write of the new packet begins, or fails on a closed socket. -/
theorem Carries.begins
    (carries : Carries aead key socket packets self)
    (reading : self.sendLoop = .readTun)
    (selected : self.connection.selected = true)
    (current : self.connection.conn_socket = some socket)
    (placed : next.WriterPlaced)
    (packet : OutgoingPacket)
    (same : next.socket = self.socket)
    (writing :
      next.sendLoop =
        .writing socket (frameBytes aead key packet.bytes packet.draw) 0
          (if (self.socket socket).is_open then
            none
          else
            some (some .bad_descriptor))) :
    WriteStage aead key socket (packets ++ [packet]) next := by
  have written :
      (next.socket socket).written =
        wireBytes (sentFrames aead key packets) ++
          (frameBytes aead key packet.bytes packet.draw).take 0 := by
    rw [List.take_zero, List.append_nil, same]
    cases carries.stage with
    | through written _ => exact written
    | inside _ _ _ _ before => simp [reading] at before
    | givenUp _ retired =>
        obtain ⟨_, _, _, failing⟩ := retired.notCurrent current selected
        simp [reading] at failing
  cases isOpen : (self.socket socket).is_open with
  | true =>
      rw [if_pos isOpen] at writing
      have nonempty :
          0 < (frameBytes aead key packet.bytes packet.draw).length := by
        rw [length_frameBytes]
        simp only [Size]
        omega
      exact .inside packets packet 0 rfl writing nonempty written
  | false =>
      rw [if_neg (by simp [isOpen])] at writing
      exact .interrupted placed writing written

theorem step_sendTo
    {packet : List UInt8}
    {draw : SendDraw}
    (performed :
      TcpServer.step aead self (.sendTo packet draw) = some next) :
    self.sendLoop = .readTun ∧ next = self.sendTo aead packet draw := by
  obtain ⟨_, transition⟩ := step_transition performed
  cases transition with
  | sendTo _ _ reading => exact ⟨reading, rfl⟩

/-- A packet that is not for this socket leaves it as it is. -/
theorem Carries.unaffected
    (carries : Carries aead key socket packets self)
    (retires : self.Retired socket → next.Retired socket)
    (reading : self.sendLoop = .readTun)
    {event : TcpServerEvent}
    (nothing : packetsTo socket self event = [])
    (sockets : next.socket = self.socket)
    (finished :
      ∀ frame sent outcome,
        next.sendLoop = .writing socket frame sent outcome →
        outcome = some none) :
    WriteStage aead key socket (packets ++ packetsTo socket self event)
      next := by
  rw [nothing, List.append_nil]
  exact carries.stage.elsewhere retires (by rw [sockets])
    (by simp [reading]) finished

theorem Carries.sendTo
    (carries : Carries aead key socket packets self)
    {packet : List UInt8}
    {draw : SendDraw}
    (allowed : ReadsPackets (.sendTo packet draw))
    (performed :
      TcpServer.step aead self (.sendTo packet draw) = some next) :
    WriteStage aead key socket
      (packets ++ packetsTo socket self (.sendTo packet draw)) next := by
  obtain ⟨whole, fits⟩ := allowed
  have placed := carries.placed.step carries.orderly performed
  have retires (retired : self.Retired socket) :=
    (retired.step carries.orderly carries.guard.toFlagsGuard performed).1
  obtain ⟨reading, sent⟩ := step_sendTo performed
  obtain ⟨members, _, does⟩ :=
    sendTo_packet aead self whole.tunPacket draw fits
  replace does := sent.trans does
  split at does
  · rename_i sends
    split at does
    · rename_i null
      subst does
      exact carries.unaffected retires reading (by simp [packetsTo, null])
        rfl (by simp [TcpServer.setFault, reading])
    · rename_i target current
      by_cases isTarget : target = socket
      · subst isTarget
        have new :
            packetsTo target self (.sendTo packet draw) =
              [⟨packet, draw⟩] :=
          if_pos ⟨sends.2, current, sends.1⟩
        rw [new]
        refine carries.begins reading sends.2 current placed
          ⟨packet, draw⟩ (by rw [does]) ?_
        rw [does, carries.sameKey]
        rfl
      · have nothing :
            packetsTo socket self (.sendTo packet draw) = [] :=
          if_neg fun isFor =>
            isTarget (Option.some.inj (current.symm.trans isFor.2.1))
        refine carries.unaffected retires reading nothing (by rw [does]) ?_
        intro _ _ _ after
        rw [does] at after
        exact (isTarget (SendLoopPc.writing.inj after).1).elim
  · rename_i drops
    have nothing : packetsTo socket self (.sendTo packet draw) = [] :=
      if_neg fun isFor => drops ⟨isFor.2.2, isFor.1⟩
    exact carries.unaffected retires reading nothing (by rw [does])
      (by simp [does, reading])

/-- Packets come only for the current socket, and they are sendable. -/
theorem packetsTo_mem
    {event : TcpServerEvent}
    {packet : OutgoingPacket}
    (allowed : ReadsPackets event)
    (member : packet ∈ packetsTo socket self event) :
    self.connection.conn_socket = some socket ∧
      packet.Sendable ∧
      Complete packet.bytes := by
  cases event with
  | sendTo bytes draw =>
      obtain ⟨whole, fits⟩ := allowed
      by_cases isFor :
          self.connection.selected = true ∧
            self.connection.conn_socket = some socket ∧
            self.addresses.admitsToClient bytes = true
      · rw [packetsTo, if_pos isFor] at member
        obtain rfl := List.mem_singleton.mp member
        have admitted :
            self.addresses.admitsToClient whole.tunPacket.bytes = true :=
          isFor.2.2
        exact ⟨isFor.2.1, ⟨whole.1, fits⟩,
          Server.complete_of_admitsToClient admitted⟩
      · rw [packetsTo, if_neg isFor] at member
        cases member
  | _ => cases member

theorem Carries.step
    {event : TcpServerEvent}
    (carries : Carries aead key socket packets self)
    (allowed : ReadsPackets event)
    (performed : TcpServer.step aead self event = some next) :
    Carries aead key socket (packets ++ packetsTo socket self event)
      next where
  orderly := carries.orderly.step performed
  guard := carries.guard.step performed
  placed := carries.placed.step carries.orderly performed
  sameKey := (step_key performed).trans carries.sameKey
  sendable := by
    intro packet member
    rcases List.mem_append.mp member with earlier | new
    · exact carries.sendable packet earlier
    · exact (packetsTo_mem allowed new).2
  used := by
    intro nonempty
    have keeps := step_keepsFinished carries.orderly performed
    apply keeps.finished socket
    by_cases none : packets = []
    · rw [none, List.nil_append] at nonempty
      obtain ⟨packet, member⟩ := List.exists_mem_of_ne_nil _ nonempty
      exact carries.orderly.currentFinished socket
        (packetsTo_mem allowed member).1
    · exact carries.used none
  stage := by
    by_cases isSend : ∃ packet draw, event = .sendTo packet draw
    · obtain ⟨packet, draw, rfl⟩ := isSend
      exact carries.sendTo allowed performed
    · have other : ∀ packet draw, event ≠ .sendTo packet draw :=
        fun packet draw same => isSend ⟨packet, draw, same⟩
      have nothing : packetsTo socket self event = [] := by
        cases event with
        | sendTo packet draw => exact (other packet draw rfl).elim
        | _ => rfl
      rw [nothing, List.append_nil]
      exact carries.moves other performed

theorem carries_of_run
    {conn_key : List UInt8}
    {addresses : Server}
    {events : List TcpServerEvent}
    (allowed : ∀ event ∈ events, ReadsPackets event)
    (reached :
      StepSystem.run (TcpServer.step aead)
          (TcpServer.create conn_key addresses) events =
        some next)
    (socket : SocketId) :
    Carries aead (AES256GCM.keyOf conn_key) socket
      (StepSystem.outputs (TcpServer.step aead) (packetsTo socket)
        (TcpServer.create conn_key addresses) events)
      next := by
  have initially :
      Carries aead (AES256GCM.keyOf conn_key) socket []
        (TcpServer.create conn_key addresses) :=
    { orderly := Orderly.create _ _
      guard := PointerGuard.create _ _
      placed := WriterPlaced.create _ _
      sameKey := rfl
      sendable := fun _ member => by cases member
      used := fun nonempty => (nonempty rfl).elim
      stage := .through rfl fun _ _ _ writing => by cases writing }
  let Invariant := Carries aead (AES256GCM.keyOf conn_key) socket
  have carries :
      Invariant
        ([] ++ StepSystem.outputs (TcpServer.step aead) (packetsTo socket)
          (TcpServer.create conn_key addresses) events)
        next := by
    refine StepSystem.run_invariant_outputs ?_ initially
      (StepSystem.along_of_forall allowed) reached
    intro past server event after carries allowed performed
    exact Carries.step carries allowed performed
  rwa [List.nil_append] at carries

/-- What is on a socket is a beginning of what was read for it. -/
theorem Carries.written_prefix
    (carries : Carries aead key socket packets self) :
    (self.socket socket).written <+:
      wireBytes (sentFrames aead key packets) := by
  cases carries.stage with
  | through written _ => exact written ▸ List.prefix_refl _
  | inside earlier last sent isLast _ _ written =>
      rw [written, isLast, wireBytes_sentFrames_append,
        List.prefix_append_right_inj]
      exact List.take_prefix _ _
  | givenUp part _ => exact part

/-- All of it is there on the selected socket between two packets. -/
theorem Carries.written_eq
    (carries : Carries aead key socket packets self)
    (selected : self.connection.selected = true)
    (current : self.connection.conn_socket = some socket)
    (reading : self.sendLoop = .readTun) :
    (self.socket socket).written =
      wireBytes (sentFrames aead key packets) := by
  cases carries.stage with
  | through written _ => exact written
  | inside _ _ _ _ writing => simp [reading] at writing
  | givenUp _ retired =>
      obtain ⟨_, _, _, failing⟩ := retired.notCurrent current selected
      simp [reading] at failing

end

end TcpServer

end Dsvpn
