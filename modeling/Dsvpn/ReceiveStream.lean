import Dsvpn.FrameStream
import Dsvpn.TcpReceiver

namespace Dsvpn

open ProtocolHeader

/-!
# The client reads a stream of frames

However the stream is cut into pieces, `Receive` consumes one frame for each
value it returns: the payload of an intact frame, or zero for an altered one.
-/

/-- What a call of `Receive` returns for a frame. -/
def WireFrame.delivery
    (aead : Aead 16)
    (key : List UInt8)
    (frame : WireFrame) : Returned :=
  if frame.PayloadIntact aead key then
    ⟨frame.payload.length, none, frame.payload⟩
  else
    ⟨0, none, []⟩

/-- The bytes an event brings. -/
def ReceiveEvent.bytes : ReceiveEvent → List UInt8
  | .arrive piece => piece
  | _ => []

/-- The stream is not broken off. -/
def ReceiveEvent.Regular : ReceiveEvent → Prop
  | .fail _ => False
  | _ => True

instance (event : ReceiveEvent) : Decidable event.Regular :=
  match event with
  | .call => isTrue trivial
  | .arrive _ => isTrue trivial
  | .fail _ => isFalse id
  | .resume => isTrue trivial

def ReceivePc.phase : ReceivePc → ReadPhase
  | .idle => .between
  | .readHeader op => .header op
  | .readPayload op => .payload op

namespace TcpReceiver

/--
The receiver has been given the bytes `past` of the frames, and has returned
once for each complete frame.
-/
structure Reads
    (aead : Aead 16)
    (key : List UInt8)
    (frames : List WireFrame)
    (past : List UInt8)
    (receiver : TcpReceiver) : Prop where
  noFault : receiver.fault = none
  sameKey : receiver.connection.protocol.key = key
  connected : receiver.connection.conn_socket ≠ none
  position :
    ∃ complete remaining,
      frames = complete ++ remaining ∧
        InStream receiver.connection.conn_recv_buffer
          receiver.pc.phase complete remaining past ∧
        receiver.returned = complete.map (WireFrame.delivery aead key)

section

variable
    {aead : Aead 16}
    {key : List UInt8}
    {frames : List WireFrame}
    {past : List UInt8}
    {self next : TcpReceiver}

theorem Reads.call
    (reads : Reads aead key frames past self)
    (idle : self.pc = .idle) :
    Reads aead key frames past self.Receive := by
  obtain ⟨complete, remaining, split, inStream, returned⟩ :=
    reads.position
  rw [idle] at inStream
  unfold Receive
  split
  · rename_i pointer
    exact (reads.connected pointer).elim
  · exact
      { noFault := reads.noFault
        sameKey := reads.sameKey
        connected := reads.connected
        position :=
          ⟨complete, remaining, split, inStream.startHeader, returned⟩ }

/-- A piece for the header read. -/
theorem Reads.arriveHeader
    (reads : Reads aead key frames past self)
    {op : ReadOp}
    (reading : self.pc = .readHeader op)
    {piece : List UInt8}
    (whole : past ++ piece <+: wireBytes frames)
    (arrived : self.arrive .readHeader op piece = some next) :
    Reads aead key frames (past ++ piece) next := by
  obtain ⟨complete, remaining, rfl, inStream, returned⟩ :=
    reads.position
  rw [reading] at inStream
  unfold arrive at arrived
  split at arrived
  · rename_i accepts
    obtain ⟨stored, received⟩ := inStream.receiveHeader accepts whole
    simp only [IConnection.receivePiece, stored, Option.bind_eq_bind,
      Option.bind_some, Option.some.injEq] at arrived
    subst next
    exact
      { noFault := reads.noFault
        sameKey := reads.sameKey
        connected := reads.connected
        position := ⟨complete, remaining, rfl, received, returned⟩ }
  · cases arrived

/-- A piece for the read of what follows the header. -/
theorem Reads.arrivePayload
    (intact : ∀ frame ∈ frames, frame.HeaderIntact aead key)
    (reads : Reads aead key frames past self)
    {op : ReadOp}
    (reading : self.pc = .readPayload op)
    {piece : List UInt8}
    (whole : past ++ piece <+: wireBytes frames)
    (arrived : self.arrive .readPayload op piece = some next) :
    Reads aead key frames (past ++ piece) next := by
  obtain ⟨complete, remaining, rfl, inStream, returned⟩ :=
    reads.position
  rw [reading] at inStream
  unfold arrive at arrived
  split at arrived
  · rename_i accepts
    have fits :
        ∀ frame ∈ remaining, frame.payload.length ≤ MAX_BUFFSIZE :=
      fun frame member =>
        (intact frame (List.mem_append_right _ member)).fits
    obtain ⟨stored, received⟩ :=
      inStream.receivePayload fits accepts whole
    simp only [IConnection.receivePiece, stored, Option.bind_eq_bind,
      Option.bind_some, Option.some.injEq] at arrived
    subst next
    exact
      { noFault := reads.noFault
        sameKey := reads.sameKey
        connected := reads.connected
        position := ⟨complete, remaining, rfl, received, returned⟩ }
  · cases arrived

/-- A complete header leads to the read of exactly what follows it. -/
theorem Reads.resumeHeader
    (correct : aead.Correct)
    (intact : ∀ frame ∈ frames, frame.HeaderIntact aead key)
    (reads : Reads aead key frames past self)
    {op : ReadOp}
    (reading : self.pc = .readHeader op)
    {error : Option ErrorCode}
    (completed : op.outcome = some error) :
    Reads aead key frames past
      (self.resumeHeader aead op.got error) := by
  obtain ⟨complete, remaining, rfl, inStream, returned⟩ :=
    reads.position
  rw [reading] at inStream
  have header : HeaderRead _ op remaining := inStream.reading
  obtain ⟨full, _⟩ := header.filling.outcome_eq_some completed
  have nonzero : op.got ≠ 0 := by
    rw [full, header.want]
    simp [Size]
  have sameKey := reads.sameKey
  obtain ⟨frame, later, _, opens, positive, opened⟩ :=
    inStream.completeHeader correct
      (fun frame member => by
        rw [sameKey]
        exact intact frame (List.mem_append_right _ member))
      full
  unfold TcpReceiver.resumeHeader
  rw [if_neg nonzero, if_neg reads.connected, opens]
  simp only [if_neg (Nat.ne_of_gt positive)]
  exact
    { noFault := reads.noFault
      sameKey := reads.sameKey
      connected := reads.connected
      position := ⟨complete, remaining, rfl, opened, returned⟩ }

/-- A complete frame is returned, and the next call starts behind it. -/
theorem Reads.resumePayload
    (correct : aead.Correct)
    (intact : ∀ frame ∈ frames, frame.HeaderIntact aead key)
    (rejected : ∀ frame ∈ frames, frame.AlterationRejected aead key)
    (reads : Reads aead key frames past self)
    {op : ReadOp}
    (reading : self.pc = .readPayload op)
    {error : Option ErrorCode}
    (completed : op.outcome = some error) :
    Reads aead key frames past
      (self.resumePayload aead op.got error) := by
  obtain ⟨complete, remaining, rfl, inStream, returned⟩ :=
    reads.position
  rw [reading] at inStream
  obtain ⟨frame, later, rfl, payload⟩ := inStream.reading
  obtain ⟨full, rfl⟩ := payload.filling.outcome_eq_some completed
  have sameKey := reads.sameKey
  have frameIntact :=
    intact frame (List.mem_append_right _ List.mem_cons_self)
  have nonzero : op.got ≠ 0 := by
    rw [full, payload.want]
    exact Nat.ne_of_gt frameIntact.bodyLength_pos
  obtain ⟨same, rest, split, boundary, decoded⟩ :=
    inStream.completePayload correct
      (fun frame member => by
        rw [sameKey]
        exact intact frame (List.mem_append_right _ member))
      (fun frame member => by
        rw [sameKey]
        exact rejected frame (List.mem_append_right _ member))
      full
  obtain ⟨rfl, rfl⟩ := List.cons.inj split
  rw [sameKey] at decoded
  unfold TcpReceiver.resumePayload
  rw [if_neg nonzero]
  split at decoded
  · rename_i payloadIntact
    obtain ⟨decrypted, length, packet⟩ := decoded
    simp only [decrypted]
    exact
      { noFault := reads.noFault
        sameKey := reads.sameKey
        connected := reads.connected
        position :=
          ⟨complete ++ [frame], later, by simp, boundary _, by
            simp only [finish, if_true, length, Int.toNat_natCast,
              packet]
            simp [returned, WireFrame.delivery, payloadIntact]⟩ }
  · rename_i altered
    simp only [decoded]
    exact
      { noFault := reads.noFault
        sameKey := reads.sameKey
        connected := reads.connected
        position :=
          ⟨complete ++ [frame], later, by simp, boundary _, by
            simp [finish, returned, WireFrame.delivery, altered]⟩ }

/-- Every event of an unbroken stream keeps the receiver in place. -/
theorem Reads.step
    (correct : aead.Correct)
    (intact : ∀ frame ∈ frames, frame.HeaderIntact aead key)
    (rejected : ∀ frame ∈ frames, frame.AlterationRejected aead key)
    {event : ReceiveEvent}
    (reads : Reads aead key frames past self)
    (regular : event.Regular)
    (whole : past ++ event.bytes <+: wireBytes frames)
    (performed : TcpReceiver.step aead self event = some next) :
    Reads aead key frames (past ++ event.bytes) next := by
  unfold TcpReceiver.step at performed
  rw [if_neg (by simp [reads.noFault])] at performed
  split at performed
  · rename_i idle
    obtain rfl := Option.some.inj performed
    simpa [ReceiveEvent.bytes] using reads.call idle
  · rename_i op piece reading
    exact reads.arriveHeader reading whole performed
  · rename_i op piece reading
    exact reads.arrivePayload intact reading whole performed
  · exact regular.elim
  · exact regular.elim
  · rename_i op reading
    obtain ⟨error, completed, rfl⟩ :=
      Option.map_eq_some_iff.mp performed
    simpa [ReceiveEvent.bytes] using
      reads.resumeHeader correct intact reading completed
  · rename_i op reading
    obtain ⟨error, completed, rfl⟩ :=
      Option.map_eq_some_iff.mp performed
    simpa [ReceiveEvent.bytes] using
      reads.resumePayload correct intact rejected reading completed
  · cases performed

/-- Some event brings the receiver closer to the end of the stream. -/
def Progresses
    (aead : Aead 16)
    (frames : List WireFrame)
    (past : List UInt8)
    (self : TcpReceiver) : Prop :=
  StepSystem.Progresses (TcpReceiver.step aead) ReceiveEvent.Regular
    ReceiveEvent.bytes (wireBytes frames)
    (fun past receiver => workLeft frames past receiver.pc.phase)
    past self

theorem progresses_silently
    {event : ReceiveEvent}
    (performed : TcpReceiver.step aead self event = some next)
    (sofar : past <+: wireBytes frames)
    (regular : event.Regular)
    (silent : event.bytes = [])
    (less : next.pc.phase.due < self.pc.phase.due) :
    Progresses aead frames past self := by
  refine ⟨event, next, regular, ?_, performed, ?_⟩
  · simpa [silent] using sofar
  · simp only [workLeft, silent, List.append_nil]
    omega

theorem progresses_arrive
    {op : ReadOp}
    {byte : UInt8}
    (pc : ReadOp → ReceivePc)
    (whole : past ++ [byte] <+: wireBytes frames)
    (accepts : op.Accepts [byte])
    (performed :
      TcpReceiver.step aead self (.arrive [byte]) =
        self.arrive pc op [byte]) :
    Progresses aead frames past self := by
  have arrives : ∃ next, self.arrive pc op [byte] = some next := by
    unfold arrive
    rw [if_pos accepts]
    split
    · exact ⟨_, rfl⟩
    · exact ⟨_, rfl⟩
  obtain ⟨next, arrived⟩ := arrives
  exact ⟨.arrive [byte], next, trivial, whole, performed.trans arrived,
    workLeft_arrive whole _ _⟩

/-- After a header, `Receive` has returned or reads what follows. -/
theorem resumeHeader_due
    (bytes_read : Nat)
    (error : Option ErrorCode) :
    (self.resumeHeader aead bytes_read error).pc.phase.due ≤ 1 := by
  unfold TcpReceiver.resumeHeader
  split
  · exact Nat.le_refl 1
  · split
    · exact Nat.le_refl 1
    · simp only
      split
      · exact Nat.le_refl 1
      · simp [ReceivePc.phase, ReadPhase.due, ReadOp.start]

/-- After a whole frame, `Receive` has returned. -/
theorem resumePayload_due
    {bytes_read : Nat}
    {error : Option ErrorCode}
    (noFault : (self.resumePayload aead bytes_read error).fault = none) :
    (self.resumePayload aead bytes_read error).pc.phase.due ≤ 1 := by
  unfold TcpReceiver.resumePayload at noFault ⊢
  split
  · exact Nat.le_refl 1
  · rename_i something
    rw [if_neg something] at noFault
    split at noFault
    · cases noFault
    · exact Nat.le_refl 1

/-- As long as bytes or a hand-over are due, some event leaves less to do. -/
theorem Reads.progresses
    (correct : aead.Correct)
    (intact : ∀ frame ∈ frames, frame.HeaderIntact aead key)
    (rejected : ∀ frame ∈ frames, frame.AlterationRejected aead key)
    (reads : Reads aead key frames past self)
    (sofar : past <+: wireBytes frames)
    (unfinished : ¬ (past = wireBytes frames ∧ self.pc.phase.Quiet)) :
    Progresses aead frames past self := by
  have running : ¬ self.fault.isSome := by simp [reads.noFault]
  obtain ⟨complete, remaining, split, inStream, _⟩ := reads.position
  cases reading : self.pc with
  | idle =>
      have performed :
          TcpReceiver.step aead self .call = some self.Receive := by
        simp [TcpReceiver.step, running, reading]
      obtain ⟨socket, set⟩ :=
        Option.ne_none_iff_exists'.mp reads.connected
      refine progresses_silently performed sofar trivial rfl ?_
      simp [Receive, set, reading, ReceivePc.phase, ReadPhase.due,
        ReadOp.start]
  | readHeader op =>
      rw [reading] at inStream unfinished
      have header : HeaderRead _ op remaining := inStream.reading
      cases outcome : op.outcome with
      | none =>
          rcases next_byte sofar with all | ⟨byte, whole⟩
          · exact (unfinished ⟨all, outcome⟩).elim
          · refine progresses_arrive .readHeader whole
              (header.filling.accepts_one outcome byte) ?_
            simp [TcpReceiver.step, running, reading]
      | some error =>
          have performed :
              TcpReceiver.step aead self .resume =
                some (self.resumeHeader aead op.got error) := by
            simp [TcpReceiver.step, running, reading, outcome]
          refine progresses_silently performed sofar trivial rfl ?_
          have waiting : self.pc.phase.due = 2 := by
            simp [reading, ReceivePc.phase, ReadPhase.due, outcome]
          rw [waiting]
          exact Nat.lt_succ_of_le (resumeHeader_due op.got error)
  | readPayload op =>
      rw [reading] at inStream unfinished
      obtain ⟨frame, later, _, payload⟩ := inStream.reading
      cases outcome : op.outcome with
      | none =>
          rcases next_byte sofar with all | ⟨byte, whole⟩
          · exact (unfinished ⟨all, outcome⟩).elim
          · refine progresses_arrive .readPayload whole
              (payload.filling.accepts_one outcome byte) ?_
            simp [TcpReceiver.step, running, reading]
      | some error =>
          have performed :
              TcpReceiver.step aead self .resume =
                some (self.resumePayload aead op.got error) := by
            simp [TcpReceiver.step, running, reading, outcome]
          have kept :=
            reads.resumePayload correct intact rejected reading outcome
          refine progresses_silently performed sofar trivial rfl ?_
          have waiting : self.pc.phase.due = 2 := by
            simp [reading, ReceivePc.phase, ReadPhase.due, outcome]
          rw [waiting]
          exact Nat.lt_succ_of_le (resumePayload_due kept.noFault)

/-- Wherever the receiver is, the rest of the stream can be read. -/
theorem Reads.exists_run
    (correct : aead.Correct)
    (intact : ∀ frame ∈ frames, frame.HeaderIntact aead key)
    (rejected : ∀ frame ∈ frames, frame.AlterationRejected aead key)
    (reads : Reads aead key frames past self)
    (sofar : past <+: wireBytes frames) :
    ∃ events final,
      (∀ event ∈ events, event.Regular) ∧
        StepSystem.run (TcpReceiver.step aead) self events = some final ∧
        past ++ events.flatMap ReceiveEvent.bytes = wireBytes frames ∧
        final.pc.phase.Quiet := by
  obtain ⟨events, final, regular, _, reached, all, quiet⟩ :=
    StepSystem.exists_run_of_progress
      (fun past receiver => workLeft frames past receiver.pc.phase)
      (fun reads regular whole performed =>
        reads.step correct intact rejected regular whole performed)
      (fun reads sofar unfinished =>
        reads.progresses correct intact rejected sofar unfinished)
      reads sofar
  exact ⟨events, final, regular, reached, all, quiet⟩

/-- Once everything has arrived and was handed over, every frame was read. -/
theorem Reads.returned_eq
    (intact : ∀ frame ∈ frames, frame.HeaderIntact aead key)
    (reads : Reads aead key frames (wireBytes frames) self)
    (quiet : self.pc.phase.Quiet) :
    self.returned = frames.map (WireFrame.delivery aead key) := by
  obtain ⟨complete, remaining, rfl, inStream, returned⟩ :=
    reads.position
  obtain rfl :=
    inStream.remaining_eq_nil
      (fun frame member =>
        intact frame (List.mem_append_right _ member))
      rfl quiet
  rw [List.append_nil]
  exact returned

/-- After every run on an unbroken stream, the receiver is in place. -/
theorem run_reads
    (correct : aead.Correct)
    (intact : ∀ frame ∈ frames, frame.HeaderIntact aead key)
    (rejected : ∀ frame ∈ frames, frame.AlterationRejected aead key)
    {connection : TCPConnection}
    (sameKey : connection.protocol.key = key)
    (connected : connection.conn_socket ≠ none)
    {events : List ReceiveEvent}
    (regular : ∀ event ∈ events, event.Regular)
    (whole : events.flatMap ReceiveEvent.bytes <+: wireBytes frames)
    {final : TcpReceiver}
    (reached :
      StepSystem.run (TcpReceiver.step aead) (create connection) events =
        some final) :
    Reads aead key frames (events.flatMap ReceiveEvent.bytes) final := by
  have initially : Reads aead key frames [] (create connection) :=
    { noFault := rfl
      sameKey := sameKey
      connected := connected
      position :=
        ⟨[], frames, rfl,
          { consumed := by simp [wireBytes, ReadPhase.held, create,
              ReceivePc.phase]
            reading := trivial },
          rfl⟩ }
  exact StepSystem.run_invariant_observing
    (fun reads regular whole performed =>
      reads.step correct intact rejected regular whole performed)
    initially (StepSystem.along_of_forall regular) whole reached

end

end TcpReceiver

end Dsvpn
