import Dsvpn.AsyncRead
import Dsvpn.FrameCodec

namespace Dsvpn

open ProtocolHeader

/-!
# Frames in a byte stream

A stream of frames as the network delivers it, some of them altered where the
lengths do not depend on it.  A reader holds a part of one frame: either a
read of its header or a read of what follows is filling the buffer.  The
lemmas say what the protocol makes of a complete header and of a complete
frame; they serve every coroutine that reads frames.
-/

/-- A packet, its draw, and the bytes that arrive in place of its frame. -/
structure WireFrame where
  payload : List UInt8
  draw : SendDraw
  bytes : List UInt8

/-- The bytes of the frames, one after the other. -/
def wireBytes (frames : List WireFrame) : List UInt8 :=
  (frames.map WireFrame.bytes).flatten

namespace WireFrame

variable
    (aead : Aead 16)
    (key : List UInt8)

/--
The frame arrives with its length, its nonce, the tag of its lengths and its
two length fields as they were sent.
-/
structure HeaderIntact (frame : WireFrame) : Prop where
  nonempty : 1 ≤ frame.payload.length
  fits : frame.payload.length ≤ MAX_BUFFSIZE
  length :
    frame.bytes.length =
      (frameBytes aead key frame.payload frame.draw).length
  nonceAndLenTag :
    frame.bytes.take 28 =
      (frameBytes aead key frame.payload frame.draw).take 28
  lengthFields :
    (frame.bytes.drop 44).take 8 =
      ((frameBytes aead key frame.payload frame.draw).drop 44).take 8

instance (frame : WireFrame) :
    Decidable (frame.HeaderIntact aead key) :=
  decidable_of_iff
    (1 ≤ frame.payload.length ∧
      frame.payload.length ≤ MAX_BUFFSIZE ∧
      frame.bytes.length =
        (frameBytes aead key frame.payload frame.draw).length ∧
      frame.bytes.take 28 =
        (frameBytes aead key frame.payload frame.draw).take 28 ∧
      (frame.bytes.drop 44).take 8 =
        ((frameBytes aead key frame.payload frame.draw).drop 44).take 8)
    ⟨fun ⟨nonempty, fits, length, tag, fields⟩ =>
        ⟨nonempty, fits, length, tag, fields⟩,
      fun ⟨nonempty, fits, length, tag, fields⟩ =>
        ⟨nonempty, fits, length, tag, fields⟩⟩

/-- The payload tag that arrives. -/
def payloadTag (frame : WireFrame) : List UInt8 :=
  (frame.bytes.drop 28).take 16

/-- The payload ciphertext that arrives. -/
def ciphertext (frame : WireFrame) : List UInt8 :=
  (frame.bytes.drop Size).take frame.payload.length

/-- The payload tag and the payload ciphertext arrive as they were sent. -/
def PayloadIntact (frame : WireFrame) : Prop :=
  (frame.ciphertext, frame.payloadTag) =
    aead.encrypt key frame.draw.nonce frame.payload

instance (frame : WireFrame) :
    Decidable (frame.PayloadIntact aead key) :=
  inferInstanceAs (Decidable (_ = _))

/-- An altered payload tag or payload ciphertext does not authenticate. -/
def AlterationRejected (frame : WireFrame) : Prop :=
  ¬ frame.PayloadIntact aead key →
    aead.decrypt key frame.draw.nonce frame.ciphertext
        frame.payloadTag =
      none

instance (frame : WireFrame) :
    Decidable (frame.AlterationRejected aead key) :=
  inferInstanceAs (Decidable (_ → _))

end WireFrame

namespace WireFrame.HeaderIntact

variable
    {aead : Aead 16}
    {key : List UInt8}
    {frame : WireFrame}

theorem bytes_length
    (intact : frame.HeaderIntact aead key) :
    frame.bytes.length = Size + bodyLength frame.payload frame.draw :=
  intact.length.trans (length_frameBytes aead key _ _)

theorem bodyLength_pos
    (intact : frame.HeaderIntact aead key) :
    0 < bodyLength frame.payload frame.draw := by
  have nonempty := intact.nonempty
  unfold bodyLength
  omega

theorem nonce
    (intact : frame.HeaderIntact aead key) :
    frame.bytes.take 12 = frame.draw.nonce := by
  rw [← frameBytes_nonce aead key frame.payload frame.draw]
  have same := congrArg (List.take 12) intact.nonceAndLenTag
  rwa [List.take_take, List.take_take] at same

theorem lenTag
    (intact : frame.HeaderIntact aead key) :
    (frame.bytes.drop 12).take 16 =
      (aead.encrypt key frame.draw.nonce
        (lengthsOf frame.payload frame.draw)).2 := by
  rw [← frameBytes_lenTag aead key frame.payload frame.draw]
  have same := congrArg (List.drop 12) intact.nonceAndLenTag
  rwa [List.drop_take, List.drop_take] at same

theorem encryptedLengths
    (intact : frame.HeaderIntact aead key) :
    (frame.bytes.drop 44).take 8 =
      (aead.encrypt key frame.draw.nonce
        (lengthsOf frame.payload frame.draw)).1 :=
  intact.lengthFields.trans
    (frameBytes_lengthFields aead key frame.payload frame.draw)

end WireFrame.HeaderIntact

/--
The buffer holds the decrypted header of `frame`; its payload tag is the one
that arrived.
-/
structure OpenedHeaderOf
    (header : PacketBuffer)
    (frame : WireFrame) : Prop where
  nonce : NONCE header = frame.draw.nonce
  payloadTag : PAYLOAD_TAG header = frame.payloadTag
  length : PAYLOAD_LENGTH header = frame.payload.length

/-- Bytes written behind the header leave an opened header alone. -/
theorem OpenedHeaderOf.overwrite
    {header : PacketBuffer}
    {frame : WireFrame}
    (opened : OpenedHeaderOf header frame)
    {offset : Nat}
    (data : List UInt8)
    (behind : Size ≤ offset) :
    OpenedHeaderOf (header.overwrite offset data) frame := by
  simp only [Size] at behind
  exact
    { nonce := by
        rw [NONCE, Buffer.slice_overwrite_disjoint _ (Or.inl (by omega))]
        exact opened.nonce
      payloadTag := by
        rw [PAYLOAD_TAG,
          Buffer.slice_overwrite_disjoint _ (Or.inl (by omega))]
        exact opened.payloadTag
      length := by
        rw [PAYLOAD_LENGTH,
          Buffer.slice_overwrite_disjoint _ (Or.inl (by omega))]
        exact opened.length }

section Reader

variable
    {aead : Aead 16}
    {self : Protocol}
    {buffer : PacketBuffer}
    {frame : WireFrame}
    {rest : List UInt8}

/-- A complete header opens, and announces exactly what follows it. -/
theorem DecryptHeader_wire
    (correct : aead.Correct)
    (intact : frame.HeaderIntact aead self.key)
    (held : buffer.slice 0 Size = (frame.bytes ++ rest).take Size) :
    self.DecryptHeader aead buffer =
        (buffer.overwrite 44 (lengthsOf frame.payload frame.draw),
          bodyLength frame.payload frame.draw) ∧
      OpenedHeaderOf
        (buffer.overwrite 44 (lengthsOf frame.payload frame.draw))
        frame := by
  have length := intact.bytes_length
  have header : buffer.slice 0 Size = frame.bytes.take Size := by
    rw [held, List.take_append_of_le_length (by omega)]
  have nonce : NONCE buffer = frame.draw.nonce :=
    (Buffer.slice_of_prefix header (by simp [Size])).trans intact.nonce
  have lenTag : LEN_TAG buffer = _ :=
    (Buffer.slice_of_prefix header (by simp [Size])).trans intact.lenTag
  have lengths : lengthFields buffer = _ :=
    (Buffer.slice_of_prefix header (by simp [Size])).trans
      intact.encryptedLengths
  have payloadTag : PAYLOAD_TAG buffer = frame.payloadTag :=
    Buffer.slice_of_prefix header (by simp [Size])
  obtain ⟨openedLength, openedNonce, openedTag, _⟩ :=
    Protocol.openedHeader_fields buffer frame.draw intact.fits
  exact ⟨Protocol.DecryptHeader_frame correct nonce lenTag lengths
      intact.fits,
    { nonce := openedNonce.trans nonce
      payloadTag := openedTag.trans payloadTag
      length := openedLength }⟩

/--
Behind an opened header, an intact payload is decrypted in place; an altered
one is rejected, and changes nothing.
-/
theorem DecryptPayload_wire
    (correct : aead.Correct)
    (intact : frame.HeaderIntact aead self.key)
    (rejected : frame.AlterationRejected aead self.key)
    (opened : OpenedHeaderOf buffer frame)
    (held :
      buffer.slice Size (bodyLength frame.payload frame.draw) =
        ((frame.bytes ++ rest).drop Size).take
          (bodyLength frame.payload frame.draw)) :
    if frame.PayloadIntact aead self.key then
      self.DecryptPayload aead buffer =
          some
            ({ self with
                decryptedData :=
                  self.decryptedData.overwrite 0 frame.payload },
              buffer.overwrite Size frame.payload, true) ∧
        PAYLOAD_LENGTH (buffer.overwrite Size frame.payload) =
          frame.payload.length ∧
        (buffer.overwrite Size frame.payload).slice
            Size frame.payload.length =
          frame.payload
    else
      self.DecryptPayload aead buffer = some (self, buffer, false) := by
  have fits := intact.fits
  have length := intact.bytes_length
  have ciphertext : payloadCiphertext buffer = frame.ciphertext := by
    have part := congrArg (List.take frame.payload.length) held
    rw [List.take_take, List.drop_append_of_le_length (by omega),
      List.take_append_of_le_length (by
        rw [List.length_drop]
        simp only [bodyLength] at *
        omega)] at part
    have inBody :
        ((buffer.slice Size (bodyLength frame.payload frame.draw)).drop
            0).take frame.payload.length =
          buffer.slice (Size + 0) frame.payload.length :=
      Buffer.take_drop_slice buffer Size (by simp [bodyLength])
    rw [List.drop_zero, Nat.add_zero] at inBody
    have short :
        min frame.payload.length (bodyLength frame.payload frame.draw) =
          frame.payload.length := by
      simp [bodyLength]
    rw [short] at part
    rw [payloadCiphertext, opened.length, ← inBody, part]
    rfl
  have verdict :
      aead.decrypt self.key (NONCE buffer) (payloadCiphertext buffer)
          (PAYLOAD_TAG buffer) =
        aead.decrypt self.key frame.draw.nonce frame.ciphertext
          frame.payloadTag := by
    rw [opened.nonce, ciphertext, opened.payloadTag]
  split
  · rename_i payloadIntact
    have accepted :
        aead.decrypt self.key (NONCE buffer) (payloadCiphertext buffer)
            (PAYLOAD_TAG buffer) =
          some frame.payload := by
      obtain ⟨sameCiphertext, sameTag⟩ :=
        Prod.ext_iff.mp payloadIntact
      simp only at sameCiphertext sameTag
      rw [verdict, sameCiphertext, sameTag]
      exact correct _ _ _
    obtain ⟨_, decrypted⟩ := Protocol.DecryptPayload_accept
      (by rw [opened.length]; exact fits) accepted
    refine ⟨decrypted, ?_, ?_⟩
    · exact (PAYLOAD_LENGTH_overwrite _ _ (Nat.le_refl _)).trans
        opened.length
    · exact Buffer.slice_overwrite_same _ _ _ (by
        simp only [Size, MAX_BUFFSIZE] at *
        omega)
  · rename_i altered
    exact Protocol.DecryptPayload_reject
      (Or.inr (by rw [verdict]; exact rejected altered))

end Reader

/-- What a coroutine that reads frames is suspended in. -/
inductive ReadPhase where
  | between
  | header (op : ReadOp)
  | payload (op : ReadOp)
  deriving Repr, DecidableEq

/-- How many bytes of the current frame have been read. -/
def ReadPhase.held : ReadPhase → Nat
  | .between => 0
  | .header op => op.got
  | .payload op => Size + op.got

/-- No completed read waits to be handed over. -/
def ReadPhase.Quiet : ReadPhase → Prop
  | .between => True
  | .header op => op.outcome = none
  | .payload op => op.outcome = none

/-- How much the reader has to do before it waits for more bytes. -/
def ReadPhase.due : ReadPhase → Nat
  | .between => 1
  | .header op => if op.outcome = none then 0 else 2
  | .payload op => if op.outcome = none then 0 else 2

theorem ReadPhase.due_le (phase : ReadPhase) : phase.due ≤ 2 := by
  cases phase with
  | between => simp [due]
  | header op =>
      simp only [due]
      split <;> omega
  | payload op =>
      simp only [due]
      split <;> omega

/-- What is left to do: bytes to receive, and reads to hand over. -/
def workLeft
    (frames : List WireFrame)
    (past : List UInt8)
    (phase : ReadPhase) : Nat :=
  3 * ((wireBytes frames).length - past.length) + phase.due

/-- Every byte that arrives leaves less to do. -/
theorem workLeft_arrive
    {frames : List WireFrame}
    {past : List UInt8}
    {byte : UInt8}
    (whole : past ++ [byte] <+: wireBytes frames)
    (phase next : ReadPhase) :
    workLeft frames (past ++ [byte]) next <
      workLeft frames past phase := by
  have length := whole.length_le
  have due := next.due_le
  simp only [workLeft, List.length_append, List.length_singleton]
    at length ⊢
  omega

/-- A read of the header of the first of the remaining frames. -/
structure HeaderRead
    (buffer : PacketBuffer)
    (op : ReadOp)
    (remaining : List WireFrame) : Prop where
  offset : op.offset = 0
  want : op.want = Size
  filling : op.Filling buffer (wireBytes remaining)

/-- A read of what follows the header of `frame`. -/
structure PayloadRead
    (buffer : PacketBuffer)
    (op : ReadOp)
    (frame : WireFrame)
    (later : List WireFrame) : Prop where
  offset : op.offset = Size
  want : op.want = bodyLength frame.payload frame.draw
  filling : op.Filling buffer (wireBytes (frame :: later))
  opened : OpenedHeaderOf buffer frame

/--
A reader in `phase` has read the frames `complete` and a part of the first of
the `remaining` ones; `past` are all bytes it has been given.
-/
structure InStream
    (buffer : PacketBuffer)
    (phase : ReadPhase)
    (complete remaining : List WireFrame)
    (past : List UInt8) : Prop where
  consumed :
    past =
      wireBytes complete ++ (wireBytes remaining).take phase.held
  reading :
    match phase with
    | .between =>
        True
    | .header op =>
        HeaderRead buffer op remaining
    | .payload op =>
        ∃ frame later,
          remaining = frame :: later ∧
            PayloadRead buffer op frame later

@[simp] theorem wireBytes_append (first second : List WireFrame) :
    wireBytes (first ++ second) =
      wireBytes first ++ wireBytes second := by
  simp [wireBytes]

@[simp] theorem wireBytes_cons
    (frame : WireFrame)
    (later : List WireFrame) :
    wireBytes (frame :: later) = frame.bytes ++ wireBytes later := by
  simp [wireBytes]

/-- A stream of which a part has arrived is complete, or has a next byte. -/
theorem next_byte
    {past stream : List UInt8}
    (sofar : past <+: stream) :
    past = stream ∨ ∃ byte, past ++ [byte] <+: stream := by
  obtain ⟨rest, rfl⟩ := sofar
  cases rest with
  | nil => exact Or.inl (List.append_nil _).symm
  | cons byte later => exact Or.inr ⟨byte, later, by simp⟩

/-- What follows the bytes read so far is the next part of the stream. -/
theorem next_of_prefix
    {complete remaining : List WireFrame}
    {past piece : List UInt8}
    {held : Nat}
    (consumed :
      past = wireBytes complete ++ (wireBytes remaining).take held)
    (available : held ≤ (wireBytes remaining).length)
    (whole :
      past ++ piece <+: wireBytes (complete ++ remaining)) :
    piece <+: (wireBytes remaining).drop held ∧
      past ++ piece =
        wireBytes complete ++
          (wireBytes remaining).take (held + piece.length) := by
  have isNext : piece <+: (wireBytes remaining).drop held := by
    rw [consumed, wireBytes_append, List.append_assoc,
      List.prefix_append_right_inj] at whole
    have split := List.take_append_drop held (wireBytes remaining)
    rw [← split, List.take_append_of_le_length (by simp; omega),
      List.take_take, Nat.min_self,
      List.prefix_append_right_inj] at whole
    exact whole
  refine ⟨isNext, ?_⟩
  rw [consumed, List.append_assoc, List.take_add,
    ← List.prefix_iff_eq_take.mp isNext]

namespace InStream

variable
    {aead : Aead 16}
    {buffer : PacketBuffer}
    {op : ReadOp}
    {complete remaining : List WireFrame}
    {past piece : List UInt8}

/-- Between two frames the next header read can start. -/
theorem startHeader
    (inStream : InStream buffer .between complete remaining past) :
    InStream buffer (.header (ReadOp.start 0 Size))
      complete remaining past where
  consumed := inStream.consumed
  reading :=
    { offset := rfl
      want := rfl
      filling := ReadOp.Filling.start buffer (by simp [Size])
        (Nat.zero_le _) }

/-- A piece arrives for the header read. -/
theorem receiveHeader
    (inStream : InStream buffer (.header op) complete remaining past)
    (accepts : op.Accepts piece)
    (whole :
      past ++ piece <+: wireBytes (complete ++ remaining)) :
    buffer.store? (op.offset + op.got) piece =
        some (buffer.overwrite (op.offset + op.got) piece) ∧
      InStream (buffer.overwrite (op.offset + op.got) piece)
        (.header (op.receive piece)) complete remaining
        (past ++ piece) := by
  have header : HeaderRead buffer op remaining := inStream.reading
  have available := header.filling.available
  rw [header.offset, Nat.zero_add] at available
  obtain ⟨isNext, sofar⟩ :=
    next_of_prefix inStream.consumed available whole
  obtain ⟨stored, filling⟩ := header.filling.receive accepts
    (by rw [header.offset, Nat.zero_add]; exact isNext)
    (by rw [header.offset, header.want]; simp [Size])
  exact ⟨stored,
    { consumed := sofar
      reading :=
        { offset := header.offset
          want := header.want
          filling := filling } }⟩

/-- A piece arrives for the read of what follows the header. -/
theorem receivePayload
    (intact : ∀ frame ∈ remaining,
      frame.payload.length ≤ MAX_BUFFSIZE)
    (inStream : InStream buffer (.payload op) complete remaining past)
    (accepts : op.Accepts piece)
    (whole :
      past ++ piece <+: wireBytes (complete ++ remaining)) :
    buffer.store? (op.offset + op.got) piece =
        some (buffer.overwrite (op.offset + op.got) piece) ∧
      InStream (buffer.overwrite (op.offset + op.got) piece)
        (.payload (op.receive piece)) complete remaining
        (past ++ piece) := by
  obtain ⟨frame, later, rfl, payload⟩ := inStream.reading
  have available := payload.filling.available
  rw [payload.offset] at available
  obtain ⟨isNext, sofar⟩ :=
    next_of_prefix inStream.consumed available whole
  have bound :=
    bodyLength_le frame.draw (intact frame List.mem_cons_self)
  obtain ⟨stored, filling⟩ := payload.filling.receive accepts
    (by rw [payload.offset]; exact isNext)
    (by
      rw [payload.offset, payload.want]
      simp only [Size, MAX_BUFFSIZE] at *
      omega)
  refine ⟨stored,
    { consumed := ?_
      reading :=
        ⟨frame, later, rfl,
          { offset := payload.offset
            want := payload.want
            filling := filling
            opened := payload.opened.overwrite piece (by
              rw [payload.offset]
              omega) }⟩ }⟩
  rw [sofar]
  simp only [ReadPhase.held, ReadOp.receive, Nat.add_assoc]

/--
A complete header belongs to a frame, opens, and announces exactly what
follows it in the stream.
-/
theorem completeHeader
    (correct : aead.Correct)
    {self : Protocol}
    (intact :
      ∀ frame ∈ remaining, frame.HeaderIntact aead self.key)
    (inStream : InStream buffer (.header op) complete remaining past)
    (full : op.got = op.want) :
    ∃ frame later,
      remaining = frame :: later ∧
        self.DecryptHeader aead buffer =
          (buffer.overwrite 44 (lengthsOf frame.payload frame.draw),
            bodyLength frame.payload frame.draw) ∧
        0 < bodyLength frame.payload frame.draw ∧
        InStream
          (buffer.overwrite 44 (lengthsOf frame.payload frame.draw))
          (.payload
            (ReadOp.start Size (bodyLength frame.payload frame.draw)))
          complete remaining past := by
  have header : HeaderRead buffer op remaining := inStream.reading
  have got : op.got = Size := full.trans header.want
  have available := header.filling.available
  rw [header.offset, got] at available
  cases remaining with
  | nil =>
      simp [wireBytes, Size] at available
  | cons frame later =>
      have frameIntact := intact frame List.mem_cons_self
      have held := header.filling.held
      rw [header.offset, got, List.drop_zero, wireBytes_cons] at held
      obtain ⟨opens, opened⟩ :=
        DecryptHeader_wire correct frameIntact held
      have positive := frameIntact.bodyLength_pos
      refine ⟨frame, later, rfl, opens, positive, ?_⟩
      have consumed := inStream.consumed
      simp only [ReadPhase.held, got] at consumed
      exact
        { consumed := consumed
          reading :=
            ⟨frame, later, rfl,
              { offset := rfl
                want := rfl
                filling := ReadOp.Filling.start _ positive
                  (by simpa using available)
                opened := opened }⟩ }

/--
A complete frame is decoded to its payload, or rejected when it was altered;
either way the reader is at the boundary to the next frame.
-/
theorem completePayload
    (correct : aead.Correct)
    {self : Protocol}
    (intact :
      ∀ frame ∈ remaining, frame.HeaderIntact aead self.key)
    (rejected :
      ∀ frame ∈ remaining, frame.AlterationRejected aead self.key)
    (inStream : InStream buffer (.payload op) complete remaining past)
    (full : op.got = op.want) :
    ∃ frame later,
      remaining = frame :: later ∧
        (∀ final : PacketBuffer,
          InStream final .between (complete ++ [frame]) later past) ∧
        if frame.PayloadIntact aead self.key then
          self.DecryptPayload aead buffer =
              some
                ({ self with
                    decryptedData :=
                      self.decryptedData.overwrite 0 frame.payload },
                  buffer.overwrite Size frame.payload, true) ∧
            PAYLOAD_LENGTH (buffer.overwrite Size frame.payload) =
              frame.payload.length ∧
            (buffer.overwrite Size frame.payload).slice
                Size frame.payload.length =
              frame.payload
        else
          self.DecryptPayload aead buffer =
            some (self, buffer, false) := by
  obtain ⟨frame, later, rfl, payload⟩ := inStream.reading
  have frameIntact := intact frame List.mem_cons_self
  have got : op.got = bodyLength frame.payload frame.draw :=
    full.trans payload.want
  have held := payload.filling.held
  rw [payload.offset, got, wireBytes_cons] at held
  refine ⟨frame, later, rfl, ?_,
    DecryptPayload_wire correct frameIntact
      (rejected frame List.mem_cons_self) payload.opened held⟩
  intro final
  have consumed := inStream.consumed
  rw [ReadPhase.held, got, ← frameIntact.bytes_length, wireBytes_cons,
    List.take_left] at consumed
  exact
    { consumed := by
        rw [consumed, wireBytes_append]
        simp [wireBytes, ReadPhase.held]
      reading := trivial }

/-- Of the frame it is reading, a reader holds at most the whole. -/
theorem held_le
    {key : List UInt8}
    {phase : ReadPhase}
    {frame : WireFrame}
    (intact : frame.HeaderIntact aead key)
    (inStream : InStream buffer phase complete remaining past)
    (first : frame ∈ remaining.head?) :
    phase.held ≤ frame.bytes.length := by
  rw [intact.bytes_length]
  cases phase with
  | between =>
      exact Nat.zero_le _
  | header op =>
      have header : HeaderRead buffer op remaining := inStream.reading
      have inside := header.filling.inside
      rw [header.want] at inside
      exact Nat.le_add_right_of_le inside
  | payload op =>
      obtain ⟨current, later, rfl, payload⟩ := inStream.reading
      obtain rfl := Option.some.inj first
      have inside := payload.filling.inside
      rw [payload.want] at inside
      exact Nat.add_le_add_left inside Size

/--
A reader that has been given the whole stream, and whose last read is not
complete, has read every frame.
-/
theorem remaining_eq_nil
    {key : List UInt8}
    {phase : ReadPhase}
    (intact : ∀ frame ∈ remaining, frame.HeaderIntact aead key)
    (inStream : InStream buffer phase complete remaining past)
    (all : past = wireBytes (complete ++ remaining))
    (quiet : phase.Quiet) :
    remaining = [] := by
  have consumed := inStream.consumed
  rw [all, wireBytes_append, List.append_cancel_left_eq] at consumed
  have whole := congrArg List.length consumed
  rw [List.length_take] at whole
  cases remaining with
  | nil =>
      rfl
  | cons frame later =>
      have frameLength :=
        (intact frame List.mem_cons_self).bytes_length
      rw [wireBytes_cons, List.length_append, frameLength] at whole
      exfalso
      cases phase with
      | between =>
          simp only [ReadPhase.held, Size] at whole
          omega
      | header op =>
          have header : HeaderRead buffer op _ := inStream.reading
          have unfinished : op.got ≠ op.want := by
            intro full
            have outcome := header.filling.outcome
            rw [if_pos full, quiet] at outcome
            cases outcome
          have inside := header.filling.inside
          rw [header.want] at inside unfinished
          simp only [ReadPhase.held] at whole
          omega
      | payload op =>
          obtain ⟨current, rest, split, payload⟩ := inStream.reading
          obtain ⟨rfl, rfl⟩ := List.cons.inj split
          have unfinished : op.got ≠ op.want := by
            intro full
            have outcome := payload.filling.outcome
            rw [if_pos full, quiet] at outcome
            cases outcome
          have inside := payload.filling.inside
          rw [payload.want] at inside unfinished
          simp only [ReadPhase.held] at whole
          omega

end InStream

end Dsvpn
