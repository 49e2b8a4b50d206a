import Dsvpn.ReceiveReturns

namespace Dsvpn

open ProtocolHeader

/-!
# What a handshake still needs

All handshakes share one buffer with `ReceiveFrom`.  As long as nothing that
is written to the buffer changes a byte that a handshake still needs, the
handshake holds the frame its own socket has sent.
-/

/-- The bytes an event brings for the handshake of a socket. -/
def TcpServerEvent.tried (socket : SocketId) : TcpServerEvent → List UInt8
  | .arriveTry current piece => if current = socket then piece else []
  | _ => []

/-- The bytes `tryReceive` has received from a socket. -/
def received
    (events : List TcpServerEvent)
    (socket : SocketId) : List UInt8 :=
  events.flatMap (TcpServerEvent.tried socket)

/--
The bytes are one frame: the header authenticates under the key, its lengths
give the number of bytes behind it, and the payload is among these and
authenticates too.
-/
structure ProvenFrame
    (aead : Aead 16)
    (conn_key bytes : List UInt8)
    (header : PacketBuffer)
    (payload_len : Nat) : Prop where
  opens :
    (Protocol.create conn_key).DecryptHeader aead (Buffer.ofBytes bytes) =
      (header, payload_len)
  positive : payload_len ≠ 0
  whole : bytes.length = Size + payload_len
  inside : PAYLOAD_LENGTH header ≤ payload_len
  authentic :
    (Protocol.create conn_key).acceptsPayload aead header = true

/--
The received bytes of a handshake that it will still look at: all of a header
that is being read, and of an opened header the nonce, the payload tag, the
payload length and the payload.
-/
def TryReceivePc.stillNeeded
    (pc : TryReceivePc)
    (payload_length index : Nat) : Bool :=
  match pc with
  | .readHeader op =>
      index < op.got
  | .readPayload op =>
      index < 12 || (28 ≤ index && index < 48) ||
        (Size ≤ index && index < Size + min op.got payload_length)
  | _ =>
      false

/-- The handshake of this socket is the one the event belongs to. -/
def TcpServerEvent.isTry (socket : SocketId) : TcpServerEvent → Bool
  | .resumeTry current => current = socket
  | _ => false

theorem stillNeeded_readPayload
    {op : ReadOp}
    {payload_length index : Nat} :
    (TryReceivePc.readPayload op).stillNeeded payload_length index = true ↔
      index < 12 ∨ (28 ≤ index ∧ index < 48) ∨
        (52 ≤ index ∧ index < 52 + min op.got payload_length) := by
  simp [TryReceivePc.stillNeeded, or_assoc]

namespace TcpServer

/-- The lengths that `DecryptHeader` would write over the header. -/
def openedLengths
    (aead : Aead 16)
    (self : TcpServer) : Option (Nat × List UInt8) :=
  (aead.decrypt self.connection.protocol.key
    (NONCE self.connection.conn_recv_buffer)
    (lengthFields self.connection.conn_recv_buffer)
    (LEN_TAG self.connection.conn_recv_buffer)).map (44, ·)

/-- The plaintext that `DecryptPayload` would write over the payload. -/
def openedPayload
    (aead : Aead 16)
    (self : TcpServer) : Option (Nat × List UInt8) :=
  if PAYLOAD_LENGTH self.connection.conn_recv_buffer ≤ MAX_BUFFSIZE then
    (aead.decrypt self.connection.protocol.key
      (NONCE self.connection.conn_recv_buffer)
      (payloadCiphertext self.connection.conn_recv_buffer)
      (PAYLOAD_TAG self.connection.conn_recv_buffer)).map (Size, ·)
  else
    none

/-- Where an event writes to the receive buffer, and which bytes. -/
def overwrites
    (aead : Aead 16)
    (self : TcpServer)
    (event : TcpServerEvent) : Option (Nat × List UInt8) :=
  match event with
  | .arriveTry socket piece =>
      match self.tryReceive socket with
      | .readHeader op => some (op.offset + op.got, piece)
      | .readPayload op => some (op.offset + op.got, piece)
      | _ => none
  | .resumeTry socket =>
      match self.tryReceive socket with
      | .readHeader op => if op.got = 0 then none else self.openedLengths aead
      | .readPayload op =>
          if op.got = 0 ∨ op.outcome ≠ some none then
            none
          else
            self.openedPayload aead
      | _ => none
  | .arrive piece =>
      match self.receiveLoop with
      | .readHeader _ op => some (op.offset + op.got, piece)
      | .readPayload _ op => some (op.offset + op.got, piece)
      | _ => none
  | .resume =>
      match self.receiveLoop with
      | .readHeader _ op =>
          if op.got = 0 ∨ op.outcome ≠ some none then
            none
          else
            self.openedLengths aead
      | .readPayload _ op =>
          if op.got = 0 then none else self.openedPayload aead
      | _ => none
  | _ => none

/-- The write changes no byte that the handshake still needs. -/
def spares
    (self : TcpServer)
    (socket : SocketId)
    (write : Nat × List UInt8) : Bool :=
  (List.range write.2.length).all fun index =>
    !(self.tryReceive socket).stillNeeded
        (PAYLOAD_LENGTH self.connection.conn_recv_buffer)
        (write.1 + index) ||
      write.2.getD index 0 ==
        self.connection.conn_recv_buffer.get (write.1 + index)

/--
What the event writes to the buffer spares every other handshake; a handshake
goes on from a header only if the header is complete or rejected, and from a
payload to the choice only if the payload is complete and authenticates.
-/
def handshakesApart
    (aead : Aead 16)
    (self : TcpServer)
    (event : TcpServerEvent) : Bool :=
  (match self.overwrites aead event with
    | none => true
    | some write =>
        (List.range self.accepted).all fun socket =>
          event.isTry socket || self.spares socket write) &&
    match event with
    | .resumeTry socket =>
        match self.tryReceive socket with
        | .readHeader op =>
            op.got == 0 || op.got == Size ||
              (self.connection.protocol.DecryptHeader aead
                self.connection.conn_recv_buffer).2 == 0
        | .readPayload op =>
            op.got == 0 || op.outcome != some none ||
              !(self.connection.tcp_acceptor_open &&
                (self.socket socket).connected) ||
              (self.connection.protocol.acceptsPayload aead
                  self.connection.conn_recv_buffer &&
                PAYLOAD_LENGTH self.connection.conn_recv_buffer ≤ op.got)
        | _ => true
    | _ => true

end TcpServer

section

variable
    {aead : Aead 16}
    {conn_key : List UInt8}
    {buffer : PacketBuffer}
    {bytes : List UInt8}
    {pc : TryReceivePc}

/--
A handshake has got the bytes of its socket, and what it still needs of them
is in the buffer, behind the lengths as `DecryptHeader` wrote them.
-/
inductive HoldsFrame
    (aead : Aead 16)
    (conn_key : List UInt8)
    (buffer : PacketBuffer)
    (bytes : List UInt8) : TryReceivePc → Prop where
  | notStarted :
      bytes = [] →
      HoldsFrame aead conn_key buffer bytes .notStarted
  | readHeader (op : ReadOp) :
      bytes.length = op.got →
      Buffer.AgreeOn (fun index => index < op.got)
        buffer (Buffer.ofBytes bytes) →
      HoldsFrame aead conn_key buffer bytes (.readHeader op)
  | readPayload (op : ReadOp) (header : PacketBuffer) :
      (Protocol.create conn_key).DecryptHeader aead
          (Buffer.ofBytes bytes) =
        (header, op.want) →
      op.want ≠ 0 →
      op.offset = Size →
      bytes.length = Size + op.got →
      (op.outcome = some none → op.got = op.want) →
      Buffer.AgreeOn
        (fun index =>
          (TryReceivePc.readPayload op).stillNeeded
            (PAYLOAD_LENGTH header) index = true)
        buffer header →
      HoldsFrame aead conn_key buffer bytes (.readPayload op)
  | finished :
      HoldsFrame aead conn_key buffer bytes .finished

/-- The length of the payload is among the bytes a handshake needs. -/
theorem PAYLOAD_LENGTH_needed
    {op : ReadOp}
    {header : PacketBuffer}
    {payload_length : Nat}
    (agree :
      Buffer.AgreeOn
        (fun index =>
          (TryReceivePc.readPayload op).stillNeeded payload_length index =
            true)
        buffer header) :
    PAYLOAD_LENGTH buffer = PAYLOAD_LENGTH header :=
  congrArg ofWord32
    (agree.slice fun index starts ends => by
      rw [stillNeeded_readPayload]
      omega)

/-- A write that spares the handshake leaves it what it needs. -/
theorem HoldsFrame.overwrite
    (holds : HoldsFrame aead conn_key buffer bytes pc)
    {offset : Nat}
    {data : List UInt8}
    (spared :
      ∀ index < data.length,
        pc.stillNeeded (PAYLOAD_LENGTH buffer) (offset + index) = true →
        data.getD index 0 = buffer.get (offset + index)) :
    HoldsFrame aead conn_key (buffer.overwrite offset data) bytes pc := by
  cases holds with
  | notStarted empty => exact .notStarted empty
  | readHeader op length agree =>
      refine .readHeader op length (agree.overwrite_left ?_)
      intro index inside needed
      exact spared index inside
        (by simpa [TryReceivePc.stillNeeded] using needed)
  | readPayload op header opens positive offset length full agree =>
      refine .readPayload op header opens positive offset length full
        (agree.overwrite_left ?_)
      rw [PAYLOAD_LENGTH_needed agree] at spared
      exact spared
  | finished => exact .finished

theorem ReadOp.fail_want
    (op : ReadOp)
    (error : ErrorCode) :
    (op.fail error).want = op.want := by
  unfold ReadOp.fail
  split <;> rfl

/-- A failed read has not completed without an error since. -/
theorem ReadOp.fail_outcome
    {op : ReadOp}
    {error : ErrorCode}
    (completed : (op.fail error).outcome = some none) :
    op.outcome = some none := by
  unfold ReadOp.fail at completed
  split at completed
  · cases completed
  · exact completed

theorem HoldsFrame.failHeader
    {op : ReadOp}
    (holds : HoldsFrame aead conn_key buffer bytes (.readHeader op))
    (error : ErrorCode) :
    HoldsFrame aead conn_key buffer bytes
      (.readHeader (op.fail error)) := by
  cases holds with
  | readHeader _ length agree =>
      refine .readHeader _ ?_ ?_
      · rw [op.fail_got, length]
      · rw [op.fail_got]
        exact agree

theorem HoldsFrame.failPayload
    {op : ReadOp}
    (holds : HoldsFrame aead conn_key buffer bytes (.readPayload op))
    (error : ErrorCode) :
    HoldsFrame aead conn_key buffer bytes
      (.readPayload (op.fail error)) := by
  cases holds with
  | readPayload _ header opens positive offset length full agree =>
      refine .readPayload _ header ?_ ?_ ?_ ?_ ?_ ?_
      · rw [op.fail_want, opens]
      · rw [op.fail_want]
        exact positive
      · rw [op.fail_offset, offset]
      · rw [op.fail_got, length]
      · rw [op.fail_got, op.fail_want]
        exact fun completed => full (ReadOp.fail_outcome completed)
      · simp only [TryReceivePc.stillNeeded, op.fail_got]
        exact agree

theorem HoldsFrame.abort
    (holds : HoldsFrame aead conn_key buffer bytes pc) :
    HoldsFrame aead conn_key buffer bytes pc.abort := by
  cases pc with
  | notStarted => exact holds
  | readHeader op => exact holds.failHeader _
  | readPayload op => exact holds.failPayload _
  | finished => exact holds

/-- A piece of the header. -/
theorem HoldsFrame.receiveHeader
    {op : ReadOp}
    (reads : op.ReadsHeader)
    (holds : HoldsFrame aead conn_key buffer bytes (.readHeader op))
    (piece : List UInt8) :
    HoldsFrame aead conn_key
      (buffer.overwrite (op.offset + op.got) piece) (bytes ++ piece)
      (.readHeader (op.receive piece)) := by
  cases holds with
  | readHeader _ length agree =>
      refine .readHeader _ ?_ ?_
      · simp [ReadOp.receive, length]
      · rw [Buffer.ofBytes_append, reads.offset, Nat.zero_add, length]
        refine (agree.overwrite op.got piece).mono fun index inside => ?_
        simp only [ReadOp.receive] at inside
        omega

/-- What follows an opened header does not change how it is opened. -/
theorem DecryptHeader_append
    {header : PacketBuffer}
    {payload_len : Nat}
    (opens :
      (Protocol.create conn_key).DecryptHeader aead
          (Buffer.ofBytes bytes) =
        (header, payload_len))
    (positive : payload_len ≠ 0)
    (complete : Size ≤ bytes.length)
    (piece : List UInt8) :
    (Protocol.create conn_key).DecryptHeader aead
        (Buffer.ofBytes (bytes ++ piece)) =
      (header.overwrite bytes.length piece, payload_len) := by
  have agree :
      Buffer.AgreeOn (fun index => index < Size)
        (Buffer.ofBytes bytes : PacketBuffer)
        (Buffer.ofBytes (bytes ++ piece)) := by
    intro index inside
    rw [Buffer.ofBytes_append]
    exact (Buffer.get_overwrite_outside _
      (Or.inl (Nat.lt_of_lt_of_le inside complete))).symm
  rcases Protocol.DecryptHeader_agree aead (Protocol.create conn_key)
      (Protocol.create conn_key) rfl agree with
      ⟨rejects, _⟩ | ⟨len, _, length, accepts, same⟩
  · rw [opens, Prod.mk.injEq] at rejects
    exact (positive rejects.2).elim
  · rw [opens, Prod.mk.injEq] at accepts
    obtain ⟨rfl, rfl⟩ := accepts
    have apart : 44 + len.length ≤ bytes.length := by
      simp only [Size] at complete
      omega
    rw [same, Buffer.ofBytes_append, Buffer.overwrite_comm _ apart]

/-- A piece of what follows the header. -/
theorem HoldsFrame.receivePayload
    {op : ReadOp}
    (holds : HoldsFrame aead conn_key buffer bytes (.readPayload op))
    (piece : List UInt8) :
    HoldsFrame aead conn_key
      (buffer.overwrite (op.offset + op.got) piece) (bytes ++ piece)
      (.readPayload (op.receive piece)) := by
  cases holds with
  | readPayload _ header opens positive offset length _ agree =>
      have complete : Size ≤ bytes.length := by omega
      have behind : op.offset + op.got = bytes.length := by omega
      have sameLength :
          PAYLOAD_LENGTH (header.overwrite bytes.length piece) =
            PAYLOAD_LENGTH header := by
        rw [PAYLOAD_LENGTH,
          Buffer.slice_overwrite_disjoint _
            (Or.inl (Nat.le_trans (by decide) complete))]
        rfl
      rw [behind]
      refine .readPayload _ _
        (DecryptHeader_append opens positive complete piece)
        positive offset ?_ ?_ ?_
      · simp only [ReadOp.receive, List.length_append]
        omega
      · simp only [ReadOp.receive]
        intro completed
        split at completed
        · assumption
        · cases completed
      · rw [sameLength]
        refine (agree.overwrite bytes.length piece).mono
          fun index needed => ?_
        simp only [stillNeeded_readPayload, ReadOp.receive, Size]
          at needed length ⊢
        omega

/-- A handshake that opens its own header goes on with its own lengths. -/
theorem HoldsFrame.open
    {op reading : ReadOp}
    {protocol : Protocol}
    {header : PacketBuffer}
    {payload_len : Nat}
    (holds : HoldsFrame aead conn_key buffer bytes (.readHeader op))
    (complete : op.got = Size)
    (key : protocol.key = AES256GCM.keyOf conn_key)
    (opens :
      protocol.DecryptHeader aead buffer = (header, payload_len))
    (positive : payload_len ≠ 0)
    (starts :
      reading.offset = Size ∧ reading.want = payload_len ∧
        reading.got = 0 ∧ reading.outcome ≠ some none) :
    HoldsFrame aead conn_key header bytes (.readPayload reading) := by
  obtain ⟨offset, rfl, nothing, incomplete⟩ := starts
  cases holds with
  | readHeader _ length agree =>
      rw [complete] at agree
      rcases Protocol.DecryptHeader_agree aead protocol
          (Protocol.create conn_key) key agree with
          ⟨rejects, _⟩ | ⟨len, _, lenLength, accepts, same⟩
      · rw [opens, Prod.mk.injEq] at rejects
        exact (positive rejects.2).elim
      · rw [opens, Prod.mk.injEq] at accepts
        obtain ⟨rfl, rfl⟩ := accepts
        refine .readPayload _ _ same positive offset ?_ ?_ ?_
        · rw [length, complete, nothing]
        · exact fun completed => (incomplete completed).elim
        · refine (agree.overwrite 44 len).mono fun index needed => ?_
          simp only [stillNeeded_readPayload, nothing, Size] at needed ⊢
          omega

/-- A payload that is complete and authenticates proves the client. -/
theorem HoldsFrame.proven
    {op : ReadOp}
    {protocol : Protocol}
    (holds : HoldsFrame aead conn_key buffer bytes (.readPayload op))
    (key : protocol.key = AES256GCM.keyOf conn_key)
    (completed : op.outcome = some none)
    (accepts : protocol.acceptsPayload aead buffer = true)
    (inside : PAYLOAD_LENGTH buffer ≤ op.got) :
    ∃ header payload_len,
      ProvenFrame aead conn_key bytes header payload_len := by
  cases holds with
  | readPayload _ header opens positive offset length full agree =>
      have whole := full completed
      have sameLength := PAYLOAD_LENGTH_needed agree
      have part
          {offset length : Nat}
          (needed :
            ∀ index, offset ≤ index → index < offset + length →
              index < 12 ∨ (28 ≤ index ∧ index < 48) ∨
                (52 ≤ index ∧
                  index < 52 + min op.got (PAYLOAD_LENGTH header))) :
          buffer.slice offset length = header.slice offset length :=
        agree.slice fun index starts ends =>
          stillNeeded_readPayload.mpr (needed index starts ends)
      have nonce : NONCE buffer = NONCE header := part (by omega)
      have tag : PAYLOAD_TAG buffer = PAYLOAD_TAG header :=
        part (by omega)
      have ciphertext :
          payloadCiphertext buffer = payloadCiphertext header := by
        unfold payloadCiphertext
        rw [sameLength]
        exact part (by simp only [Size]; omega)
      refine ⟨header, op.want, opens, positive, by omega, by omega, ?_⟩
      rw [Protocol.acceptsPayload_iff] at accepts ⊢
      rw [← nonce, ← tag, ← ciphertext, ← sameLength]
      rw [key] at accepts
      exact accepts

end

end Dsvpn
