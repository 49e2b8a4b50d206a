import Mathlib.Data.List.Nodup
import Dsvpn.SendRun
import Dsvpn.TcpReceiver

namespace Dsvpn

open ProtocolHeader

/-!
# Only sent packets are delivered

Under an ideal cipher and fresh nonces, a header that authenticates belongs
to one sent frame, because a payload is never as short as the two length
fields; and a payload that authenticates behind that header is the payload of
the same frame, because the frame is the only one with its nonce.  Neither
argument looks at where the buffer's bytes came from, so stale bytes and
spliced frames are covered.
-/

variable {Endpoint : Type}

/--
A run of sends under `key` as an ideal cipher sees it: all calls under the
key are those of the run, every packet has at least the length of an IP
header, and no two sends drew one nonce.
-/
structure HonestSends
    (aead : Aead 16)
    (key : List UInt8)
    (sends : List Sent) : Prop where
  sealedUnder :
    ∀ sent ∈ sends, sent.SealedUnder aead key
  packetMinimum :
    ∀ sent ∈ sends, 20 ≤ sent.request.packet.length
  drawnOnce :
    (sends.map fun sent => sent.request.draw.nonce).Nodup
  ideal :
    aead.Ideal key (sends.flatMap Sent.calls)

namespace HonestSends

variable
    {aead : Aead 16}
    {key : List UInt8}
    {sends : List Sent}

/-- A run of sends under one key, with fresh draws, is honest. -/
theorem of_sendRun
    {connections : Nat → Connection Endpoint}
    {requests : List SendRequest}
    (oneKey : ∀ index, (connections index).protocol.key = key)
    (minimum :
      ∀ request ∈ requests, 20 ≤ request.packet.length)
    (fresh : (requests.map fun request => request.draw.nonce).Nodup)
    (ideal :
      aead.Ideal key
        ((sendRun aead connections requests).flatMap Sent.calls)) :
    HonestSends aead key (sendRun aead connections requests) where
  sealedUnder sent member := by
    rw [← oneKey sent.request.connection]
    exact sendRun_sealed member
  packetMinimum sent member :=
    minimum sent.request
      ((sendRun_requests aead connections requests).subset
        (List.mem_map_of_mem member))
  drawnOnce := by
    have performed :=
      (sendRun_requests aead connections requests).map
        fun request => request.draw.nonce
    rw [List.map_map] at performed
    exact performed.nodup fresh
  ideal := ideal

/-- Two sends with one nonce are one send. -/
theorem eq_of_nonce
    (honest : HonestSends aead key sends)
    {first second : Sent}
    (firstMember : first ∈ sends)
    (secondMember : second ∈ sends)
    (sameNonce :
      first.request.draw.nonce = second.request.draw.nonce) :
    first = second :=
  List.inj_on_of_nodup_map honest.drawnOnce
    firstMember secondMember sameNonce

/--
What decrypts under the key is the packet or the lengths of one sent frame,
under that frame's nonce, from the output of that encryption.
-/
theorem decrypts
    (honest : HonestSends aead key sends)
    {nonce ciphertext tag plaintext : List UInt8}
    (accepted :
      aead.decrypt key nonce ciphertext tag = some plaintext) :
    ∃ sent ∈ sends,
      sent.frame.isSome ∧
        sent.request.packet.length ≤ MAX_BUFFSIZE ∧
        nonce = sent.request.draw.nonce ∧
        aead.encrypt key nonce plaintext = (ciphertext, tag) ∧
        (plaintext = sent.request.packet ∨
          plaintext =
            lengthsOf sent.request.packet sent.request.draw) := by
  obtain ⟨call, member, _, nonceEq, plaintextEq, output⟩ :=
    honest.ideal nonce ciphertext tag plaintext accepted
  obtain ⟨sent, sentMember, callMember⟩ := List.mem_flatMap.mp member
  refine ⟨sent, sentMember, ?_⟩
  rcases honest.sealedUnder sent sentMember with
      ⟨_, calls⟩ | ⟨fits, frame, calls⟩
  · simp [calls] at callMember
  · refine ⟨by simp [frame], fits, ?_⟩
    simp only [calls, frameCalls, List.mem_cons,
      List.not_mem_nil, or_false] at callMember
    rcases callMember with rfl | rfl
    · exact ⟨nonceEq.symm, output, Or.inl plaintextEq.symm⟩
    · exact ⟨nonceEq.symm, output, Or.inr plaintextEq.symm⟩

end HonestSends

/--
The buffer holds, decrypted, the header of `sent`: its nonce and its payload
length.
-/
structure HoldsHeaderOf
    (header : PacketBuffer)
    (sent : Sent) : Prop where
  nonce : NONCE header = sent.request.draw.nonce
  length : PAYLOAD_LENGTH header = sent.request.packet.length

/-- The buffer begins with the nonce and the sealed lengths of `sent`. -/
structure HoldsSealedHeader
    (aead : Aead 16)
    (key : List UInt8)
    (header : PacketBuffer)
    (sent : Sent) : Prop where
  nonce : NONCE header = sent.request.draw.nonce
  lengths :
    aead.encrypt key sent.request.draw.nonce
        (lengthsOf sent.request.packet sent.request.draw) =
      (lengthFields header, LEN_TAG header)

/-- The buffer holds the nonce and the sealed payload of `sent`. -/
structure HoldsSealedPayload
    (aead : Aead 16)
    (key : List UInt8)
    (header : PacketBuffer)
    (sent : Sent) : Prop where
  nonce : NONCE header = sent.request.draw.nonce
  payload :
    aead.encrypt key sent.request.draw.nonce sent.request.packet =
      (header.slice Size sent.request.packet.length,
        PAYLOAD_TAG header)

instance
    (aead : Aead 16)
    (key : List UInt8)
    (header : PacketBuffer)
    (sent : Sent) :
    Decidable (HoldsSealedHeader aead key header sent) :=
  decidable_of_iff (_ ∧ _)
    ⟨fun both => ⟨both.1, both.2⟩, fun holds => ⟨holds.nonce, holds.lengths⟩⟩

instance
    (aead : Aead 16)
    (key : List UInt8)
    (header : PacketBuffer)
    (sent : Sent) :
    Decidable (HoldsSealedPayload aead key header sent) :=
  decidable_of_iff (_ ∧ _)
    ⟨fun both => ⟨both.1, both.2⟩, fun holds => ⟨holds.nonce, holds.payload⟩⟩

/-- Opening the header leaves the nonce and the sealed payload alone. -/
theorem HoldsSealedPayload.of_DecryptHeader
    {aead : Aead 16}
    {key : List UInt8}
    {protocol : Protocol}
    {header : PacketBuffer}
    {sent : Sent}
    (holds :
      HoldsSealedPayload aead key
        (protocol.DecryptHeader aead header).1 sent) :
    HoldsSealedPayload aead key header sent := by
  unfold Protocol.DecryptHeader AES256GCM.decryptData at holds
  split at holds
  · exact holds
  · rename_i len accepted
    have length := aead.plaintext_length accepted
    rw [lengthFields, Buffer.length_slice] at length
    have nonce := holds.nonce
    have payload := holds.payload
    simp only [NONCE, PAYLOAD_TAG, Size] at nonce payload
    rw [Buffer.slice_overwrite_disjoint _ (Or.inl (by omega))] at nonce
    rw [Buffer.slice_overwrite_disjoint _ (Or.inr (by omega)),
      Buffer.slice_overwrite_disjoint _ (Or.inl (by omega))] at payload
    exact { nonce := nonce, payload := payload }

/-- Bytes written behind the header leave the header alone. -/
theorem HoldsHeaderOf.overwrite
    {header : PacketBuffer}
    {sent : Sent}
    (holds : HoldsHeaderOf header sent)
    {offset : Nat}
    (data : List UInt8)
    (behind : Size ≤ offset) :
    HoldsHeaderOf (header.overwrite offset data) sent where
  nonce := by
    rw [NONCE, Buffer.slice_overwrite_disjoint _
      (Or.inl (by simp only [Size] at behind; omega))]
    exact holds.nonce
  length :=
    (PAYLOAD_LENGTH_overwrite header data behind).trans holds.length

namespace HonestSends

variable
    {aead : Aead 16}
    {key : List UInt8}
    {sends : List Sent}

/-- A header that opens to a positive length is the header of a sent frame. -/
theorem openedHeader
    (honest : HonestSends aead key sends)
    {protocol : Protocol}
    (sameKey : protocol.key = key)
    {header : PacketBuffer}
    (positive : (protocol.DecryptHeader aead header).2 ≠ 0) :
    ∃ sent ∈ sends,
      sent.frame.isSome ∧
        HoldsSealedHeader aead key header sent ∧
        HoldsHeaderOf (protocol.DecryptHeader aead header).1 sent := by
  obtain ⟨len, eight, accepted, opened⟩ :=
    Protocol.DecryptHeader_ne_zero positive
  rw [sameKey] at accepted
  obtain ⟨sent, member, isSent, fits, nonce, output, packet | lengths⟩ :=
    honest.decrypts accepted
  · -- a packet is never as short as the two length fields
    have minimum := honest.packetMinimum sent member
    rw [← packet, eight] at minimum
    omega
  · obtain ⟨length, sameNonce, _, _⟩ :=
      Protocol.openedHeader_fields header sent.request.draw fits
    rw [nonce, lengths] at output
    refine ⟨sent, member, isSent, ⟨nonce, output⟩, ?_, ?_⟩
    · rw [opened, lengths, sameNonce, nonce]
    · rw [opened, lengths, length]

/-- A payload accepted behind the header of a sent frame is its packet. -/
theorem acceptedPayload
    (honest : HonestSends aead key sends)
    {header : PacketBuffer}
    {sent : Sent}
    (member : sent ∈ sends)
    (holds : HoldsHeaderOf header sent)
    {plaintext : List UInt8}
    (accepted :
      aead.decrypt key (NONCE header) (payloadCiphertext header)
          (PAYLOAD_TAG header) =
        some plaintext) :
    plaintext = sent.request.packet ∧
      HoldsSealedPayload aead key header sent := by
  obtain ⟨other, otherMember, _, _, nonce, output, plaintextIs⟩ :=
    honest.decrypts accepted
  have same : other = sent :=
    honest.eq_of_nonce otherMember member
      (nonce.symm.trans holds.nonce)
  subst other
  rcases plaintextIs with packet | lengths
  · refine ⟨packet, holds.nonce, ?_⟩
    rw [holds.nonce, packet, payloadCiphertext, holds.length] at output
    exact output
  · -- the ciphertext had the packet's length, not that of the two lengths
    have length := aead.plaintext_length accepted
    have minimum := honest.packetMinimum sent member
    rw [lengths, length_lengthsOf, payloadCiphertext,
      Buffer.length_slice, holds.length] at length
    omega

/--
`DecryptPayload` behind the header of a sent frame either rejects, or finds
that frame's sealed payload and leaves exactly its packet in the buffer.
-/
theorem decryptPayload
    (honest : HonestSends aead key sends)
    {protocol result : Protocol}
    (sameKey : protocol.key = key)
    {header final : PacketBuffer}
    {sent : Sent}
    (member : sent ∈ sends)
    (holds : HoldsHeaderOf header sent)
    (opened :
      protocol.DecryptPayload aead header =
        some (result, final, true)) :
    HoldsSealedPayload aead key header sent ∧
      PAYLOAD_LENGTH final = sent.request.packet.length ∧
      final.slice Size sent.request.packet.length =
        sent.request.packet := by
  rcases protocol.DecryptPayload_cases aead header with
      ⟨plaintext, fits, length, accepted, accepts⟩ | rejects
  · rw [sameKey] at accepted
    obtain ⟨packet, sealed⟩ :=
      honest.acceptedPayload member holds accepted
    rw [accepts] at opened
    simp only [Option.some.injEq, Prod.mk.injEq, and_true] at opened
    obtain ⟨_, rfl⟩ := opened
    subst plaintext
    refine ⟨sealed, ?_, Buffer.slice_overwrite_same _ _ _ ?_⟩
    · rw [PAYLOAD_LENGTH,
        Buffer.slice_overwrite_disjoint _ (Or.inl (by simp [Size]))]
      exact holds.length
    · simp only [Size, MAX_BUFFSIZE] at *
      omega
  · rw [rejects] at opened
    simp at opened

end HonestSends

/--
A returned value with the bytes behind the header stands for one sent frame:
it is the frame's payload length, and the bytes are the frame's payload.
-/
def IsSentPacket
    (sends : List Sent)
    (value : Int)
    (packet : List UInt8) : Prop :=
  ∃ sent ∈ sends,
    sent.frame.isSome ∧
      value = sent.request.packet.length ∧
      packet = sent.request.packet

/-! ## UDP -/

/-- `DecryptPayload` keeps the key. -/
theorem Protocol.DecryptPayload_key
    {aead : Aead 16}
    {self result : Protocol}
    {header final : PacketBuffer}
    {accepted : Bool}
    (opened :
      self.DecryptPayload aead header = some (result, final, accepted)) :
    result.key = self.key := by
  rcases self.DecryptPayload_cases aead header with
      ⟨_, _, _, _, accepts⟩ | rejects
  · rw [accepts] at opened
    simp only [Option.some.injEq, Prod.mk.injEq] at opened
    obtain ⟨rfl, _⟩ := opened
    rfl
  · rw [rejects] at opened
    simp only [Option.some.injEq, Prod.mk.injEq] at opened
    obtain ⟨rfl, _⟩ := opened
    rfl

/--
Decoding any buffer contents yields nothing, or one sent packet, whose whole
sealed frame was in the buffer.
-/
theorem IConnection.decryptFrame_accepts
    {aead : Aead 16}
    {key : List UInt8}
    {sends : List Sent}
    (honest : HonestSends aead key sends)
    {self result : IConnection}
    {value : Int}
    (sameKey : self.protocol.key = key)
    (decoded : self.decryptFrame aead = some (result, value)) :
    result.protocol.key = key ∧
      (value ≠ 0 →
        ∃ sent ∈ sends,
          sent.frame.isSome ∧
            HoldsSealedHeader aead key self.conn_recv_buffer sent ∧
            HoldsSealedPayload aead key self.conn_recv_buffer sent ∧
            value = sent.request.packet.length ∧
            result.conn_recv_buffer.slice Size value.toNat =
              sent.request.packet) := by
  unfold IConnection.decryptFrame at decoded
  simp only at decoded
  split at decoded
  · simp only [Option.some.injEq, Prod.mk.injEq] at decoded
    obtain ⟨rfl, rfl⟩ := decoded
    exact ⟨sameKey, fun positive => (positive rfl).elim⟩
  · rename_i positive
    obtain ⟨sent, member, isSent, sealedHeader, holds⟩ :=
      honest.openedHeader sameKey positive
    simp only [Option.bind_eq_bind, Option.bind_eq_some_iff,
      Prod.exists, Option.some.injEq, Prod.mk.injEq] at decoded
    obtain ⟨protocol, final, accepted, opened, rfl, rfl⟩ := decoded
    refine ⟨(Protocol.DecryptPayload_key opened).trans sameKey, ?_⟩
    intro returned
    cases accepted with
    | false =>
        simp at returned
    | true =>
        obtain ⟨sealed, length, packet⟩ :=
          honest.decryptPayload sameKey member holds opened
        refine ⟨sent, member, isSent, sealedHeader,
          sealed.of_DecryptHeader, ?_, ?_⟩
        · simp [length]
        · simpa [length] using packet

theorem IConnection.decryptFrame_authentic
    {aead : Aead 16}
    {key : List UInt8}
    {sends : List Sent}
    (honest : HonestSends aead key sends)
    {self result : IConnection}
    {value : Int}
    (sameKey : self.protocol.key = key)
    (decoded : self.decryptFrame aead = some (result, value)) :
    result.protocol.key = key ∧
      (value ≠ 0 →
        IsSentPacket sends value
          (result.conn_recv_buffer.slice Size value.toNat)) := by
  obtain ⟨resultKey, accepts⟩ :=
    decryptFrame_accepts honest sameKey decoded
  refine ⟨resultKey, ?_⟩
  intro positive
  obtain ⟨sent, member, isSent, _, _, length, packet⟩ :=
    accepts positive
  exact ⟨sent, member, isSent, length, packet⟩

/-- One call of a UDP receive operation. -/
structure ReceiveRequest (Endpoint : Type) where
  fromAnyEndpoint : Bool
  size : Nat
  arrival : Option (Endpoint × List UInt8)

namespace UDPConnection

/-- `ReceiveFrom` or `Receive`, as requested. -/
def receiveRequest
    [DecidableEq Endpoint]
    (aead : Aead 16)
    (self : UDPConnection Endpoint)
    (request : ReceiveRequest Endpoint) :
    Option (UDPConnection Endpoint × Int) :=
  if request.fromAnyEndpoint then
    self.ReceiveFrom aead request.size request.arrival
  else
    self.Receive aead request.size request.arrival

/--
Receive in order; the result pairs each returned value with the bytes behind
the header at that moment.
-/
def receiveRun
    [DecidableEq Endpoint]
    (aead : Aead 16) :
    UDPConnection Endpoint → List (ReceiveRequest Endpoint) →
      List (Int × List UInt8)
  | _, [] =>
      []
  | self, request :: rest =>
      match self.receiveRequest aead request with
      | none =>
          []
      | some (after, value) =>
          (value, after.conn_recv_buffer.slice Size value.toNat) ::
            receiveRun aead after rest

theorem asyncReceiveFrom_key
    {self received : UDPConnection Endpoint}
    {size : Nat}
    {arrival : Option (Endpoint × List UInt8)}
    (arrived : self.asyncReceiveFrom size arrival = some received) :
    received.protocol = self.protocol := by
  cases arrival with
  | none =>
      simp only [asyncReceiveFrom, Option.some.injEq] at arrived
      subst received
      rfl
  | some datagram =>
      simp only [asyncReceiveFrom, Option.bind_eq_bind,
        Option.bind_eq_some_iff, Option.some.injEq] at arrived
      obtain ⟨_, _, rfl⟩ := arrived
      rfl

/-- One receive yields nothing, a refusal, or one sent packet. -/
theorem receiveRequest_authentic
    [DecidableEq Endpoint]
    {aead : Aead 16}
    {key : List UInt8}
    {sends : List Sent}
    (honest : HonestSends aead key sends)
    {self after : UDPConnection Endpoint}
    {request : ReceiveRequest Endpoint}
    {value : Int}
    (sameKey : self.protocol.key = key)
    (received :
      self.receiveRequest aead request = some (after, value)) :
    after.protocol.key = key ∧
      (value ≠ 0 →
        value ≠ -1 →
        IsSentPacket sends value
          (after.conn_recv_buffer.slice Size value.toNat)) := by
  unfold receiveRequest at received
  split at received
  · simp only [ReceiveFrom, resumeReceiveFrom, Option.bind_eq_bind,
      Option.bind_eq_some_iff, Prod.exists, Option.some.injEq,
      Prod.mk.injEq] at received
    obtain ⟨arrived, arrival, result, _, decoded, rfl, rfl⟩ := received
    rw [← asyncReceiveFrom_key arrival] at sameKey
    obtain ⟨resultKey, authentic⟩ :=
      IConnection.decryptFrame_authentic honest sameKey decoded
    exact ⟨resultKey, fun positive _ => authentic positive⟩
  · simp only [Receive, resumeReceive, Option.bind_eq_bind,
      Option.bind_eq_some_iff] at received
    obtain ⟨arrived, arrival, resumed⟩ := received
    rw [← asyncReceiveFrom_key arrival] at sameKey
    split at resumed
    · simp only [Option.some.injEq, Prod.mk.injEq] at resumed
      obtain ⟨rfl, rfl⟩ := resumed
      exact ⟨sameKey, fun _ refused => (refused rfl).elim⟩
    · simp only [Option.bind_eq_some_iff, Prod.exists,
        Option.some.injEq, Prod.mk.injEq] at resumed
      obtain ⟨result, _, decoded, rfl, rfl⟩ := resumed
      obtain ⟨resultKey, authentic⟩ :=
        IConnection.decryptFrame_authentic honest sameKey decoded
      exact ⟨resultKey, fun positive _ => authentic positive⟩

/-- The same for every value a run of receives returns. -/
theorem receiveRun_authentic
    [DecidableEq Endpoint]
    {aead : Aead 16}
    {key : List UInt8}
    {sends : List Sent}
    (honest : HonestSends aead key sends)
    {self : UDPConnection Endpoint}
    (sameKey : self.protocol.key = key)
    {requests : List (ReceiveRequest Endpoint)}
    {value : Int}
    {packet : List UInt8}
    (member : (value, packet) ∈ self.receiveRun aead requests)
    (positive : value ≠ 0)
    (notRefused : value ≠ -1) :
    IsSentPacket sends value packet := by
  induction requests generalizing self with
  | nil =>
      simp [receiveRun] at member
  | cons request rest inductionHypothesis =>
      simp only [receiveRun] at member
      split at member
      · simp at member
      · rename_i after returned received
        obtain ⟨afterKey, authentic⟩ :=
          receiveRequest_authentic honest sameKey received
        rcases List.mem_cons.mp member with isFirst | inRest
        · obtain ⟨rfl, rfl⟩ := Prod.mk.inj isFirst
          exact authentic positive notRefused
        · exact inductionHypothesis afterKey inRest

end UDPConnection

/-! ## TCP -/

namespace TcpReceiver

/--
Between the two reads the buffer holds the header of a sent frame, and
everything returned so far was sent.
-/
structure Authentic
    (key : List UInt8)
    (sends : List Sent)
    (receiver : TcpReceiver) : Prop where
  sameKey : receiver.connection.protocol.key = key
  opened :
    ∀ op, receiver.pc = .readPayload op →
      op.offset = Size ∧
        ∃ sent ∈ sends,
          sent.frame.isSome ∧
            HoldsHeaderOf receiver.connection.conn_recv_buffer sent
  delivered :
    ∀ returned ∈ receiver.returned,
      returned.value ≠ 0 →
      IsSentPacket sends returned.value returned.packet

variable
    {aead : Aead 16}
    {key : List UInt8}
    {sends : List Sent}

namespace Authentic

/-- Later sends change nothing. -/
theorem mono
    {self : TcpReceiver}
    (authentic : Authentic key sends self)
    (later : List Sent) :
    Authentic key (sends ++ later) self where
  sameKey := authentic.sameKey
  opened := fun op atPayload => by
    obtain ⟨offset, sent, member, holds⟩ :=
      authentic.opened op atPayload
    exact ⟨offset, sent, List.mem_append_left later member, holds⟩
  delivered := fun returned member positive => by
    obtain ⟨sent, inSends, same⟩ :=
      authentic.delivered returned member positive
    exact ⟨sent, List.mem_append_left later inSends, same⟩

theorem setFault
    {self : TcpReceiver}
    (authentic : Authentic key sends self)
    (fault : Fault) :
    Authentic key sends (self.setFault fault) where
  sameKey := authentic.sameKey
  opened := authentic.opened
  delivered := authentic.delivered

/-- Returning keeps the invariant if the returned value stands for a packet. -/
theorem finish
    (self : TcpReceiver)
    {value : Int}
    (sameKey : self.connection.protocol.key = key)
    (delivered :
      ∀ returned ∈ self.returned,
        returned.value ≠ 0 →
        IsSentPacket sends returned.value returned.packet)
    (sent :
      value ≠ 0 →
      IsSentPacket sends value
        (self.connection.conn_recv_buffer.slice Size value.toNat))
    (error : Option ErrorCode) :
    Authentic key sends (self.finish value error) where
  sameKey := sameKey
  opened op atPayload := by
    simp [TcpReceiver.finish] at atPayload
  delivered returned member := by
    rcases List.mem_append.mp member with earlier | new
    · exact delivered returned earlier
    · rw [List.mem_singleton.mp new]
      exact sent

theorem Receive
    {self : TcpReceiver}
    (authentic : Authentic key sends self) :
    Authentic key sends self.Receive := by
  unfold TcpReceiver.Receive
  split
  · exact authentic.setFault _
  · exact
      { sameKey := authentic.sameKey
        opened := fun op atPayload => by cases atPayload
        delivered := authentic.delivered }

theorem resumeHeader
    (honest : HonestSends aead key sends)
    {self : TcpReceiver}
    (authentic : Authentic key sends self)
    (bytes_read : Nat)
    (error : Option ErrorCode) :
    Authentic key sends (self.resumeHeader aead bytes_read error) := by
  unfold TcpReceiver.resumeHeader
  have nothing :
      Authentic key sends (self.finish 0 error) :=
    finish self authentic.sameKey authentic.delivered
      (fun positive => (positive rfl).elim) error
  split
  · exact nothing
  · split
    · exact nothing
    · simp only
      split
      · refine finish _ ?_ ?_ (fun positive => (positive rfl).elim) error
        · exact authentic.sameKey
        · exact authentic.delivered
      · rename_i positive
        obtain ⟨sent, member, isSent, _, holds⟩ :=
          honest.openedHeader authentic.sameKey positive
        exact
          { sameKey := authentic.sameKey
            opened := fun op atPayload => by
              obtain rfl := ReceivePc.readPayload.inj atPayload
              exact ⟨rfl, sent, member, isSent, holds⟩
            delivered := authentic.delivered }

theorem resumePayload
    (honest : HonestSends aead key sends)
    {self : TcpReceiver}
    {op : ReadOp}
    (atPayload : self.pc = .readPayload op)
    (authentic : Authentic key sends self)
    (bytes_read : Nat)
    (error : Option ErrorCode) :
    Authentic key sends (self.resumePayload aead bytes_read error) := by
  unfold TcpReceiver.resumePayload
  split
  · exact finish self authentic.sameKey authentic.delivered
      (fun positive => (positive rfl).elim) error
  · split
    · exact authentic.setFault _
    · rename_i protocol header accepted opened
      obtain ⟨_, sent, member, isSent, holds⟩ :=
        authentic.opened op atPayload
      refine finish _ ?_ ?_ ?_ error
      · exact (Protocol.DecryptPayload_key opened).trans
          authentic.sameKey
      · exact authentic.delivered
      · intro positive
        cases accepted with
        | false =>
            simp at positive
        | true =>
            obtain ⟨_, length, packet⟩ :=
              honest.decryptPayload authentic.sameKey member holds opened
            refine ⟨sent, member, isSent, ?_, ?_⟩
            · simp [length]
            · simpa [length] using packet

theorem arriveHeader
    {self next : TcpReceiver}
    (authentic : Authentic key sends self)
    {op : ReadOp}
    {piece : List UInt8}
    (arrived : self.arrive .readHeader op piece = some next) :
    Authentic key sends next := by
  unfold TcpReceiver.arrive at arrived
  split at arrived
  · split at arrived
    · obtain rfl := Option.some.inj arrived
      exact authentic.setFault _
    · rename_i connection received
      obtain rfl := Option.some.inj arrived
      simp only [IConnection.receivePiece, Option.bind_eq_bind,
        Option.bind_eq_some_iff, Option.some.injEq] at received
      obtain ⟨_, _, rfl⟩ := received
      exact
        { sameKey := authentic.sameKey
          opened := fun op atPayload => by cases atPayload
          delivered := authentic.delivered }
  · cases arrived

theorem arrivePayload
    {self next : TcpReceiver}
    {op : ReadOp}
    (atPayload : self.pc = .readPayload op)
    (authentic : Authentic key sends self)
    {piece : List UInt8}
    (arrived : self.arrive .readPayload op piece = some next) :
    Authentic key sends next := by
  unfold TcpReceiver.arrive at arrived
  split at arrived
  · split at arrived
    · obtain rfl := Option.some.inj arrived
      exact authentic.setFault _
    · rename_i connection received
      obtain rfl := Option.some.inj arrived
      simp only [IConnection.receivePiece, Option.bind_eq_bind,
        Option.bind_eq_some_iff, Option.some.injEq,
        Buffer.store?_eq_some_iff] at received
      obtain ⟨_, ⟨_, rfl⟩, rfl⟩ := received
      obtain ⟨atBody, sent, member, isSent, holds⟩ :=
        authentic.opened op atPayload
      exact
        { sameKey := authentic.sameKey
          opened := fun later laterPc => by
            obtain rfl := ReceivePc.readPayload.inj laterPc
            exact ⟨atBody, sent, member, isSent,
              holds.overwrite piece (by rw [atBody]; omega)⟩
          delivered := authentic.delivered }
  · cases arrived

/-- Every step of the coroutine keeps the invariant. -/
theorem step
    (honest : HonestSends aead key sends)
    {self next : TcpReceiver}
    {event : ReceiveEvent}
    (authentic : Authentic key sends self)
    (performed : TcpReceiver.step aead self event = some next) :
    Authentic key sends next := by
  unfold TcpReceiver.step at performed
  split at performed
  · cases performed
  · cases pc : self.pc with
    | idle =>
        cases event with
        | call =>
            simp only [pc, Option.some.injEq] at performed
            subst next
            exact authentic.Receive
        | arrive piece => simp [pc] at performed
        | fail error => simp [pc] at performed
        | resume => simp [pc] at performed
    | readHeader op =>
        cases event with
        | call => simp [pc] at performed
        | arrive piece =>
            simp only [pc] at performed
            exact authentic.arriveHeader performed
        | fail error =>
            simp only [pc, Option.some.injEq] at performed
            subst next
            exact
              { sameKey := authentic.sameKey
                opened := fun op atPayload => by cases atPayload
                delivered := authentic.delivered }
        | resume =>
            simp only [pc, Option.map_eq_some_iff] at performed
            obtain ⟨error, _, rfl⟩ := performed
            exact authentic.resumeHeader honest op.got error
    | readPayload op =>
        cases event with
        | call => simp [pc] at performed
        | arrive piece =>
            simp only [pc] at performed
            exact authentic.arrivePayload pc performed
        | fail error =>
            simp only [pc, Option.some.injEq] at performed
            subst next
            exact
              { sameKey := authentic.sameKey
                opened := fun later laterPc => by
                  obtain rfl := ReceivePc.readPayload.inj laterPc
                  obtain ⟨atBody, holds⟩ := authentic.opened op pc
                  refine ⟨?_, holds⟩
                  rw [← atBody]
                  unfold ReadOp.fail
                  split <;> rfl
                delivered := authentic.delivered }
        | resume =>
            simp only [pc, Option.map_eq_some_iff] at performed
            obtain ⟨error, _, rfl⟩ := performed
            exact authentic.resumePayload honest pc op.got error

end Authentic

/-- Whatever a run of the coroutine returns, other than zero, was sent. -/
theorem run_authentic
    (honest : HonestSends aead key sends)
    {connection : TCPConnection}
    (sameKey : connection.protocol.key = key)
    {events : List ReceiveEvent}
    {final : TcpReceiver}
    (reached :
      StepSystem.run (TcpReceiver.step aead) (create connection) events =
        some final) :
    Authentic key sends final := by
  have initially : Authentic key sends (create connection) :=
    { sameKey := sameKey
      opened := fun op atPayload => by cases atPayload
      delivered := fun returned member => by cases member }
  exact StepSystem.run_invariant
    (fun authentic performed => authentic.step honest performed)
    initially reached

end TcpReceiver

/-! ## Both transports -/

/--
Every length that a receive operation returns, over UDP or TCP, for any
arrivals and from any earlier buffer contents, is that of one sent frame, and
the delivered bytes are that frame's payload.
-/
theorem delivered_authentic
    [DecidableEq Endpoint]
    (aead : Aead 16)
    (key : List UInt8)
    (connections : Nat → Connection Endpoint)
    (requests : List SendRequest)
    (oneKey : ∀ index, (connections index).protocol.key = key)
    (minimum : ∀ request ∈ requests, 20 ≤ request.packet.length)
    (fresh : (requests.map fun request => request.draw.nonce).Nodup)
    (ideal :
      aead.Ideal key
        ((sendRun aead connections requests).flatMap Sent.calls)) :
    (∀ (receiver : UDPConnection Endpoint)
        (arrivals : List (ReceiveRequest Endpoint))
        (value : Int)
        (packet : List UInt8),
      receiver.protocol.key = key →
      (value, packet) ∈ receiver.receiveRun aead arrivals →
      value ≠ 0 →
      value ≠ -1 →
      IsSentPacket (sendRun aead connections requests) value packet) ∧
    (∀ (connection : TCPConnection)
        (events : List ReceiveEvent)
        (final : TcpReceiver)
        (returned : Returned),
      connection.protocol.key = key →
      StepSystem.run (TcpReceiver.step aead)
          (TcpReceiver.create connection) events =
        some final →
      returned ∈ final.returned →
      returned.value ≠ 0 →
      returned.value ≠ -1 →
      IsSentPacket (sendRun aead connections requests)
        returned.value returned.packet) := by
  have honest :=
    HonestSends.of_sendRun oneKey minimum fresh ideal
  constructor
  · intro receiver arrivals value packet sameKey member positive refused
    exact UDPConnection.receiveRun_authentic honest sameKey member
      positive refused
  · intro connection events final returned sameKey reached member
      positive _
    exact (TcpReceiver.run_authentic honest sameKey reached).delivered
      returned member positive

/-- A packet of twenty bytes, sent once. -/
def oneSend : List SendRequest :=
  [⟨0, .send, List.replicate 20 69, SendDraw.constant 1⟩]

theorem delivered_authentic_oneSend :
    let connection : UDPConnection Nat := UDPConnection.create [49]
    let aead :=
      Aead.logAead
        (frameCalls connection.protocol.key
          (List.replicate 20 69) (SendDraw.constant 1))
    ∀ (arrivals : List (ReceiveRequest Nat))
      (value : Int)
      (packet : List UInt8),
      (value, packet) ∈ connection.receiveRun aead arrivals →
      value ≠ 0 →
      value ≠ -1 →
      IsSentPacket
        (sendRun aead (fun _ => .udp connection) oneSend)
        value packet := by
  intro connection aead arrivals value packet
  refine (delivered_authentic aead connection.protocol.key
    (fun _ => .udp connection) oneSend (fun _ => rfl) (by decide)
    (by decide) ?_).1 connection arrivals value packet rfl
  have calls :=
    sendRun_oneDatagram aead connection
      (List.replicate 20 69) (SendDraw.constant 1) (by decide)
  rw [oneSend, calls]
  exact Aead.logAead_ideal _ _

end Dsvpn
