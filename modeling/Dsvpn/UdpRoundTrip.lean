import Dsvpn.FrameCodec
import Dsvpn.UdpConnection

namespace Dsvpn

open ProtocolHeader

/-!
# A packet survives the UDP codec

Whatever the two ends' buffers held before, a sealed packet that arrives as
one datagram is decoded to the same packet, also when its padding was cut off
by the receive buffer.
-/

namespace IConnection

/--
A buffer that starts with the header and the ciphertext of a frame decodes to
the frame's payload.  The bytes behind the ciphertext are never read.
-/
theorem decryptFrame_frame
    {aead : Aead 16}
    (correct : aead.Correct)
    (self : IConnection)
    {payload : List UInt8}
    {draw : SendDraw}
    {known : Nat}
    (fits : payload.length ≤ MAX_BUFFSIZE)
    (nonempty : 0 < payload.length)
    (covered : Size + payload.length ≤ known)
    (held :
      self.conn_recv_buffer.slice 0 known =
        (frameBytes aead self.protocol.key payload draw).take known) :
    ∃ result,
      self.decryptFrame aead = some (result, (payload.length : Int)) ∧
        result.protocol.aes256gcm_crypto =
          self.protocol.aes256gcm_crypto ∧
        result.conn_recv_buffer.slice Size payload.length = payload := by
  simp only [Size] at covered
  let buffer := self.conn_recv_buffer
  have nonce : NONCE buffer = draw.nonce :=
    (Buffer.slice_of_prefix held (by omega)).trans
      (frameBytes_nonce aead _ payload draw)
  have lenTag : LEN_TAG buffer = _ :=
    (Buffer.slice_of_prefix held (by omega)).trans
      (frameBytes_lenTag aead _ payload draw)
  have payloadTag : PAYLOAD_TAG buffer = _ :=
    (Buffer.slice_of_prefix held (by omega)).trans
      (frameBytes_payloadTag aead _ payload draw)
  have lengths : lengthFields buffer = _ :=
    (Buffer.slice_of_prefix held (by omega)).trans
      (frameBytes_lengthFields aead _ payload draw)
  have ciphertext : buffer.slice Size payload.length = _ :=
    (Buffer.slice_of_prefix held (by simp only [Size]; omega)).trans
      (frameBytes_ciphertext aead _ payload draw)
  have header :=
    Protocol.DecryptHeader_frame correct nonce lenTag lengths fits
  obtain ⟨accepts, _⟩ :=
    Protocol.DecryptPayload_opened aead self.protocol buffer draw fits
  obtain ⟨_, opened⟩ := accepts payload (by
    rw [nonce, ciphertext, payloadTag]
    exact correct _ _ _)
  have positive : bodyLength payload draw ≠ 0 := by
    unfold bodyLength
    omega
  have length :
      PAYLOAD_LENGTH
          ((buffer.overwrite 44 (lengthsOf payload draw)).overwrite
            Size payload) =
        payload.length := by
    rw [PAYLOAD_LENGTH,
      Buffer.slice_overwrite_disjoint _ (Or.inl (by simp [Size]))]
    exact (Protocol.openedHeader_fields buffer draw fits).1
  refine ⟨{ self with
      protocol :=
        { self.protocol with
          decryptedData :=
            self.protocol.decryptedData.overwrite 0 payload }
      conn_recv_buffer :=
        (buffer.overwrite 44 (lengthsOf payload draw)).overwrite
          Size payload }, ?_, rfl, ?_⟩
  · unfold decryptFrame
    rw [header]
    simp only [positive, if_false]
    rw [opened]
    simp only [Option.bind_eq_bind, Option.bind_some, length, if_true]
  · exact Buffer.slice_overwrite_same _ _ _ (by
      simp only [Size, MAX_BUFFSIZE] at *
      omega)

end IConnection

namespace UDPConnection

variable {Endpoint : Type}

/--
`frame`, arriving in one datagram from `source`, is received as `payload`:
the returned value is its length, and the buffer holds it behind the header.
-/
def ReceivedAs
    [DecidableEq Endpoint]
    (aead : Aead 16)
    (mtu : Nat)
    (frame payload : List UInt8)
    (source : Endpoint)
    (receiver : UDPConnection Endpoint) : Prop :=
  (∃ result,
    receiver.ReceiveFrom aead (mtu + Size) (some (source, frame)) =
        some (result, (payload.length : Int)) ∧
      result.conn_recv_buffer.slice Size payload.length = payload) ∧
    (receiver.remote_send_ep = some source →
      ∃ result,
        receiver.Receive aead (mtu + Size) (some (source, frame)) =
            some (result, (payload.length : Int)) ∧
          result.conn_recv_buffer.slice Size payload.length = payload)

/-- A frame of the receiver's key is received as its payload. -/
theorem receivedAs_frame
    [DecidableEq Endpoint]
    {aead : Aead 16}
    (correct : aead.Correct)
    {mtu : Nat}
    {payload : List UInt8}
    {draw : SendDraw}
    {source : Endpoint}
    {receiver : UDPConnection Endpoint}
    (mtuMaximum : mtu ≤ MAX_BUFFSIZE)
    (nonempty : 0 < payload.length)
    (fits : payload.length ≤ mtu) :
    ReceivedAs aead mtu
      (frameBytes aead receiver.protocol.key payload draw)
      payload source receiver := by
  let frame := frameBytes aead receiver.protocol.key payload draw
  let cut := frame.take (mtu + Size)
  let received : UDPConnection Endpoint :=
    { receiver with
      conn_recv_buffer := receiver.conn_recv_buffer.overwrite 0 cut
      last_recv_ep := some source }
  have cutLength :
      cut.length = min (mtu + Size) (Size + bodyLength payload draw) := by
    simp [cut, frame]
  have covered : Size + payload.length ≤ cut.length := by
    rw [cutLength]
    simp only [bodyLength]
    omega
  have inside : 0 + cut.length ≤ 2000 := by
    rw [cutLength]
    simp only [Size, MAX_BUFFSIZE] at *
    omega
  have arrived :
      receiver.asyncReceiveFrom (mtu + Size) (some (source, frame)) =
        some received := by
    simp only [asyncReceiveFrom]
    rw [Buffer.store?_eq_some _ inside]
    rfl
  have held :
      received.conn_recv_buffer.slice 0 cut.length =
        frame.take cut.length := by
    have same := Buffer.slice_overwrite_same
      receiver.conn_recv_buffer _ _ inside
    rw [same]
    simp [cut]
  obtain ⟨result, decoded, _, delivered⟩ :=
    received.toIConnection.decryptFrame_frame correct
      (Nat.le_trans fits mtuMaximum) nonempty covered held
  constructor
  · refine ⟨{ received with toIConnection := result }, ?_, delivered⟩
    unfold ReceiveFrom resumeReceiveFrom
    simp only [Option.bind_eq_bind]
    rw [arrived, Option.bind_some, decoded, Option.bind_some]
  · intro fromServer
    refine ⟨{ received with toIConnection := result }, ?_, delivered⟩
    unfold Receive resumeReceive
    simp only [Option.bind_eq_bind]
    rw [arrived, Option.bind_some, if_neg, decoded, Option.bind_some]
    simp [received, fromServer]

/--
A packet that `sender` reads from its TUN device and seals with `Send` or
`SendTo` is received as that packet.
-/
def DeliversUnchanged
    [DecidableEq Endpoint]
    (aead : Aead 16)
    (mtu : Nat)
    (payload : List UInt8)
    (draw : SendDraw)
    (source : Endpoint)
    (sender receiver : UDPConnection Endpoint) : Prop :=
  ∃ ready,
    sender.readTun payload = some ready ∧
      (∃ sent datagram,
        ready.Send aead payload.length draw = some (sent, datagram) ∧
          ReceivedAs aead mtu datagram.bytes payload source
            receiver) ∧
      (∃ sent datagram,
        ready.SendTo aead payload.length draw = some (sent, datagram) ∧
          ReceivedAs aead mtu datagram.bytes payload source receiver)

/-- A packet in the TUN buffer is sealed by `Send` and `SendTo` alike. -/
theorem send_readTun
    (aead : Aead 16)
    (sender : UDPConnection Endpoint)
    (payload : List UInt8)
    (draw : SendDraw)
    (fits : payload.length ≤ MAX_BUFFSIZE) :
    ∃ ready,
      sender.readTun payload = some ready ∧
        (∃ sent,
          ready.Send aead payload.length draw =
            some (sent, ⟨sender.remote_send_ep,
              frameBytes aead sender.protocol.key payload draw⟩)) ∧
        (∃ sent,
          ready.SendTo aead payload.length draw =
            some (sent, ⟨sender.last_recv_ep,
              frameBytes aead sender.protocol.key payload draw⟩)) := by
  obtain ⟨buffer, result, staged, sealed, _⟩ :=
    sender.toIConnection.readTun_encryptFrame aead payload draw fits
  refine ⟨{ sender with tun_recv_buffer := buffer }, ?_,
    ⟨{ sender with toIConnection := result }, ?_⟩,
    ⟨{ sender with toIConnection := result }, ?_⟩⟩
  · simp only [readTun, staged]
    rfl
  · simp only [Send]
    rw [sealed]
    rfl
  · simp only [SendTo]
    rw [sealed]
    rfl

/--
Every packet that fits the common MTU is delivered unchanged by either
receive operation after either send operation, over any earlier contents of
the buffers.
-/
theorem codec_roundTrip
    [DecidableEq Endpoint]
    (aead : Aead 16)
    (correct : aead.Correct)
    (conn_key : List UInt8)
    (mtu : Nat)
    (mtuMaximum : mtu ≤ 1500)
    (payload : List UInt8)
    (nonempty : 1 ≤ payload.length)
    (fits : payload.length ≤ mtu)
    (draw : SendDraw)
    (sender receiver : UDPConnection Endpoint)
    (senderKey : sender.protocol.key = AES256GCM.keyOf conn_key)
    (receiverKey : receiver.protocol.key = AES256GCM.keyOf conn_key)
    (source : Endpoint) :
    DeliversUnchanged aead mtu payload draw source sender receiver := by
  obtain ⟨ready, staged, ⟨sent, sends⟩, ⟨sentTo, sendsTo⟩⟩ :=
    sender.send_readTun aead payload draw (Nat.le_trans fits mtuMaximum)
  have received : ReceivedAs aead mtu
      (frameBytes aead sender.protocol.key payload draw)
      payload source receiver := by
    rw [senderKey, ← receiverKey]
    exact receivedAs_frame correct mtuMaximum nonempty fits
  exact ⟨ready, staged, ⟨sent, _, sends, received⟩,
    ⟨sentTo, _, sendsTo, received⟩⟩

theorem codec_roundTrip_shortPacket :
    DeliversUnchanged Aead.checksumAead 1448 [69, 0, 0, 3]
      (SendDraw.constant 7) (1 : Nat)
      (UDPConnection.create [49, 50, 51])
      { UDPConnection.create [49, 50, 51] with
        remote_send_ep := some 1 } :=
  codec_roundTrip Aead.checksumAead Aead.checksumAead_correct
    [49, 50, 51] 1448 (by decide) [69, 0, 0, 3] (by decide) (by decide)
    (SendDraw.constant 7) (UDPConnection.create [49, 50, 51])
    { UDPConnection.create [49, 50, 51] with remote_send_ep := some 1 }
    rfl rfl 1

end UDPConnection

end Dsvpn
