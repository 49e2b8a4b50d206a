import Dsvpn.IConnection

namespace Dsvpn

open ProtocolHeader

/-!
# What a frame is, and how the protocol seals and opens one

`frameBytes` states the wire format: nonce, tag of the lengths, tag of the
payload, encrypted lengths, encrypted payload, padding.  `encryptFrame_spec`
shows that the in-place encryption emits exactly these bytes, whatever the
buffers held before.  The opening lemmas say what the two decryption
operations do on a buffer, in terms of the header fields it holds.
-/

/-- The padding `addObfuscation` puts behind a payload. -/
def paddingOf
    (payload : List UInt8)
    (draw : SendDraw) : List UInt8 :=
  if payload.length > OBF_THRESHOLD then [] else draw.padding

/-- The two length fields of a frame, before they are encrypted. -/
def lengthsOf
    (payload : List UInt8)
    (draw : SendDraw) : List UInt8 :=
  word32 payload.length ++ word32 (paddingOf payload draw).length

/-- The length of what follows the header of a frame. -/
def bodyLength
    (payload : List UInt8)
    (draw : SendDraw) : Nat :=
  payload.length + (paddingOf payload draw).length

/-- The bytes of a frame on the wire. -/
def frameBytes
    (aead : Aead 16)
    (key payload : List UInt8)
    (draw : SendDraw) : List UInt8 :=
  draw.nonce ++
    ((aead.encrypt key draw.nonce (lengthsOf payload draw)).2 ++
      ((aead.encrypt key draw.nonce payload).2 ++
        ((aead.encrypt key draw.nonce (lengthsOf payload draw)).1 ++
          ((aead.encrypt key draw.nonce payload).1 ++
            paddingOf payload draw))))

/-- The two encryption calls of one frame. -/
def frameCalls
    (key payload : List UInt8)
    (draw : SendDraw) : List Aead.Call :=
  [⟨key, draw.nonce, payload⟩, ⟨key, draw.nonce, lengthsOf payload draw⟩]

theorem length_paddingOf_le
    (payload : List UInt8)
    (draw : SendDraw) :
    (paddingOf payload draw).length ≤ OBF_MAXPADDLE := by
  unfold paddingOf
  split
  · simp
  · exact draw.padding_max

/-- A frame whose payload fits the scratch arrays fits the packet buffers. -/
theorem bodyLength_le
    {payload : List UInt8}
    (draw : SendDraw)
    (fits : payload.length ≤ MAX_BUFFSIZE) :
    bodyLength payload draw ≤ MAX_BUFFSIZE := by
  have padding := draw.padding_max
  unfold bodyLength paddingOf
  split
  · simpa using fits
  · simp only [OBF_THRESHOLD, OBF_MAXPADDLE, MAX_BUFFSIZE] at *
    omega

@[simp] theorem length_lengthsOf
    (payload : List UInt8)
    (draw : SendDraw) :
    (lengthsOf payload draw).length = 8 := by
  simp [lengthsOf]

@[simp] theorem length_frameBytes
    (aead : Aead 16)
    (key payload : List UInt8)
    (draw : SendDraw) :
    (frameBytes aead key payload draw).length =
      Size + bodyLength payload draw := by
  simp only [frameBytes, List.length_append, aead.ciphertext_length,
    aead.tag_length, draw.nonce_length, length_lengthsOf, bodyLength, Size]
  omega

section Fields

variable
    (aead : Aead 16)
    (key payload : List UInt8)
    (draw : SendDraw)

theorem frameBytes_nonce :
    (frameBytes aead key payload draw).take 12 = draw.nonce :=
  List.take_left' draw.nonce_length

private theorem frameBytes_drop_nonce :
    (frameBytes aead key payload draw).drop 12 =
      (aead.encrypt key draw.nonce (lengthsOf payload draw)).2 ++
        ((aead.encrypt key draw.nonce payload).2 ++
          ((aead.encrypt key draw.nonce (lengthsOf payload draw)).1 ++
            ((aead.encrypt key draw.nonce payload).1 ++
              paddingOf payload draw))) :=
  List.drop_left' draw.nonce_length

theorem frameBytes_lenTag :
    ((frameBytes aead key payload draw).drop 12).take 16 =
      (aead.encrypt key draw.nonce (lengthsOf payload draw)).2 := by
  rw [frameBytes_drop_nonce]
  exact List.take_left' (aead.tag_length _ _ _)

private theorem frameBytes_drop_lenTag :
    (frameBytes aead key payload draw).drop 28 =
      (aead.encrypt key draw.nonce payload).2 ++
        ((aead.encrypt key draw.nonce (lengthsOf payload draw)).1 ++
          ((aead.encrypt key draw.nonce payload).1 ++
            paddingOf payload draw)) := by
  rw [show 28 = 12 + 16 from rfl, ← List.drop_drop,
    frameBytes_drop_nonce]
  exact List.drop_left' (aead.tag_length _ _ _)

theorem frameBytes_payloadTag :
    ((frameBytes aead key payload draw).drop 28).take 16 =
      (aead.encrypt key draw.nonce payload).2 := by
  rw [frameBytes_drop_lenTag]
  exact List.take_left' (aead.tag_length _ _ _)

private theorem frameBytes_drop_payloadTag :
    (frameBytes aead key payload draw).drop 44 =
      (aead.encrypt key draw.nonce (lengthsOf payload draw)).1 ++
        ((aead.encrypt key draw.nonce payload).1 ++
          paddingOf payload draw) := by
  rw [show 44 = 28 + 16 from rfl, ← List.drop_drop,
    frameBytes_drop_lenTag]
  exact List.drop_left' (aead.tag_length _ _ _)

private theorem length_encryptedLengths :
    (aead.encrypt key draw.nonce (lengthsOf payload draw)).1.length =
      8 := by
  rw [aead.ciphertext_length, length_lengthsOf]

theorem frameBytes_lengthFields :
    ((frameBytes aead key payload draw).drop 44).take 8 =
      (aead.encrypt key draw.nonce (lengthsOf payload draw)).1 := by
  rw [frameBytes_drop_payloadTag]
  exact List.take_left' (length_encryptedLengths aead key payload draw)

/-- Behind the header lie the ciphertext and the padding. -/
theorem frameBytes_body :
    (frameBytes aead key payload draw).drop Size =
      (aead.encrypt key draw.nonce payload).1 ++
        paddingOf payload draw := by
  rw [show Size = 44 + 8 from rfl, ← List.drop_drop,
    frameBytes_drop_payloadTag]
  exact List.drop_left' (length_encryptedLengths aead key payload draw)

theorem frameBytes_ciphertext :
    ((frameBytes aead key payload draw).drop Size).take
        payload.length =
      (aead.encrypt key draw.nonce payload).1 := by
  rw [frameBytes_body]
  exact List.take_left' (aead.ciphertext_length _ _ _)

end Fields

namespace ProtocolHeader

/-- The two length fields are the halves of their eight bytes. -/
theorem lengths_of_lengthFields
    {header : PacketBuffer}
    {payloadLength paddingLength : Nat}
    (fields :
      lengthFields header =
        word32 payloadLength ++ word32 paddingLength) :
    PAYLOAD_LENGTH header = payloadLength % 2 ^ 32 ∧
      PADDING_LENGTH header = paddingLength % 2 ^ 32 := by
  have halves :
      header.slice 44 4 ++ header.slice 48 4 =
        word32 payloadLength ++ word32 paddingLength := by
    rw [← fields, lengthFields, Buffer.slice_append header 44 4 4]
  obtain ⟨first, second⟩ := List.append_inj halves (by simp)
  exact ⟨by rw [PAYLOAD_LENGTH, first, ofWord32_word32],
    by rw [PADDING_LENGTH, second, ofWord32_word32]⟩

end ProtocolHeader

/-! ## Sealing -/

namespace Protocol

/--
`addObfuscation` writes the padding length and the padding, and nothing in
front of or inside the payload.
-/
theorem addObfuscation_spec
    (header : PacketBuffer)
    (payload : List UInt8)
    (draw : SendDraw)
    (length : PAYLOAD_LENGTH header = payload.length)
    (fits : payload.length ≤ MAX_BUFFSIZE) :
    ∃ result,
      addObfuscation header draw = some result ∧
        result.slice 0 48 = header.slice 0 48 ∧
        result.slice 48 4 =
          word32 (paddingOf payload draw).length ∧
        result.slice Size payload.length =
          header.slice Size payload.length ∧
        result.slice (Size + payload.length)
            (paddingOf payload draw).length =
          paddingOf payload draw := by
  have maximum := draw.padding_max
  simp only [Size, MAX_BUFFSIZE, OBF_MAXPADDLE] at *
  by_cases long : payload.length > OBF_THRESHOLD
  · refine ⟨header.overwrite 48 (word32 0), ?_, ?_, ?_, ?_, ?_⟩
    · simp [addObfuscation, length, long]
    · exact Buffer.slice_overwrite_disjoint _ (by simp)
    · simpa [paddingOf, long] using
        Buffer.slice_overwrite_same header 48 (word32 0) (by simp)
    · exact Buffer.slice_overwrite_disjoint _ (by simp)
    · simp [paddingOf, long]
  · have short : payload.length ≤ OBF_THRESHOLD := by omega
    have padding : paddingOf payload draw = draw.padding := by
      simp [paddingOf, long]
    simp only [OBF_THRESHOLD] at short
    have inside :
        52 + payload.length + draw.padding.length ≤ 1500 + 500 := by
      omega
    refine ⟨(header.overwrite (52 + payload.length) draw.padding).overwrite
      48 (word32 draw.padding.length), ?_, ?_, ?_, ?_, ?_⟩
    · rw [addObfuscation, length, if_neg long,
        Buffer.store?_eq_some header inside]
      rfl
    · rw [Buffer.slice_overwrite_disjoint _ (by simp),
        Buffer.slice_overwrite_disjoint _ (by omega)]
    · rw [padding]
      exact Buffer.slice_overwrite_same _ _ _ (by simp)
    · rw [Buffer.slice_overwrite_disjoint _ (by simp),
        Buffer.slice_overwrite_disjoint _ (by omega)]
    · rw [padding, Buffer.slice_overwrite_disjoint _ (by simp)]
      exact Buffer.slice_overwrite_same _ _ _ inside

/--
`EncryptPayload` draws the nonce, replaces the payload by its ciphertext and
fills in the payload tag, the padding and the padding length.
-/
theorem EncryptPayload_spec
    (aead : Aead 16)
    (self : Protocol)
    {header : PacketBuffer}
    {payload : List UInt8}
    (draw : SendDraw)
    (length : header.slice 44 4 = word32 payload.length)
    (held : header.slice Size payload.length = payload)
    (fits : payload.length ≤ MAX_BUFFSIZE) :
    ∃ protocol result,
      self.EncryptPayload aead header draw = some (protocol, result) ∧
        protocol.key = self.key ∧
        protocol.calls =
          self.calls ++ [⟨self.key, draw.nonce, payload⟩] ∧
        protocol.decryptedData = self.decryptedData ∧
        NONCE result = draw.nonce ∧
        PAYLOAD_TAG result =
          (aead.encrypt self.key draw.nonce payload).2 ∧
        lengthFields result = lengthsOf payload draw ∧
        result.slice Size payload.length =
          (aead.encrypt self.key draw.nonce payload).1 ∧
        result.slice (Size + payload.length)
            (paddingOf payload draw).length =
          paddingOf payload draw := by
  have ciphertextLength :=
    aead.ciphertext_length self.key draw.nonce payload
  have tagLength := aead.tag_length self.key draw.nonce payload
  have nonceLength := draw.nonce_length
  simp only [Size, MAX_BUFFSIZE] at *
  generalize sealed : aead.encrypt self.key draw.nonce payload = output at *
  obtain ⟨ciphertext, tag⟩ := output
  simp only at ciphertextLength tagLength
  -- the nonce is in place, and the length and the payload are still there
  let nonced := header.overwrite 0 draw.nonce
  have noncedLength : nonced.slice 44 4 = word32 payload.length := by
    rw [← length]
    exact Buffer.slice_overwrite_disjoint _ (by omega)
  have noncedPayload : nonced.slice 52 payload.length = payload := by
    rw [Buffer.slice_overwrite_disjoint _ (by omega)]
    exact held
  have noncedNonce : NONCE nonced = draw.nonce := by
    have same :=
      Buffer.slice_overwrite_same header 0 draw.nonce (by omega)
    rwa [nonceLength] at same
  -- the tag and the ciphertext are in place
  let tagged := nonced.overwrite 28 tag
  let filled := tagged.overwrite 52 ciphertext
  have taggedLength : PAYLOAD_LENGTH tagged = payload.length := by
    rw [PAYLOAD_LENGTH, Buffer.slice_overwrite_disjoint _ (by omega),
      noncedLength, ofWord32_word32]
    omega
  have filledLength : filled.slice 44 4 = word32 payload.length := by
    rw [Buffer.slice_overwrite_disjoint _ (by omega),
      Buffer.slice_overwrite_disjoint _ (by omega), noncedLength]
  have filledNonce : filled.slice 0 12 = draw.nonce := by
    rw [Buffer.slice_overwrite_disjoint _ (by omega),
      Buffer.slice_overwrite_disjoint _ (by omega)]
    exact noncedNonce
  have filledTag : filled.slice 28 16 = tag := by
    rw [Buffer.slice_overwrite_disjoint _ (by omega), ← tagLength]
    exact Buffer.slice_overwrite_same _ _ _ (by omega)
  have filledPayload :
      filled.slice 52 payload.length = ciphertext := by
    rw [← ciphertextLength]
    exact Buffer.slice_overwrite_same _ _ _ (by omega)
  obtain ⟨result, obfuscated, front, paddingLength, body, padding⟩ :=
    addObfuscation_spec filled payload draw
      (by rw [PAYLOAD_LENGTH, filledLength, ofWord32_word32]; omega)
      fits
  have storedCiphertext :
      (self.encryptedData.overwrite 0 ciphertext).slice
          0 payload.length =
        ciphertext := by
    rw [← ciphertextLength]
    exact Buffer.slice_overwrite_same _ _ _ (by omega)
  refine ⟨{ self with
      aes256gcm_crypto :=
        (self.aes256gcm_crypto.encryptData aead draw.nonce payload).1
      encryptedData := self.encryptedData.overwrite 0 ciphertext },
    result, ?_, rfl, rfl, rfl, ?_, ?_, ?_, ?_, padding⟩
  · have loaded :
        nonced.load? 52 (PAYLOAD_LENGTH nonced) = some payload := by
      rw [PAYLOAD_LENGTH, noncedLength, ofWord32_word32,
        Nat.mod_eq_of_lt (by omega), Buffer.load?_eq_some _ (by omega),
        noncedPayload]
    have stored :
        self.encryptedData.store? 0 ciphertext =
          some (self.encryptedData.overwrite 0 ciphertext) :=
      Buffer.store?_eq_some _ (by omega)
    have copied :
        (self.encryptedData.overwrite 0 ciphertext).load?
            0 (PAYLOAD_LENGTH tagged) =
          some ciphertext := by
      rw [taggedLength, Buffer.load?_eq_some _ (by omega),
        storedCiphertext]
    have copiedBack : tagged.store? 52 ciphertext = some filled :=
      Buffer.store?_eq_some _ (by omega)
    have encrypted :
        self.aes256gcm_crypto.encryptData aead
            (NONCE nonced) payload =
          ((self.aes256gcm_crypto.encryptData aead
            draw.nonce payload).1, ciphertext, tag) := by
      rw [noncedNonce]
      simp only [AES256GCM.encryptData]
      exact congrArg (Prod.mk _) sealed
    unfold EncryptPayload
    simp only [Option.bind_eq_bind]
    rw [show header.overwrite 0 draw.nonce = nonced from rfl, loaded,
      Option.bind_some, encrypted]
    simp only [stored, Option.bind_some]
    rw [show nonced.overwrite 28 tag = tagged from rfl, copied,
      Option.bind_some, copiedBack, Option.bind_some, obfuscated]
    rfl
  · rw [NONCE, ← filledNonce]
    exact Buffer.slice_congr front (by omega)
  · rw [PAYLOAD_TAG, ← filledTag]
    exact Buffer.slice_congr front (by omega)
  · have firstLength : result.slice 44 4 = word32 payload.length := by
      rw [← filledLength]
      exact Buffer.slice_congr front (by omega)
    rw [lengthFields, Buffer.slice_append result 44 4 4,
      firstLength, paddingLength]
    rfl
  · rw [body, filledPayload]

/--
`EncryptHeader` encrypts the two lengths under the nonce the header already
holds, and returns their sum.
-/
theorem EncryptHeader_spec
    (aead : Aead 16)
    (self : Protocol)
    {header : PacketBuffer}
    {payload : List UInt8}
    (draw : SendDraw)
    (nonce : NONCE header = draw.nonce)
    (lengths : lengthFields header = lengthsOf payload draw)
    (fits : payload.length ≤ MAX_BUFFSIZE) :
    ∃ protocol result,
      self.EncryptHeader aead header =
          (protocol, result, bodyLength payload draw) ∧
        protocol.key = self.key ∧
        protocol.calls =
          self.calls ++
            [⟨self.key, draw.nonce, lengthsOf payload draw⟩] ∧
        protocol.decryptedData = self.decryptedData ∧
        NONCE result = draw.nonce ∧
        LEN_TAG result =
          (aead.encrypt self.key draw.nonce
            (lengthsOf payload draw)).2 ∧
        PAYLOAD_TAG result = PAYLOAD_TAG header ∧
        lengthFields result =
          (aead.encrypt self.key draw.nonce
            (lengthsOf payload draw)).1 ∧
        ∀ offset length, Size ≤ offset →
          result.slice offset length = header.slice offset length := by
  have ciphertextLength :=
    aead.ciphertext_length self.key draw.nonce (lengthsOf payload draw)
  have tagLength :=
    aead.tag_length self.key draw.nonce (lengthsOf payload draw)
  have sum :
      (PADDING_LENGTH header + PAYLOAD_LENGTH header) % 2 ^ 32 =
        bodyLength payload draw := by
    have maximum := length_paddingOf_le payload draw
    have bound := bodyLength_le draw fits
    obtain ⟨first, second⟩ :=
      lengths_of_lengthFields lengths
    rw [first, second]
    simp only [bodyLength, MAX_BUFFSIZE, OBF_MAXPADDLE] at *
    omega
  rw [length_lengthsOf] at ciphertextLength
  refine ⟨{ self with
      aes256gcm_crypto :=
        (self.aes256gcm_crypto.encryptData aead draw.nonce
          (lengthsOf payload draw)).1 },
    (header.overwrite 12 (aead.encrypt self.key draw.nonce
      (lengthsOf payload draw)).2).overwrite 44
        (aead.encrypt self.key draw.nonce (lengthsOf payload draw)).1,
    ?_, rfl, rfl, rfl, ?_, ?_, ?_, ?_, ?_⟩
  · unfold EncryptHeader
    simp only [AES256GCM.encryptData, nonce, lengths, sum]
    rfl
  · rw [NONCE, Buffer.slice_overwrite_disjoint _ (by omega),
      Buffer.slice_overwrite_disjoint _ (by omega)]
    exact nonce
  · rw [LEN_TAG, Buffer.slice_overwrite_disjoint _ (by omega)]
    have same := Buffer.slice_overwrite_same header 12
      (aead.encrypt self.key draw.nonce
        (lengthsOf payload draw)).2 (by omega)
    rwa [tagLength] at same
  · rw [PAYLOAD_TAG, Buffer.slice_overwrite_disjoint _ (by omega),
      Buffer.slice_overwrite_disjoint _ (by omega)]
    rfl
  · have same := Buffer.slice_overwrite_same
      (header.overwrite 12 (aead.encrypt self.key draw.nonce
        (lengthsOf payload draw)).2)
      44
      (aead.encrypt self.key draw.nonce
        (lengthsOf payload draw)).1 (by omega)
    rw [ciphertextLength] at same
    exact same
  · intro offset length behind
    simp only [Size] at behind
    rw [Buffer.slice_overwrite_disjoint _ (by omega),
      Buffer.slice_overwrite_disjoint _ (by omega)]

/-- A payload longer than the scratch array is not encrypted in bounds. -/
theorem EncryptPayload_outOfBounds
    (aead : Aead 16)
    (self : Protocol)
    {header : PacketBuffer}
    (draw : SendDraw)
    (long : MAX_BUFFSIZE < PAYLOAD_LENGTH header) :
    self.EncryptPayload aead header draw = none := by
  have nonceLength := draw.nonce_length
  have sameLength :
      PAYLOAD_LENGTH (header.overwrite 0 draw.nonce) =
        PAYLOAD_LENGTH header := by
    rw [PAYLOAD_LENGTH, Buffer.slice_overwrite_disjoint _ (by omega)]
    rfl
  simp only [MAX_BUFFSIZE] at long
  unfold EncryptPayload
  simp only [Option.bind_eq_bind, sameLength]
  by_cases inside : Size + PAYLOAD_LENGTH header ≤ 2000
  · rw [Buffer.load?_eq_some _ inside, Option.bind_some]
    simp only [AES256GCM.encryptData]
    rw [Buffer.store?, if_neg, Option.bind_none]
    rw [aead.ciphertext_length, Buffer.length_slice]
    omega
  · rw [Buffer.load?, if_neg inside, Option.bind_none]

end Protocol

namespace IConnection

/--
Sealing a packet that lies behind the header space emits exactly its frame
and logs exactly its two encryption calls.  What the buffers held before does
not matter.
-/
theorem encryptFrame_spec
    (aead : Aead 16)
    (self : IConnection)
    (payload : List UInt8)
    (size : Nat)
    (draw : SendDraw)
    (length : payload.length = size % 2 ^ 32)
    (held : self.tun_recv_buffer.slice Size payload.length = payload)
    (fits : payload.length ≤ MAX_BUFFSIZE) :
    ∃ result,
      self.encryptFrame aead size draw =
          some (result,
            frameBytes aead self.protocol.key payload draw) ∧
        result.protocol.key = self.protocol.key ∧
        result.protocol.calls =
          self.protocol.calls ++
            frameCalls self.protocol.key payload draw ∧
        result.protocol.decryptedData = self.protocol.decryptedData ∧
        result.conn_recv_buffer = self.conn_recv_buffer := by
  let sized :=
    (self.tun_recv_buffer.overwrite 44 (word32 size)).overwrite
      48 (word32 0)
  have sizedLength : sized.slice 44 4 = word32 payload.length := by
    rw [Buffer.slice_overwrite_disjoint _ (by omega), length, word32_mod]
    exact Buffer.slice_overwrite_same _ _ _ (by simp)
  have sizedPayload : sized.slice Size payload.length = payload := by
    rw [Buffer.slice_overwrite_disjoint _ (Or.inr (by simp)),
      Buffer.slice_overwrite_disjoint _ (Or.inr (by simp [Size]))]
    exact held
  obtain ⟨encrypted, header, encryption, key, calls, scratch,
      nonce, payloadTag, lengths, ciphertext, padding⟩ :=
    self.protocol.EncryptPayload_spec aead draw
      sizedLength sizedPayload fits
  obtain ⟨sealed, frameHeader, headerEncryption, sealedKey, sealedCalls,
      sealedScratch, frameNonce, lenTag, frameTag, encryptedLengths,
      behind⟩ :=
    encrypted.EncryptHeader_spec aead draw nonce lengths fits
  have bound := bodyLength_le draw fits
  rw [key] at sealedKey sealedCalls lenTag encryptedLengths
  refine ⟨{ self with
      protocol := sealed
      tun_recv_buffer := frameHeader }, ?_, sealedKey, ?_, ?_, rfl⟩
  · have total :
        (bodyLength payload draw + Size) % 2 ^ 32 =
          12 + (16 + (16 + (8 + (payload.length +
            (paddingOf payload draw).length)))) := by
      simp only [bodyLength, Size, MAX_BUFFSIZE] at *
      omega
    have frame :
        frameHeader.slice 0
            (12 + (16 + (16 + (8 + (payload.length +
              (paddingOf payload draw).length))))) =
          frameBytes aead self.protocol.key payload draw := by
      -- cut the emitted bytes at the fields of the wire format
      simp only [Buffer.slice_append, frameBytes]
      congr 1
      congr 1
      congr 1
      · exact frameTag.trans payloadTag
      congr 1
      congr 1
      · exact (behind _ _ (Nat.le_refl _)).trans ciphertext
      · exact (behind _ _ (by simp)).trans padding
    unfold encryptFrame
    simp only [Option.bind_eq_bind]
    rw [encryption, Option.bind_some]
    simp only [headerEncryption]
    rw [total, Buffer.load?_eq_some _ (by
      simp only [bodyLength, MAX_BUFFSIZE] at bound; omega), frame]
    rfl
  · rw [sealedCalls, calls, frameCalls, List.append_assoc]
    rfl
  · rw [sealedScratch, scratch]

/--
A packet that fits the scratch array can be read from the TUN device and
sealed; the receive buffer is not touched.
-/
theorem readTun_encryptFrame
    (aead : Aead 16)
    (self : IConnection)
    (packet : List UInt8)
    (draw : SendDraw)
    (fits : packet.length ≤ MAX_BUFFSIZE) :
    ∃ buffer result,
      self.readTun packet =
          some { self with tun_recv_buffer := buffer } ∧
        encryptFrame aead { self with tun_recv_buffer := buffer }
            packet.length draw =
          some (result,
            frameBytes aead self.protocol.key packet draw) ∧
        result.protocol.key = self.protocol.key ∧
        result.conn_recv_buffer = self.conn_recv_buffer := by
  have inside : Size + packet.length ≤ 2000 := by
    simp only [Size, MAX_BUFFSIZE] at *
    omega
  obtain ⟨result, sealed, key, _, _, untouched⟩ :=
    encryptFrame_spec aead
      { self with
        tun_recv_buffer := self.tun_recv_buffer.overwrite Size packet }
      packet packet.length draw
      (by simp only [MAX_BUFFSIZE] at fits; omega)
      (Buffer.slice_overwrite_same _ _ _ inside) fits
  refine ⟨_, result, ?_, sealed, key, untouched⟩
  simp only [readTun, Buffer.store?_eq_some _ inside,
    Option.bind_eq_bind, Option.bind_some]

/-- Sealing neither reads nor writes the receive buffer. -/
theorem encryptFrame_conn_recv_buffer
    (aead : Aead 16)
    (self : IConnection)
    (buffer : PacketBuffer)
    (size : Nat)
    (draw : SendDraw) :
    encryptFrame aead { self with conn_recv_buffer := buffer } size draw =
      (self.encryptFrame aead size draw).map fun output =>
        ({ output.1 with conn_recv_buffer := buffer }, output.2) := by
  unfold encryptFrame
  simp only [Option.bind_eq_bind, Option.map_bind]
  congr 1
  funext output
  simp only [Function.comp_apply, Option.map_bind]
  congr 1

/-- Sealing fails, out of bounds, exactly on sizes beyond the scratch array. -/
theorem encryptFrame_outOfBounds
    (aead : Aead 16)
    (self : IConnection)
    {size : Nat}
    (draw : SendDraw)
    (long : MAX_BUFFSIZE < size % 2 ^ 32) :
    self.encryptFrame aead size draw = none := by
  have sizedLength :
      PAYLOAD_LENGTH
          ((self.tun_recv_buffer.overwrite 44 (word32 size)).overwrite
            48 (word32 0)) =
        size % 2 ^ 32 := by
    rw [PAYLOAD_LENGTH, Buffer.slice_overwrite_disjoint _ (by omega),
      ← ofWord32_word32]
    exact congrArg ofWord32 (Buffer.slice_overwrite_same _ _ _ (by simp))
  unfold encryptFrame
  simp only [Option.bind_eq_bind]
  rw [Protocol.EncryptPayload_outOfBounds aead _ draw
    (by rw [sizedLength]; exact long), Option.bind_none]

end IConnection

/-! ## Opening -/

namespace ProtocolHeader

/-- The ciphertext `DecryptPayload` reads, as long as the header says. -/
def payloadCiphertext (header : PacketBuffer) : List UInt8 :=
  header.slice Size (PAYLOAD_LENGTH header)

/-- What is written behind the header leaves its lengths alone. -/
theorem PAYLOAD_LENGTH_overwrite
    (header : PacketBuffer)
    {offset : Nat}
    (data : List UInt8)
    (behind : Size ≤ offset) :
    PAYLOAD_LENGTH (header.overwrite offset data) =
      PAYLOAD_LENGTH header := by
  rw [PAYLOAD_LENGTH, Buffer.slice_overwrite_disjoint _
    (Or.inl (by simp only [Size] at behind; omega)), PAYLOAD_LENGTH]

end ProtocolHeader

namespace Protocol

/-- What `DecryptHeader` does when the length fields authenticate. -/
theorem DecryptHeader_accept
    {aead : Aead 16}
    {self : Protocol}
    {header : PacketBuffer}
    {len : List UInt8}
    (accepted :
      aead.decrypt self.key (NONCE header) (lengthFields header)
          (LEN_TAG header) =
        some len) :
    self.DecryptHeader aead header =
      (header.overwrite 44 len,
        (ofWord32 (len.take 4) + ofWord32 (len.drop 4)) % 2 ^ 32) := by
  unfold DecryptHeader AES256GCM.decryptData
  rw [show self.aes256gcm_crypto.key = self.key from rfl, accepted]

/-- A header that does not authenticate is left as it is. -/
theorem DecryptHeader_reject
    {aead : Aead 16}
    {self : Protocol}
    {header : PacketBuffer}
    (rejected :
      aead.decrypt self.key (NONCE header) (lengthFields header)
          (LEN_TAG header) =
        none) :
    self.DecryptHeader aead header = (header, 0) := by
  unfold DecryptHeader AES256GCM.decryptData
  rw [show self.aes256gcm_crypto.key = self.key from rfl, rejected]

/-- A positive result means that the length fields authenticated. -/
theorem DecryptHeader_ne_zero
    {aead : Aead 16}
    {self : Protocol}
    {header : PacketBuffer}
    (positive : (self.DecryptHeader aead header).2 ≠ 0) :
    ∃ len,
      len.length = 8 ∧
        aead.decrypt self.key (NONCE header) (lengthFields header)
            (LEN_TAG header) =
          some len ∧
        self.DecryptHeader aead header =
          (header.overwrite 44 len,
            (ofWord32 (len.take 4) + ofWord32 (len.drop 4)) % 2 ^ 32) := by
  cases outcome :
      aead.decrypt self.key (NONCE header) (lengthFields header)
        (LEN_TAG header) with
  | none =>
      rw [DecryptHeader_reject outcome] at positive
      exact (positive rfl).elim
  | some len =>
      have length := aead.plaintext_length outcome
      rw [lengthFields, Buffer.length_slice] at length
      exact ⟨len, length, rfl, DecryptHeader_accept outcome⟩

/-- A header below two buffers is opened in both in the same way. -/
theorem DecryptHeader_agree
    (aead : Aead 16)
    (first second : Protocol)
    {header other : PacketBuffer}
    (sameKey : first.key = second.key)
    (agree : Buffer.AgreeOn (fun index => index < Size) header other) :
    (first.DecryptHeader aead header = (header, 0) ∧
        second.DecryptHeader aead other = (other, 0)) ∨
      ∃ len payload_len,
        len.length = 8 ∧
          first.DecryptHeader aead header =
            (header.overwrite 44 len, payload_len) ∧
          second.DecryptHeader aead other =
            (other.overwrite 44 len, payload_len) := by
  have part (offset length : Nat) (inside : offset + length ≤ Size) :
      header.slice offset length = other.slice offset length :=
    agree.slice fun index _ _ => by omega
  have nonce : NONCE header = NONCE other := part 0 12 (by decide)
  have lengths : lengthFields header = lengthFields other :=
    part 44 8 (by decide)
  have tag : LEN_TAG header = LEN_TAG other := part 12 16 (by decide)
  cases outcome :
      aead.decrypt second.key (NONCE other) (lengthFields other)
        (LEN_TAG other) with
  | none =>
      refine Or.inl ⟨DecryptHeader_reject ?_, DecryptHeader_reject outcome⟩
      rw [sameKey, nonce, lengths, tag, outcome]
  | some len =>
      have length := aead.plaintext_length outcome
      rw [lengthFields, Buffer.length_slice] at length
      refine Or.inr ⟨len, _, length, DecryptHeader_accept ?_,
        DecryptHeader_accept outcome⟩
      rw [sameKey, nonce, lengths, tag, outcome]

/-- `DecryptPayload` accepts what decrypts, and copies it in place. -/
theorem DecryptPayload_accept
    {aead : Aead 16}
    {self : Protocol}
    {header : PacketBuffer}
    {plaintext : List UInt8}
    (fits : PAYLOAD_LENGTH header ≤ MAX_BUFFSIZE)
    (accepted :
      aead.decrypt self.key (NONCE header) (payloadCiphertext header)
          (PAYLOAD_TAG header) =
        some plaintext) :
    plaintext.length = PAYLOAD_LENGTH header ∧
      self.DecryptPayload aead header =
        some
          ({ self with
              decryptedData :=
                self.decryptedData.overwrite 0 plaintext },
            header.overwrite Size plaintext, true) := by
  have length : plaintext.length = PAYLOAD_LENGTH header := by
    rw [aead.plaintext_length accepted, payloadCiphertext,
      Buffer.length_slice]
  refine ⟨length, ?_⟩
  simp only [MAX_BUFFSIZE] at fits
  have copied :
      (self.decryptedData.overwrite 0 plaintext).slice
          0 (PAYLOAD_LENGTH header) =
        plaintext := by
    rw [← length]
    exact Buffer.slice_overwrite_same _ _ _ (by omega)
  unfold DecryptPayload AES256GCM.decryptData
  rw [if_neg (by simp only [MAX_BUFFSIZE]; omega)]
  simp only [Option.bind_eq_bind]
  rw [Buffer.load?_eq_some _ (by simp only [Size]; omega),
    Option.bind_some]
  rw [payloadCiphertext] at accepted
  rw [show self.aes256gcm_crypto.key = self.key from rfl]
  simp only [accepted]
  rw [Buffer.store?_eq_some _ (by omega), Option.bind_some,
    Buffer.load?_eq_some _ (by omega), Option.bind_some, copied,
    Buffer.store?_eq_some _ (by simp only [Size]; omega),
    Option.bind_some]

/-- `DecryptPayload` rejects everything else and leaves the buffer alone. -/
theorem DecryptPayload_reject
    {aead : Aead 16}
    {self : Protocol}
    {header : PacketBuffer}
    (rejected :
      MAX_BUFFSIZE < PAYLOAD_LENGTH header ∨
        aead.decrypt self.key (NONCE header) (payloadCiphertext header)
            (PAYLOAD_TAG header) =
          none) :
    self.DecryptPayload aead header = some (self, header, false) := by
  unfold DecryptPayload AES256GCM.decryptData
  by_cases long : PAYLOAD_LENGTH header > MAX_BUFFSIZE
  · rw [if_pos long]
  · rw [if_neg long]
    have fails := rejected.resolve_left long
    simp only [MAX_BUFFSIZE] at long
    simp only [Option.bind_eq_bind]
    rw [Buffer.load?_eq_some _ (by simp only [Size]; omega),
      Option.bind_some]
    rw [payloadCiphertext] at fails
    rw [show self.aes256gcm_crypto.key = self.key from rfl]
    simp only [fails]

/--
Everything `DecryptPayload` can do: it never leaves the arrays, it keeps the
crypto object, and it either accepts an authenticated payload or changes
nothing.
-/
theorem DecryptPayload_cases
    (aead : Aead 16)
    (self : Protocol)
    (header : PacketBuffer) :
    (∃ plaintext,
      PAYLOAD_LENGTH header ≤ MAX_BUFFSIZE ∧
        plaintext.length = PAYLOAD_LENGTH header ∧
        aead.decrypt self.key (NONCE header) (payloadCiphertext header)
            (PAYLOAD_TAG header) =
          some plaintext ∧
        self.DecryptPayload aead header =
          some
            ({ self with
                decryptedData :=
                  self.decryptedData.overwrite 0 plaintext },
              header.overwrite Size plaintext, true)) ∨
      self.DecryptPayload aead header = some (self, header, false) := by
  by_cases fits : PAYLOAD_LENGTH header ≤ MAX_BUFFSIZE
  · cases outcome :
        aead.decrypt self.key (NONCE header) (payloadCiphertext header)
          (PAYLOAD_TAG header) with
    | none =>
        exact Or.inr (DecryptPayload_reject (Or.inr outcome))
    | some plaintext =>
        obtain ⟨length, result⟩ := DecryptPayload_accept fits outcome
        exact Or.inl ⟨plaintext, fits, length, rfl, result⟩
  · exact Or.inr (DecryptPayload_reject (Or.inl (by omega)))

/-- `DecryptPayload` accepts what is in the buffer. -/
def acceptsPayload
    (aead : Aead 16)
    (self : Protocol)
    (header : PacketBuffer) : Bool :=
  match self.DecryptPayload aead header with
  | none => false
  | some (_, _, accepted) => accepted

theorem acceptsPayload_iff
    {aead : Aead 16}
    {protocol : Protocol}
    {header : PacketBuffer} :
    protocol.acceptsPayload aead header = true ↔
      PAYLOAD_LENGTH header ≤ MAX_BUFFSIZE ∧
        (aead.decrypt protocol.key (NONCE header)
          (payloadCiphertext header) (PAYLOAD_TAG header)).isSome := by
  unfold acceptsPayload
  by_cases fits : PAYLOAD_LENGTH header ≤ MAX_BUFFSIZE
  · cases outcome :
        aead.decrypt protocol.key (NONCE header)
          (payloadCiphertext header) (PAYLOAD_TAG header) with
    | none => simp [DecryptPayload_reject (Or.inr outcome)]
    | some plaintext =>
        simp [(DecryptPayload_accept fits outcome).2, fits]
  · simp [DecryptPayload_reject (Or.inl (Nat.not_le.mp fits)), fits]

/-- `DecryptPayload` never leaves the arrays. -/
theorem DecryptPayload_ne_none
    {aead : Aead 16}
    {self : Protocol}
    {header : PacketBuffer} :
    self.DecryptPayload aead header ≠ none := by
  rcases self.DecryptPayload_cases aead header with
      ⟨_, _, _, _, accepts⟩ | rejects
  · simp [accepts]
  · simp [rejects]

/-- What `DecryptPayload` does depends on the fields it reads only. -/
theorem DecryptPayload_congr
    (aead : Aead 16)
    (self : Protocol)
    {header other : PacketBuffer}
    (nonce : NONCE other = NONCE header)
    (tag : PAYLOAD_TAG other = PAYLOAD_TAG header)
    (length : PAYLOAD_LENGTH other = PAYLOAD_LENGTH header)
    (ciphertext : payloadCiphertext other = payloadCiphertext header) :
    (∃ protocol plaintext,
      self.DecryptPayload aead header =
          some (protocol, header.overwrite Size plaintext, true) ∧
        self.DecryptPayload aead other =
          some (protocol, other.overwrite Size plaintext, true)) ∨
      self.DecryptPayload aead header = some (self, header, false) ∧
        self.DecryptPayload aead other = some (self, other, false) := by
  by_cases fits : PAYLOAD_LENGTH header ≤ MAX_BUFFSIZE
  · cases outcome :
        aead.decrypt self.key (NONCE header) (payloadCiphertext header)
          (PAYLOAD_TAG header) with
    | none =>
        refine Or.inr ⟨DecryptPayload_reject (Or.inr outcome),
          DecryptPayload_reject (Or.inr ?_)⟩
        rw [nonce, ciphertext, tag]
        exact outcome
    | some plaintext =>
        have otherOutcome :
            aead.decrypt self.key (NONCE other)
                (payloadCiphertext other) (PAYLOAD_TAG other) =
              some plaintext := by
          rw [nonce, ciphertext, tag]
          exact outcome
        exact Or.inl ⟨_, plaintext,
          (DecryptPayload_accept fits outcome).2,
          (DecryptPayload_accept (length ▸ fits) otherOutcome).2⟩
  · exact Or.inr ⟨DecryptPayload_reject (Or.inl (by omega)),
      DecryptPayload_reject (Or.inl (by omega))⟩

/-- The header of an honest frame opens to its two lengths. -/
theorem DecryptHeader_frame
    {aead : Aead 16}
    (correct : aead.Correct)
    {self : Protocol}
    {header : PacketBuffer}
    {payload : List UInt8}
    {draw : SendDraw}
    (nonce : NONCE header = draw.nonce)
    (lenTag :
      LEN_TAG header =
        (aead.encrypt self.key draw.nonce (lengthsOf payload draw)).2)
    (lengths :
      lengthFields header =
        (aead.encrypt self.key draw.nonce (lengthsOf payload draw)).1)
    (fits : payload.length ≤ MAX_BUFFSIZE) :
    self.DecryptHeader aead header =
      (header.overwrite 44 (lengthsOf payload draw),
        bodyLength payload draw) := by
  have accepted :
      aead.decrypt self.key (NONCE header) (lengthFields header)
          (LEN_TAG header) =
        some (lengthsOf payload draw) := by
    rw [nonce, lenTag, lengths]
    exact correct _ _ _
  have maximum := length_paddingOf_le payload draw
  have sum :
      (ofWord32 ((lengthsOf payload draw).take 4) +
          ofWord32 ((lengthsOf payload draw).drop 4)) % 2 ^ 32 =
        bodyLength payload draw := by
    rw [show (lengthsOf payload draw).take 4 =
        word32 payload.length from rfl,
      show (lengthsOf payload draw).drop 4 =
        word32 (paddingOf payload draw).length from rfl,
      ofWord32_word32, ofWord32_word32]
    simp only [bodyLength, MAX_BUFFSIZE, OBF_MAXPADDLE] at *
    omega
  rw [DecryptHeader_accept accepted, sum]

/--
A header whose lengths were decrypted in place holds the payload length; the
nonce, the payload tag and the bytes behind the header are as before.
-/
theorem openedHeader_fields
    (header : PacketBuffer)
    {payload : List UInt8}
    (draw : SendDraw)
    (fits : payload.length ≤ MAX_BUFFSIZE) :
    PAYLOAD_LENGTH (header.overwrite 44 (lengthsOf payload draw)) =
        payload.length ∧
      NONCE (header.overwrite 44 (lengthsOf payload draw)) =
        NONCE header ∧
      PAYLOAD_TAG (header.overwrite 44 (lengthsOf payload draw)) =
        PAYLOAD_TAG header ∧
      ∀ offset length, Size ≤ offset →
        (header.overwrite 44 (lengthsOf payload draw)).slice
            offset length =
          header.slice offset length := by
  have written :
      lengthFields (header.overwrite 44 (lengthsOf payload draw)) =
        lengthsOf payload draw := by
    have same := Buffer.slice_overwrite_same header 44
      (lengthsOf payload draw) (by simp)
    rwa [length_lengthsOf] at same
  refine ⟨?_, ?_, ?_, ?_⟩
  · rw [(lengths_of_lengthFields written).1]
    simp only [MAX_BUFFSIZE] at fits
    omega
  · exact Buffer.slice_overwrite_disjoint _ (by simp)
  · exact Buffer.slice_overwrite_disjoint _ (by simp)
  · intro offset length behind
    exact Buffer.slice_overwrite_disjoint _
      (Or.inr (by simpa [Size] using behind))

/--
On an opened header, `DecryptPayload` accepts exactly what the cipher accepts
under the frame's nonce.
-/
theorem DecryptPayload_opened
    (aead : Aead 16)
    (self : Protocol)
    (buffer : PacketBuffer)
    {payload : List UInt8}
    (draw : SendDraw)
    (fits : payload.length ≤ MAX_BUFFSIZE) :
    let header := buffer.overwrite 44 (lengthsOf payload draw)
    let verdict :=
      aead.decrypt self.key (NONCE buffer)
        (buffer.slice Size payload.length) (PAYLOAD_TAG buffer)
    (∀ plaintext, verdict = some plaintext →
      plaintext.length = payload.length ∧
        self.DecryptPayload aead header =
          some
            ({ self with
                decryptedData :=
                  self.decryptedData.overwrite 0 plaintext },
              header.overwrite Size plaintext, true)) ∧
      (verdict = none →
        self.DecryptPayload aead header =
          some (self, header, false)) := by
  intro header verdict
  obtain ⟨length, nonce, tag, behind⟩ :=
    openedHeader_fields buffer draw fits
  have same :
      aead.decrypt self.key (NONCE header) (payloadCiphertext header)
          (PAYLOAD_TAG header) =
        verdict := by
    rw [payloadCiphertext, length, behind _ _ (Nat.le_refl _), nonce, tag]
  constructor
  · intro plaintext accepted
    rw [← same] at accepted
    have opened := DecryptPayload_accept
      (by rw [length]; exact fits) accepted
    rwa [length] at opened
  · intro rejected
    exact DecryptPayload_reject (Or.inr (by rw [same, rejected]))

end Protocol

end Dsvpn
