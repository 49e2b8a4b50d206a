import Dsvpn.DecodeBounds
import Dsvpn.StepSystem
import Dsvpn.Tunnel

namespace Dsvpn

open ProtocolHeader

/-!
# Datagrams after different histories

A UDP connection keeps one receive buffer for all datagrams, and decoding does
not look at how many bytes a datagram has.  So what earlier datagrams left in
the buffer can complete a short one.  Two histories of a connection are
compared on one datagram.
-/

/-- The buffer holds a frame that passes both decryptions. -/
structure Protocol.Decodes
    (aead : Aead 16)
    (protocol : Protocol)
    (buffer : PacketBuffer)
    (payload : List UInt8) : Prop where
  opens : (protocol.DecryptHeader aead buffer).2 ≠ 0
  fits :
    PAYLOAD_LENGTH (protocol.DecryptHeader aead buffer).1 ≤ MAX_BUFFSIZE
  authentic :
    aead.decrypt protocol.key
        (NONCE (protocol.DecryptHeader aead buffer).1)
        (payloadCiphertext (protocol.DecryptHeader aead buffer).1)
        (PAYLOAD_TAG (protocol.DecryptHeader aead buffer).1) =
      some payload

section

variable
    {aead : Aead 16}
    {protocol other : Protocol}
    {buffer otherBuffer : PacketBuffer}
    {payload : List UInt8}

namespace Protocol.Decodes

theorem length
    (decodes : protocol.Decodes aead buffer payload) :
    PAYLOAD_LENGTH (protocol.DecryptHeader aead buffer).1 =
      payload.length := by
  have same := aead.plaintext_length decodes.authentic
  rw [payloadCiphertext, Buffer.length_slice] at same
  exact same.symm

theorem unique
    {another : List UInt8}
    (decodes : protocol.Decodes aead buffer payload)
    (also : protocol.Decodes aead buffer another) :
    another = payload :=
  Option.some.inj (also.authentic.symm.trans decodes.authentic)

/-- Nothing behind the payload matters. -/
theorem agree
    (decodes : protocol.Decodes aead buffer payload)
    (sameKey : protocol.key = other.key)
    (agree :
      Buffer.AgreeOn (fun index => index < Size + payload.length)
        buffer otherBuffer) :
    other.Decodes aead otherBuffer payload := by
  have headers :=
    agree.mono fun index inside =>
      Nat.lt_of_lt_of_le inside (Nat.le_add_right Size payload.length)
  rcases DecryptHeader_agree aead protocol other sameKey headers with
      ⟨rejects, _⟩ | ⟨len, payload_len, lenLength, opened, otherOpened⟩
  · exact (decodes.opens (congrArg Prod.snd rejects)).elim
  · have length := decodes.length
    obtain ⟨opens, fits, authentic⟩ := decodes
    rw [opened] at opens fits authentic length
    have agreeOpened :=
      (agree.overwrite 44 len).mono fun index inside => Or.inl inside
    have part
        (offset length : Nat)
        (inside : offset + length ≤ Size + payload.length) :
        (buffer.overwrite 44 len).slice offset length =
          (otherBuffer.overwrite 44 len).slice offset length :=
      agreeOpened.slice fun index _ _ => by omega
    have sameLength :
        PAYLOAD_LENGTH (buffer.overwrite 44 len) =
          PAYLOAD_LENGTH (otherBuffer.overwrite 44 len) :=
      congrArg ofWord32 (part 44 4 (by simp only [Size]; omega))
    have sameCiphertext :
        payloadCiphertext (buffer.overwrite 44 len) =
          payloadCiphertext (otherBuffer.overwrite 44 len) := by
      rw [payloadCiphertext, payloadCiphertext, ← sameLength, length]
      exact part Size payload.length (Nat.le_refl _)
    rw [sameKey, NONCE, part 0 12 (by simp only [Size]; omega),
      sameCiphertext, PAYLOAD_TAG,
      part 28 16 (by simp only [Size]; omega)] at authentic
    refine ⟨?_, ?_, ?_⟩
    · rw [otherOpened]
      exact opens
    · rw [otherOpened]
      exact sameLength ▸ fits
    · rw [otherOpened]
      exact authentic

end Protocol.Decodes

/-- The value decoding yields, and the payload it stands for. -/
def IConnection.decided (output : IConnection × Int) : Int × List UInt8 :=
  (output.2, output.1.conn_recv_buffer.slice Size output.2.toNat)

/-- A frame that passes both decryptions is what decoding yields. -/
theorem IConnection.decryptFrame_decodes
    {self : IConnection}
    (decodes :
      self.protocol.Decodes aead self.conn_recv_buffer payload) :
    ∃ output,
      self.decryptFrame aead = some output ∧
        decided output = ((payload.length : Int), payload) := by
  obtain ⟨length, accepts⟩ :=
    Protocol.DecryptPayload_accept decodes.fits decodes.authentic
  have small := decodes.fits
  rw [← length] at small
  have lengthBehind :
      PAYLOAD_LENGTH
          ((self.protocol.DecryptHeader aead
            self.conn_recv_buffer).1.overwrite Size payload) =
        payload.length :=
    (PAYLOAD_LENGTH_overwrite _ _ (Nat.le_refl _)).trans length.symm
  have copied :
      ((self.protocol.DecryptHeader aead
          self.conn_recv_buffer).1.overwrite Size payload).slice
          Size payload.length =
        payload :=
    Buffer.slice_overwrite_same _ _ _ (by
      simp only [Size, MAX_BUFFSIZE] at *
      omega)
  unfold decryptFrame
  simp only [decodes.opens, if_false, accepts, Option.bind_eq_bind,
    Option.bind_some, if_true, lengthBehind]
  exact ⟨_, rfl, Prod.ext rfl copied⟩

/-- Without such a frame, decoding yields nothing. -/
theorem IConnection.decryptFrame_rejects
    {self : IConnection}
    (rejects :
      ∀ payload,
        self.protocol.Decodes aead self.conn_recv_buffer payload →
        payload = []) :
    ∃ output,
      self.decryptFrame aead = some output ∧
        decided output = (0, []) := by
  by_cases opens :
      (self.protocol.DecryptHeader aead self.conn_recv_buffer).2 = 0
  · unfold decryptFrame
    simp only [opens, if_true]
    exact ⟨_, rfl, rfl⟩
  · rcases self.protocol.DecryptPayload_cases aead
        (self.protocol.DecryptHeader aead self.conn_recv_buffer).1 with
        ⟨plaintext, fits, length, authentic, _⟩ | refused
    · have decodes :
          self.protocol.Decodes aead self.conn_recv_buffer plaintext :=
        ⟨opens, fits, authentic⟩
      obtain rfl := rejects plaintext decodes
      exact decryptFrame_decodes decodes
    · unfold decryptFrame
      simp only [opens, if_false, refused, Option.bind_eq_bind,
        Option.bind_some, Bool.false_eq_true]
      exact ⟨_, rfl, rfl⟩

end

/--
If other bytes behind these complete them to a frame that passes both
decryptions, then the payload lies within these bytes already.
-/
def SelfContained
    (aead : Aead 16)
    (conn_key : List UInt8)
    (bytes : List UInt8) : Prop :=
  ∀ others payload,
    (bytes ++ others).length ≤ 2000 →
    (Protocol.create conn_key).Decodes aead
      (Buffer.ofBytes (bytes ++ others)) payload →
    payload = [] ∨ Size + payload.length ≤ bytes.length

section

variable
    {aead : Aead 16}
    {conn_key : List UInt8}
    {bytes payload : List UInt8}

theorem IConnection.exists_decided
    (aead : Aead 16)
    (self : IConnection) :
    ∃ output,
      self.decryptFrame aead = some output ∧
        ((∃ payload,
          payload ≠ [] ∧
            self.protocol.Decodes aead self.conn_recv_buffer payload ∧
            decided output = ((payload.length : Int), payload)) ∨
        (∀ payload,
          self.protocol.Decodes aead self.conn_recv_buffer payload →
          payload = []) ∧
          decided output = (0, [])) := by
  by_cases rejects :
      ∀ payload,
        self.protocol.Decodes aead self.conn_recv_buffer payload →
        payload = []
  · obtain ⟨output, decoded, nothing⟩ := decryptFrame_rejects rejects
    exact ⟨output, decoded, Or.inr ⟨rejects, nothing⟩⟩
  · simp only [not_forall] at rejects
    obtain ⟨payload, decodes, nonempty⟩ := rejects
    obtain ⟨output, decoded, same⟩ := decryptFrame_decodes decodes
    exact ⟨output, decoded, Or.inl ⟨payload, nonempty, decodes, same⟩⟩

/-- What lies behind self-contained bytes in the buffer does not matter. -/
theorem SelfContained.within
    (contained : SelfContained aead conn_key bytes)
    {self : IConnection}
    (key : self.protocol.key = AES256GCM.keyOf conn_key)
    (short : bytes.length ≤ 2000)
    (begins : self.conn_recv_buffer.slice 0 bytes.length = bytes)
    (decodes : self.protocol.Decodes aead self.conn_recv_buffer payload)
    (nonempty : payload ≠ []) :
    Size + payload.length ≤ bytes.length := by
  have split :=
    Buffer.slice_append self.conn_recv_buffer 0 bytes.length
      (2000 - bytes.length)
  rw [begins, Nat.zero_add, Nat.add_sub_cancel' short] at split
  have whole := Buffer.ofBytes_slice self.conn_recv_buffer
  rw [split] at whole
  have completed :
      (Protocol.create conn_key).Decodes aead
        (Buffer.ofBytes
          (bytes ++
            self.conn_recv_buffer.slice bytes.length
              (2000 - bytes.length))) payload := by
    rw [whole]
    exact decodes.agree key fun _ _ => rfl
  have total :
      (bytes ++
          self.conn_recv_buffer.slice bytes.length
            (2000 - bytes.length)).length ≤
        2000 := by
    rw [List.length_append, Buffer.length_slice]
    omega
  rcases contained _ _ total completed with empty | inside
  · exact (nonempty empty).elim
  · exact inside

/-- Two buffers that begin with self-contained bytes decode alike. -/
theorem SelfContained.decided_eq
    (contained : SelfContained aead conn_key bytes)
    {first second : IConnection}
    (firstKey : first.protocol.key = AES256GCM.keyOf conn_key)
    (secondKey : second.protocol.key = AES256GCM.keyOf conn_key)
    (short : bytes.length ≤ 2000)
    (begins : first.conn_recv_buffer.slice 0 bytes.length = bytes)
    (alsoBegins : second.conn_recv_buffer.slice 0 bytes.length = bytes) :
    (first.decryptFrame aead).map IConnection.decided =
      (second.decryptFrame aead).map IConnection.decided := by
  have agree :
      Buffer.AgreeOn (fun index => index < bytes.length)
        first.conn_recv_buffer second.conn_recv_buffer := by
    intro index inside
    have firstByte :=
      Buffer.getElem_slice first.conn_recv_buffer 0 bytes.length index
        (by simpa using inside)
    have secondByte :=
      Buffer.getElem_slice second.conn_recv_buffer 0 bytes.length index
        (by simpa using inside)
    simp only [begins, alsoBegins, Nat.zero_add] at firstByte secondByte
    exact firstByte.symm.trans secondByte
  obtain ⟨output, decoded, outcome⟩ := first.exists_decided aead
  obtain ⟨also, alsoDecoded, alsoOutcome⟩ := second.exists_decided aead
  rw [decoded, alsoDecoded, Option.map_some, Option.map_some]
  rcases outcome with
      ⟨payload, nonempty, decodes, same⟩ | ⟨rejects, nothing⟩
  · have within :=
      contained.within firstKey short begins decodes nonempty
    have alsoDecodes :=
      decodes.agree (firstKey.trans secondKey.symm)
        (agree.mono fun _ inside => Nat.lt_of_lt_of_le inside within)
    rcases alsoOutcome with
        ⟨another, _, decodesAnother, alsoSame⟩ | ⟨alsoRejects, _⟩
    · obtain rfl := alsoDecodes.unique decodesAnother
      rw [same, alsoSame]
    · exact (nonempty (alsoRejects payload alsoDecodes)).elim
  · rcases alsoOutcome with
        ⟨payload, nonempty, decodes, _⟩ | ⟨_, alsoNothing⟩
    · have within :=
        contained.within secondKey short alsoBegins decodes nonempty
      have backwards :=
        decodes.agree (secondKey.trans firstKey.symm)
          fun index inside =>
            (agree index (Nat.lt_of_lt_of_le inside within)).symm
      exact (nonempty (rejects payload backwards)).elim
    · rw [nothing, alsoNothing]

/-- What is accepted lies within the self-contained bytes. -/
theorem SelfContained.value_le
    (contained : SelfContained aead conn_key bytes)
    {self : IConnection}
    {value : Int}
    (key : self.protocol.key = AES256GCM.keyOf conn_key)
    (short : bytes.length ≤ 2000)
    (begins : self.conn_recv_buffer.slice 0 bytes.length = bytes)
    (accepted :
      (self.decryptFrame aead).map IConnection.decided =
        some (value, payload))
    (positive : 0 < value) :
    Size + value ≤ bytes.length := by
  obtain ⟨output, decoded, outcome⟩ := self.exists_decided aead
  rw [decoded, Option.map_some, Option.some.injEq] at accepted
  rcases outcome with
      ⟨found, nonempty, decodes, same⟩ | ⟨_, nothing⟩
  · have within := contained.within key short begins decodes nonempty
    rw [same, Prod.mk.injEq] at accepted
    have length := accepted.1
    omega
  · rw [nothing, Prod.mk.injEq] at accepted
    have zero := accepted.1
    omega

end

/-! ## Histories of a connection -/

/-- One call on a connection, or a packet read into its TUN buffer. -/
inductive UdpCall (Endpoint : Type) where
  | receive (size : Nat) (arrival : Option (Endpoint × List UInt8))
  | receiveFrom (size : Nat) (arrival : Option (Endpoint × List UInt8))
  | readTun (packet : List UInt8)
  | send (size : Nat) (draw : SendDraw)
  | sendTo (size : Nat) (draw : SendDraw)

theorem IConnection.encryptFrame_key
    {aead : Aead 16}
    {self after : IConnection}
    {size : Nat}
    {draw : SendDraw}
    {frame : List UInt8}
    (sealed : self.encryptFrame aead size draw = some (after, frame)) :
    after.protocol.key = self.protocol.key := by
  by_cases fits : size % 2 ^ 32 ≤ MAX_BUFFSIZE
  · have length :
        (self.tun_recv_buffer.slice Size (size % 2 ^ 32)).length =
          size % 2 ^ 32 :=
      Buffer.length_slice _ _ _
    obtain ⟨result, expected, key, _⟩ :=
      self.encryptFrame_spec aead _ size draw length (by rw [length])
        (by rw [length]; exact fits)
    rw [sealed] at expected
    obtain ⟨rfl, _⟩ := Prod.mk.inj (Option.some.inj expected)
    exact key
  · rw [self.encryptFrame_outOfBounds aead draw (Nat.not_le.mp fits)]
      at sealed
    cases sealed

namespace UDPConnection

variable
    {Endpoint : Type}
    [DecidableEq Endpoint]

def perform
    (aead : Aead 16)
    (self : UDPConnection Endpoint) :
    UdpCall Endpoint → Option (UDPConnection Endpoint)
  | .receive size arrival =>
      (self.Receive aead size arrival).map Prod.fst
  | .receiveFrom size arrival =>
      (self.ReceiveFrom aead size arrival).map Prod.fst
  | .readTun packet =>
      self.readTun packet
  | .send size draw =>
      (self.Send aead size draw).map Prod.fst
  | .sendTo size draw =>
      (self.SendTo aead size draw).map Prod.fst

/-- After `Connect`, or after `Bind` when there is no endpoint to send to. -/
def started
    (conn_key : List UInt8)
    (remote_send_ep : Option Endpoint) : UDPConnection Endpoint :=
  { create conn_key with remote_send_ep := remote_send_ep }

/-- Some history leads to this state. -/
def Reached
    (aead : Aead 16)
    (conn_key : List UInt8)
    (remote_send_ep : Option Endpoint)
    (state : UDPConnection Endpoint) : Prop :=
  ∃ calls,
    StepSystem.run (perform aead) (started conn_key remote_send_ep) calls =
      some state

/-- What a receive operation decided about a datagram. -/
def decided
    (received : Option (UDPConnection Endpoint × Int)) :
    Option (Int × List UInt8) :=
  received.map fun output =>
    IConnection.decided (output.1.toIConnection, output.2)

/--
After all histories the operation decides the same about these bytes, and it
accepts them only if the whole payload is among them.
-/
structure JudgedByItself
    (aead : Aead 16)
    (conn_key : List UInt8)
    (remote_send_ep : Option Endpoint)
    (bytes : List UInt8)
    (receive :
      UDPConnection Endpoint →
        Option (UDPConnection Endpoint × Int)) : Prop where
  same :
    ∀ first second,
      Reached aead conn_key remote_send_ep first →
      Reached aead conn_key remote_send_ep second →
      decided (receive first) = decided (receive second)
  complete :
    ∀ state value payload,
      Reached aead conn_key remote_send_ep state →
      decided (receive state) = some (value, payload) →
      0 < value →
      Size + value ≤ bytes.length

section

variable
    {aead : Aead 16}
    {conn_key : List UInt8}
    {remote_send_ep : Option Endpoint}

/-- No call changes the key, or the endpoint to send to. -/
theorem perform_keeps
    {self next : UDPConnection Endpoint}
    {call : UdpCall Endpoint}
    (performed : perform aead self call = some next) :
    next.protocol.key = self.protocol.key ∧
      next.remote_send_ep = self.remote_send_ep := by
  have arrived
      {size : Nat}
      {arrival : Option (Endpoint × List UInt8)}
      {received : UDPConnection Endpoint}
      (arrives : self.asyncReceiveFrom size arrival = some received) :
      received.protocol.key = self.protocol.key ∧
        received.remote_send_ep = self.remote_send_ep := by
    cases arrival with
    | none =>
        obtain rfl := Option.some.inj arrives
        exact ⟨rfl, rfl⟩
    | some arrival =>
        simp only [asyncReceiveFrom, Option.bind_eq_bind,
          Option.bind_eq_some_iff, Option.some.injEq] at arrives
        obtain ⟨buffer, _, rfl⟩ := arrives
        exact ⟨rfl, rfl⟩
  cases call with
  | receive size arrival =>
      simp only [perform, UDPConnection.Receive, Option.bind_eq_bind,
        Option.map_eq_some_iff, Option.bind_eq_some_iff] at performed
      obtain ⟨output, ⟨received, arrives, resumed⟩, rfl⟩ := performed
      unfold resumeReceive at resumed
      split at resumed
      · obtain rfl := Option.some.inj resumed
        exact arrived arrives
      · simp only [Option.bind_eq_bind, Option.bind_eq_some_iff,
          Option.some.injEq] at resumed
        obtain ⟨decoded, decodes, rfl⟩ := resumed
        exact ⟨(IConnection.decryptFrame_key decodes).trans
          (arrived arrives).1, (arrived arrives).2⟩
  | receiveFrom size arrival =>
      simp only [perform, UDPConnection.ReceiveFrom, resumeReceiveFrom,
        Option.bind_eq_bind, Option.map_eq_some_iff,
        Option.bind_eq_some_iff, Option.some.injEq] at performed
      obtain ⟨_, ⟨received, arrives, decoded, decodes, rfl⟩, rfl⟩ :=
        performed
      exact ⟨(IConnection.decryptFrame_key decodes).trans
        (arrived arrives).1, (arrived arrives).2⟩
  | readTun packet =>
      simp only [perform, UDPConnection.readTun, Option.bind_eq_bind,
        Option.bind_eq_some_iff, Option.some.injEq] at performed
      obtain ⟨ready, staged, rfl⟩ := performed
      obtain ⟨buffer, rfl, _⟩ := IConnection.readTun_staged staged
      exact ⟨rfl, rfl⟩
  | send size draw =>
      simp only [perform, UDPConnection.Send, Option.bind_eq_bind,
        Option.map_eq_some_iff, Option.bind_eq_some_iff,
        Option.some.injEq] at performed
      obtain ⟨_, ⟨⟨after, frame⟩, sealed, rfl⟩, rfl⟩ := performed
      exact ⟨IConnection.encryptFrame_key sealed, rfl⟩
  | sendTo size draw =>
      simp only [perform, UDPConnection.SendTo, Option.bind_eq_bind,
        Option.map_eq_some_iff, Option.bind_eq_some_iff,
        Option.some.injEq] at performed
      obtain ⟨_, ⟨⟨after, frame⟩, sealed, rfl⟩, rfl⟩ := performed
      exact ⟨IConnection.encryptFrame_key sealed, rfl⟩

/-- The key and the endpoint are those of the start in every history. -/
theorem Reached.keeps
    {state : UDPConnection Endpoint}
    (reached : Reached aead conn_key remote_send_ep state) :
    state.protocol.key = AES256GCM.keyOf conn_key ∧
      state.remote_send_ep = remote_send_ep := by
  obtain ⟨calls, performed⟩ := reached
  let Invariant (state : UDPConnection Endpoint) : Prop :=
    state.protocol.key = AES256GCM.keyOf conn_key ∧
      state.remote_send_ep = remote_send_ep
  have kept :
      ∀ {before call after},
        Invariant before →
        perform aead before call = some after →
        Invariant after := by
    intro before call after holds step
    obtain ⟨key, endpoint⟩ := perform_keeps step
    exact ⟨key.trans holds.1, endpoint.trans holds.2⟩
  have holds : Invariant state :=
    StepSystem.run_invariant kept (by exact ⟨rfl, rfl⟩) performed
  exact holds

/--
A receive operation that decodes what it has got decides about these bytes by
themselves exactly if they contain their whole frame.
-/
theorem judgedByItself_iff
    {other : Endpoint}
    (foreign : some other ≠ remote_send_ep)
    {bytes : List UInt8}
    {receive :
      UDPConnection Endpoint → Option (UDPConnection Endpoint × Int)}
    (decodes :
      ∀ state,
        Reached aead conn_key remote_send_ep state →
        decided (receive state) =
          (state.conn_recv_buffer.store? 0 bytes).bind fun buffer =>
            (IConnection.decryptFrame aead
              { state.toIConnection with
                conn_recv_buffer := buffer }).map
              IConnection.decided) :
    JudgedByItself aead conn_key remote_send_ep bytes receive ↔
      SelfContained aead conn_key bytes := by
  constructor
  · intro judged others payload total completed
    have short : bytes.length ≤ 2000 := by
      rw [List.length_append] at total
      omega
    by_cases empty : payload = []
    · exact Or.inl empty
    -- a datagram from elsewhere leaves all its bytes in the buffer
    let state : UDPConnection Endpoint :=
      { started conn_key remote_send_ep with
        conn_recv_buffer := Buffer.ofBytes (bytes ++ others)
        last_recv_ep := some other }
    have left :
        perform aead (started conn_key remote_send_ep)
            (.receive 2000 (some (other, bytes ++ others))) =
          some state := by
      have whole : (bytes ++ others).take 2000 = bytes ++ others :=
        List.take_of_length_le total
      have inside : 0 + (bytes ++ others).length ≤ 2000 := by omega
      simp only [perform, Receive, asyncReceiveFrom, whole,
        Buffer.store?_eq_some _ inside, Option.bind_eq_bind,
        Option.bind_some, resumeReceive]
      rw [if_pos (by exact foreign)]
      rfl
    have reached : Reached aead conn_key remote_send_ep state :=
      ⟨[.receive 2000 (some (other, bytes ++ others))],
        by simp only [StepSystem.run, left]⟩
    have begins : 0 + bytes.length ≤ 2000 := by omega
    have inBuffer :
        state.protocol.Decodes aead state.conn_recv_buffer payload :=
      completed
    obtain ⟨output, decoded, same⟩ :=
      IConnection.decryptFrame_decodes inBuffer
    have accepted :
        decided (receive state) =
          some ((payload.length : Int), payload) := by
      rw [decodes state reached, Buffer.store?_eq_some _ begins]
      simp only [state, Buffer.overwrite_ofBytes, Option.bind_some]
      rw [← same]
      exact congrArg (Option.map IConnection.decided) decoded
    have positive : (0 : Int) < payload.length :=
      Int.ofNat_lt.mpr (List.length_pos_iff.mpr empty)
    have complete := judged.complete state _ _ reached accepted positive
    exact Or.inr (by omega)
  · intro contained
    refine ⟨fun first second reached alsoReached => ?_,
      fun state value payload reached accepted positive => ?_⟩
    · rw [decodes first reached, decodes second alsoReached]
      by_cases inside : 0 + bytes.length ≤ 2000
      · rw [Buffer.store?_eq_some _ inside, Buffer.store?_eq_some _ inside,
          Option.bind_some, Option.bind_some]
        exact contained.decided_eq reached.keeps.1 alsoReached.keeps.1
          (by omega) (Buffer.slice_overwrite_same _ _ _ inside)
          (Buffer.slice_overwrite_same _ _ _ inside)
      · rw [Buffer.store?_eq_none _ inside,
          Buffer.store?_eq_none _ inside, Option.bind_none,
          Option.bind_none]
    · rw [decodes state reached] at accepted
      by_cases inside : 0 + bytes.length ≤ 2000
      · rw [Buffer.store?_eq_some _ inside, Option.bind_some] at accepted
        exact contained.value_le (by exact reached.keeps.1) (by omega)
          (by exact Buffer.slice_overwrite_same _ _ _ inside) accepted
          positive
      · rw [Buffer.store?_eq_none _ inside] at accepted
        cases accepted

end

/--
The two receive operations on one datagram, of which they get at most `size`
bytes: their results do not depend on the history exactly if no bytes behind
it make it a longer frame.
-/
theorem judged_by_itself_iff
    (aead : Aead 16)
    (conn_key : List UInt8)
    (remote_send_ep : Option Endpoint)
    (size : Nat)
    (source : Endpoint)
    (datagram : List UInt8)
    {other : Endpoint}
    (foreign : some other ≠ remote_send_ep) :
    (JudgedByItself aead conn_key remote_send_ep (datagram.take size)
        (fun state =>
          state.ReceiveFrom aead size (some (source, datagram))) ↔
      SelfContained aead conn_key (datagram.take size)) ∧
    (remote_send_ep = some source →
      (JudgedByItself aead conn_key remote_send_ep (datagram.take size)
          (fun state =>
            state.Receive aead size (some (source, datagram))) ↔
        SelfContained aead conn_key (datagram.take size))) := by
  refine ⟨judgedByItself_iff foreign ?_, fun fromServer =>
    judgedByItself_iff foreign ?_⟩
  · intro state _
    cases stored :
        state.conn_recv_buffer.store? 0 (datagram.take size) with
    | none =>
        simp [decided, ReceiveFrom, asyncReceiveFrom, stored]
    | some buffer =>
        obtain ⟨output, decoded, _⟩ :=
          IConnection.exists_decided aead
            { state.toIConnection with conn_recv_buffer := buffer }
        simp [decided, ReceiveFrom, asyncReceiveFrom, stored,
          resumeReceiveFrom, decoded]
  · intro state reached
    have endpoint := reached.keeps.2
    rw [fromServer] at endpoint
    cases stored :
        state.conn_recv_buffer.store? 0 (datagram.take size) with
    | none =>
        simp [decided, Receive, asyncReceiveFrom, stored]
    | some buffer =>
        obtain ⟨output, decoded, _⟩ :=
          IConnection.exists_decided aead
            { state.toIConnection with conn_recv_buffer := buffer }
        simp [decided, Receive, asyncReceiveFrom, stored,
          resumeReceive, endpoint, decoded]

/-- The frame of the packet `[69]`, sealed under the key. -/
def shortFrame : List UInt8 :=
  frameBytes Aead.checksumAead (AES256GCM.keyOf [49]) [69]
    (SendDraw.constant 7)

/-- The frame with another first byte; its header does not authenticate. -/
def alteredFrame : List UInt8 :=
  0 :: shortFrame.drop 1

/--
The first twelve bytes of the frame, rejected by a fresh server, are accepted
by one that has rejected the altered frame before.
-/
theorem shortDatagram_completed :
    (StepSystem.run (perform Aead.checksumAead)
        (started [49] (none : Option Nat))
        [.receiveFrom 1500 (some (1, alteredFrame))]).map
          (fun state =>
            decided
              (state.ReceiveFrom Aead.checksumAead 1500
                (some (2, shortFrame.take 12)))) =
      some (some (1, [69])) ∧
    decided
        ((started [49] (none : Option Nat)).ReceiveFrom Aead.checksumAead
          1500 (some (2, shortFrame.take 12))) =
      some (0, []) ∧
    ¬ JudgedByItself Aead.checksumAead [49] (none : Option Nat)
        ((shortFrame.take 12).take 1500)
        (fun state =>
          state.ReceiveFrom Aead.checksumAead 1500
            (some (2, shortFrame.take 12))) := by
  have afterAltered :
      (StepSystem.run (perform Aead.checksumAead)
          (started [49] (none : Option Nat))
          [.receiveFrom 1500 (some (1, alteredFrame))]).map
            (fun state =>
              decided
                (state.ReceiveFrom Aead.checksumAead 1500
                  (some (2, shortFrame.take 12)))) =
        some (some (1, [69])) := by
    decide +kernel
  have fresh :
      decided
          ((started [49] (none : Option Nat)).ReceiveFrom
            Aead.checksumAead 1500 (some (2, shortFrame.take 12))) =
        some (0, []) := by
    decide +kernel
  refine ⟨afterAltered, fresh, fun judged => ?_⟩
  obtain ⟨state, reached, accepted⟩ :=
    Option.map_eq_some_iff.mp afterAltered
  have same := judged.same _ _ ⟨_, reached⟩ ⟨[], rfl⟩
  rw [accepted, fresh] at same
  cases same

theorem judged_by_itself_iff_shortDatagram :
    (JudgedByItself Aead.checksumAead [49] (some 2)
        ((shortFrame.take 12).take 1500)
        (fun state =>
          state.ReceiveFrom Aead.checksumAead 1500
            (some (2, shortFrame.take 12))) ↔
      SelfContained Aead.checksumAead [49]
        ((shortFrame.take 12).take 1500)) ∧
    (some 2 = some 2 →
      (JudgedByItself Aead.checksumAead [49] (some 2)
          ((shortFrame.take 12).take 1500)
          (fun state =>
            state.Receive Aead.checksumAead 1500
              (some (2, shortFrame.take 12))) ↔
        SelfContained Aead.checksumAead [49]
          ((shortFrame.take 12).take 1500))) :=
  judged_by_itself_iff Aead.checksumAead [49] (some 2) 1500 2
    (shortFrame.take 12) (by decide : some 1 ≠ some 2)

end UDPConnection

end Dsvpn
